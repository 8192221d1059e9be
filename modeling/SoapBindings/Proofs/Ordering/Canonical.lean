import Mathlib
import SoapBindings.Proofs.Ordering.Restriction

/-!
# The canonical order

Most graphs have many orders in which every type stands behind all that it needs complete
(`TypeGraph.Linear`). The one that types are written in is the first of them, if the orders are put
in order themselves, as words are (`ofGraph_least`).

Each time the least ready type is taken. This choice is never regretted: whatever order there is
begins with a ready type (`head_ready`), so one that begins otherwise begins with a greater type,
and then it does not matter how it goes on (`emission_least`).
-/

set_option autoImplicit false

namespace SoapBindings

/-- The types of the graph, each once, and each behind all that it needs complete. -/
structure TypeGraph.Linear (g : TypeGraph) (order : List TypeId) : Prop where
  once : order.Nodup
  all : ∀ id, id ∈ order ↔ id ∈ g.types
  behind : ∀ a b, g.NeedsComplete a b → [b, a].Sublist order

namespace NamespaceCodes

/-- What a namespace is compared by; one without a code stands for itself. -/
def codeOf (codes : NamespaceCodes) (id : TypeId) : String := (codes.code? id.ns).getD id.ns

/-- Types are compared by the codes of their namespaces, then by name, and then by identity: of two
of one name the named one comes before the anonymous one, and else the namespaces are compared. -/
def Precedes (codes : NamespaceCodes) (a b : TypeId) : Prop :=
  codes.codeOf a < codes.codeOf b ∨ codes.codeOf a = codes.codeOf b ∧
    (a.qname.localName < b.qname.localName ∨ a.qname.localName = b.qname.localName ∧
      (a.rank < b.rank ∨ a.rank = b.rank ∧ a.ns < b.ns))

end NamespaceCodes

namespace OrderedGraph

variable {key : TypeId → TypeKey} {pending order : List TypeId} {needs : List ValueNeed}
  {g : TypeGraph} {codes : NamespaceCodes} {o : OrderedGraph} {a b : TypeId}

/-! ## Comparing types -/

/-- Ready types are compared as the codes say. -/
theorem compareBy_eq_lt_iff : compareBy codes.typeKey a b = .lt ↔ codes.Precedes a b := by
  have key : compare (codes.typeKey a) (codes.typeKey b) = .lt ↔ codes.codeOf a < codes.codeOf b ∨
      codes.codeOf a = codes.codeOf b ∧ a.qname.localName < b.qname.localName :=
    Ordering.then_eq_lt.trans
      (or_congr compare_lt_iff_lt (and_congr compare_eq_iff_eq compare_lt_iff_lt))
  have sameKey : compare (codes.typeKey a) (codes.typeKey b) = .eq ↔
      codes.codeOf a = codes.codeOf b ∧ a.qname.localName = b.qname.localName :=
    compareLex_eq_eq.trans (and_congr compare_eq_iff_eq compare_eq_iff_eq)
  have name : compare a.qname b.qname = .lt ↔
      a.ns < b.ns ∨ a.ns = b.ns ∧ a.qname.localName < b.qname.localName :=
    Ordering.then_eq_lt.trans
      (or_congr compare_lt_iff_lt (and_congr compare_eq_iff_eq compare_lt_iff_lt))
  have identity : compare a b = .lt ↔ a.rank < b.rank ∨ a.rank = b.rank ∧
      (a.ns < b.ns ∨ a.ns = b.ns ∧ a.qname.localName < b.qname.localName) :=
    Ordering.then_eq_lt.trans (or_congr compare_lt_iff_lt (and_congr compare_eq_iff_eq name))
  rw [compareBy, compareLex, Ordering.then_eq_lt, compareOn, key, sameKey, identity]
  constructor
  · rintro ((code | ⟨code, name⟩) | ⟨⟨code, name⟩, rank | ⟨rank, ns | ⟨_, name'⟩⟩⟩)
    · exact Or.inl code
    · exact Or.inr ⟨code, Or.inl name⟩
    · exact Or.inr ⟨code, Or.inr ⟨name, Or.inl rank⟩⟩
    · exact Or.inr ⟨code, Or.inr ⟨name, Or.inr ⟨rank, ns⟩⟩⟩
    · rw [name] at name'
      exact absurd name' (lt_irrefl _)
  · rintro (code | ⟨code, name | ⟨name, rank | ⟨rank, ns⟩⟩⟩)
    · exact Or.inl (Or.inl code)
    · exact Or.inl (Or.inr ⟨code, name⟩)
    · exact Or.inr ⟨⟨code, name⟩, Or.inl rank⟩
    · exact Or.inr ⟨⟨code, name⟩, Or.inr ⟨rank, Or.inl ns⟩⟩

/-- No two types are equal to the comparison. -/
theorem compareBy_eq_lt_of_ne (le : (compareBy key a b).isLE) (ne : a ≠ b) :
    compareBy key a b = .lt := by
  cases h : compareBy key a b with
  | lt => rfl
  | gt =>
    rw [h] at le
    cases le
  | eq => exact absurd (Std.LawfulEqCmp.eq_of_compare (compareLex_eq_eq.mp h).2) ne

/-! ## The first of all orders -/

/-- The first type of an order needs nothing. -/
theorem head_ready (nodup : (a :: order).Nodup) (perm : (a :: order).Perm pending)
    (behind : ∀ n ∈ needs, [n.target, n.source].Sublist (a :: order)) :
    a ∈ ready pending needs := by
  refine mem_ready.mpr ⟨perm.mem_iff.mp List.mem_cons_self, ?_⟩
  rintro n hn rfl
  -- It would come a second time, behind what it needs.
  have again : n.source ∈ order := List.singleton_sublist.mp (behind n hn).tail
  exact (List.nodup_cons.mp nodup).1 again

/-- Of all orders of the pending types, each behind what it needs, the emission is the least. -/
theorem emission_least (nodup : order.Nodup) (perm : order.Perm pending)
    (behind : ∀ n ∈ needs, [n.target, n.source].Sublist order) :
    order = emission key pending needs ∨
      List.Lex (fun a b => compareBy key a b = .lt) (emission key pending needs) order := by
  induction order generalizing pending needs with
  | nil =>
    left
    rw [List.nil_perm.mp perm, emission_eq]
    rfl
  | cons first order ih =>
    have hfirst := head_ready nodup perm behind
    rw [emission_eq]
    cases hleast : leastBy (compareBy key) (ready pending needs) with
    | none =>
      rw [leastBy_eq_none_iff.mp hleast] at hfirst
      cases hfirst
    | some least =>
      by_cases same : least = first
      · subst same
        have rest : order = emission key (pending.erase least) (needs.filter (·.target != least)) ∨
            List.Lex (fun a b => compareBy key a b = .lt)
              (emission key (pending.erase least) (needs.filter (·.target != least))) order := by
          refine ih (List.nodup_cons.mp nodup).2 (List.cons_perm_iff_perm_erase.mp perm).2 ?_
          intro n hn
          obtain ⟨hn, other⟩ := List.mem_filter.mp hn
          rcases List.sublist_cons_iff.mp (behind n hn) with later | ⟨_, here, _⟩
          · exact later
          · cases here
            simp at other
        rcases rest with equal | less
        · exact Or.inl (congrArg (least :: ·) equal)
        · exact Or.inr (.cons less)
      · have le := isLE_of_leastBy hleast hfirst
        exact Or.inr (.rel (compareBy_eq_lt_of_ne le same))

/-- The order is one of the graph that is given back, and it is the least of them in the order of
words, types being compared as the codes say. -/
theorem ofGraph_least (h : ofGraph g codes = .ok o) : o.graph.Linear o.order ∧
    ∀ order, o.graph.Linear order → order = o.order ∨ List.Lex codes.Precedes o.order order := by
  have linear : o.graph.Linear o.order :=
    { once := (order_perm h).nodup_iff.mpr (nodup_keys g.types)
      all := fun _ => mem_order h
      behind := fun _ _ => before_of_needsComplete h }
  refine ⟨linear, fun order other => ?_⟩
  have sameTypes : order.Perm g.types.keys := by
    refine (List.perm_ext_iff_of_nodup other.once linear.once).mpr (fun id => ?_) |>.trans
      (order_perm h)
    rw [other.all, linear.all]
  obtain ⟨left, broken, breaks, rfl⟩ := ofGraph_eq_ok h
  have behind : ∀ n ∈ left, [n.target, n.source].Sublist order :=
    fun n hn => other.behind _ _ ((requires_left breaks).mp ⟨n, hn, rfl, rfl⟩)
  have least : order = emission codes.typeKey g.types.keys left ∨
      List.Lex (fun a b => compareBy codes.typeKey a b = .lt)
        (emission codes.typeKey g.types.keys left) order :=
    emission_least other.once sameTypes behind
  refine least.imp_right fun less => ?_
  exact less.imp fun _ _ => compareBy_eq_lt_iff.mp

/-! ## A type that is ready late -/

/-- A type that needs no other type. -/
def needless : TypeNode where
  kind := .simple (.builtin .string) []
  base := none
  isAbstract := false
  documentation := none
  origin := default

def idFree : TypeId := .named ⟨"", "C"⟩

/-- `A` holds `B`; `C` has nothing to do with them. -/
def lateHolder : TypeGraph :=
  ⟨Std.ExtTreeMap.ofList [(idA, holder idB), (idB, needless), (idFree, needless)], ∅⟩

theorem keys_lateHolder : lateHolder.types.keys = [idA, idB, idFree] := by cbv

theorem valueNeeds_lateHolder : lateHolder.valueNeeds = [needAB] := by cbv

theorem ofGraph_lateHolder :
    ofGraph lateHolder ⟨∅⟩ = .ok ⟨lateHolder, [idB, idA, idFree], []⟩ := by
  have unbroken : breakCycles (NamespaceCodes.typeKey ⟨∅⟩) [idA, idB, idFree] [needAB] =
      .ok ([needAB], []) :=
    breakCycles_eq_ok_iff.mpr (.done (by cbv))
  have emitted : emission (NamespaceCodes.typeKey ⟨∅⟩) [idA, idB, idFree] [needAB] =
      [idB, idA, idFree] := by cbv
  rw [ofGraph, keys_lateHolder, valueNeeds_lateHolder, unbroken]
  simp only [bind, Except.bind, emitted]
  rfl

theorem linear_lateHolder : lateHolder.Linear [idFree, idB, idA] where
  once := by decide
  all id := by
    have perm : [idFree, idB, idA].Perm lateHolder.types.keys := by
      rw [keys_lateHolder]
      decide
    rw [perm.mem_iff, Std.ExtTreeMap.mem_keys]
  behind a b h := by
    obtain ⟨n, hn, rfl, rfl⟩ := TypeGraph.requires_valueNeeds.mpr h
    rw [valueNeeds_lateHolder, List.mem_singleton] at hn
    subst hn
    decide

/-- `A` comes before `C`, although `C` could have come before both. -/
theorem ofGraph_least_lateHolder : ∃ o, ofGraph lateHolder ⟨∅⟩ = .ok o ∧
    o.order = [idB, idA, idFree] ∧ o.graph.Linear [idFree, idB, idA] ∧
      List.Lex (NamespaceCodes.Precedes ⟨∅⟩) o.order [idFree, idB, idA] := by
  refine ⟨_, ofGraph_lateHolder, rfl, linear_lateHolder, ?_⟩
  rcases (ofGraph_least ofGraph_lateHolder).2 _ linear_lateHolder with same | less
  · exact absurd same (by decide)
  · exact less

end OrderedGraph

end SoapBindings
