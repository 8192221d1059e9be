import Mathlib
import SoapBindings.Graph.Order
import SoapBindings.Proofs.Graph.Reachability
import SoapBindings.Proofs.Ordering.Breaking
import SoapBindings.Proofs.Ordering.Rewriting

/-!
# Ordered graphs

Types are emitted as long as one of them is ready. If the needs of the pending types have no cycle,
one is always ready (`exists_ready`), so no type is dropped and each stands behind all that it needs
complete (`emission_linearizes`). `OrderedGraph.emission` also drops the needs of what has been
emitted; the induction therefore carries that the needs stay within the pending types and remain
without a cycle.

What `OrderedGraph.ofGraph` gives when it gives a graph: `ofGraph_eq_ok` takes a run apart into the
rounds that break cycles, the rewritten table and the emission; `ofGraph_linear` puts together what
has been said of the three.
-/

set_option autoImplicit false

namespace SoapBindings

open Relation

/-! ## Emission -/

theorem leastBy_eq_none_iff {α : Type} {cmp : α → α → Ordering} {as : List α} :
    leastBy cmp as = none ↔ as = [] := by
  cases as with
  | nil => simp [leastBy]
  | cons a as =>
    rw [leastBy]
    split
    · simp
    · split <;> simp

namespace OrderedGraph

variable {key : TypeId → TypeKey} {pending : List TypeId} {needs : List ValueNeed} {a : TypeId}

theorem mem_ready : a ∈ ready pending needs ↔ a ∈ pending ∧ ∀ n ∈ needs, n.source ≠ a := by
  simp [ready]

/-- Of pending types whose needs have no cycle one is ready: a minimal one. -/
theorem exists_ready (within : Within pending needs)
    (acyclic : ∀ a, ¬ TransGen (Requires needs) a a) (some : pending ≠ []) :
    ∃ a, a ∈ ready pending needs := by
  -- A minimal type for "needs, on whatever way" needs nothing, so it is ready.
  let after (a b : { a // a ∈ pending }) : Prop := TransGen (Requires needs) b.1 a.1
  have : IsTrans _ after := ⟨fun _ _ _ hab hbc => hbc.trans hab⟩
  have : Std.Irrefl after := ⟨fun a => acyclic a.1⟩
  have : Finite { a // a ∈ pending } := List.finite_toSet pending
  have wellFounded : WellFounded after := Finite.wellFounded_of_trans_of_irrefl after
  obtain ⟨first, hfirst⟩ := List.exists_mem_of_ne_nil pending some
  obtain ⟨⟨a, ha⟩, _, minimal⟩ := wellFounded.has_min Set.univ ⟨⟨first, hfirst⟩, trivial⟩
  refine ⟨a, mem_ready.mpr ⟨ha, ?_⟩⟩
  rintro n hn rfl
  have needed : Requires needs n.source n.target := ⟨n, hn, rfl, rfl⟩
  exact minimal ⟨n.target, within.target n hn⟩ trivial (.single needed)

theorem emission_eq (key : TypeId → TypeKey) (pending : List TypeId) (needs : List ValueNeed) :
    emission key pending needs =
      match leastBy (compareBy key) (ready pending needs) with
      | none => []
      | some id => id :: emission key (pending.erase id) (needs.filter (·.target != id)) := by
  rw [emission]
  split
  · next h => simp only [h]
  · next id h => simp only [h]

/-- What is pending, and what it needs, after the ready type `a` has been emitted. -/
theorem Within.emit (within : Within pending needs) (ready : a ∈ ready pending needs) :
    Within (pending.erase a) (needs.filter (·.target != a)) where
  source n hn := by
    have hn := (List.mem_filter.mp hn).1
    exact (List.mem_erase_of_ne ((mem_ready.mp ready).2 n hn)).mpr (within.source n hn)
  target n hn := by
    obtain ⟨hn, hne⟩ := List.mem_filter.mp hn
    exact (List.mem_erase_of_ne (by simpa using hne)).mpr (within.target n hn)

theorem Requires.of_filter {p : ValueNeed → Bool} {b : TypeId}
    (h : Requires (needs.filter p) a b) : Requires needs a b := by
  obtain ⟨n, hn, h⟩ := h
  exact ⟨n, (List.mem_filter.mp hn).1, h⟩

/-- Every pending type is emitted, once, and each behind all that it needs complete. -/
theorem emission_linearizes (within : Within pending needs)
    (acyclic : ∀ a, ¬ TransGen (Requires needs) a a) :
    (emission key pending needs).Perm pending ∧
      ∀ n ∈ needs, [n.target, n.source].Sublist (emission key pending needs) := by
  induction hn : pending.length using Nat.strongRecOn generalizing pending needs with
  | ind length ih =>
    rw [emission_eq]
    cases hleast : leastBy (compareBy key) (ready pending needs) with
    | none =>
      -- Nothing is ready, so nothing is pending: no type has been dropped.
      have empty : pending = [] := by
        by_contra some
        obtain ⟨a, ha⟩ := exists_ready within acyclic some
        rw [leastBy_eq_none_iff.mp hleast] at ha
        exact absurd ha (by simp)
      subst empty
      refine ⟨.nil, fun n hn => ?_⟩
      exact absurd (within.source n hn) (by simp)
    | some id =>
      have hready : id ∈ ready pending needs := mem_of_leastBy hleast
      obtain ⟨hid, unblocked⟩ := mem_ready.mp hready
      have shorter : (pending.erase id).length < length := by
        rw [← hn, List.length_erase_of_mem hid]
        exact Nat.sub_one_lt (Nat.ne_of_gt (List.length_pos_of_mem hid))
      obtain ⟨perm, behind⟩ := ih _ shorter (Within.emit within hready)
        (fun a h => acyclic a (TransGen.mono (fun _ _ => Requires.of_filter) _ _ h)) rfl
      refine ⟨(perm.cons id).trans (List.perm_cons_erase hid).symm, fun n hn => ?_⟩
      by_cases htarget : n.target = id
      · -- The need of what is emitted now: its source is still to come.
        have later : n.source ∈ emission key (pending.erase id) (needs.filter (·.target != id)) :=
          perm.mem_iff.mpr ((List.mem_erase_of_ne (unblocked n hn)).mpr (within.source n hn))
        rw [htarget]
        exact (List.singleton_sublist.mpr later).cons_cons id
      · exact (behind n (List.mem_filter.mpr ⟨hn, by simpa using htarget⟩)).cons id

end OrderedGraph

end SoapBindings

namespace SoapBindings.OrderedGraph

open Relation

/-! ## From a graph to an ordered graph -/

variable {g : TypeGraph} {codes : NamespaceCodes} {o : OrderedGraph}

theorem ofGraph_eq_ok (h : ofGraph g codes = .ok o) : ∃ left broken,
    Breaks codes.typeKey g.types.keys g.valueNeeds left broken ∧
      o = { graph := { g with types := rewrite g.types (broken.filterMap memberOf) }
            order := emission codes.typeKey g.types.keys left
            rewritten := broken.filterMap memberOf } := by
  cases hb : breakCycles codes.typeKey g.types.keys g.valueNeeds with
  | error cycle =>
    rw [ofGraph, hb] at h
    cases h
  | ok result =>
    obtain ⟨left, broken⟩ := result
    rw [ofGraph, hb] at h
    cases h
    exact ⟨left, broken, breakCycles_eq_ok_iff.mp hb, rfl⟩

/-- The needs that are left when cycles are broken are those of the graph that is given back. -/
theorem requires_left {left broken : List ValueNeed}
    (h : Breaks codes.typeKey g.types.keys g.valueNeeds left broken) {a b : TypeId} :
    Requires left a b ↔ TypeGraph.NeedsComplete
      { g with types := rewrite g.types (broken.filterMap memberOf) } a b := by
  have sub : ∀ n ∈ broken, n ∈ g.valueNeeds ∧ n.member.isSome := fun n hn => h.mem_broken hn
  rw [← TypeGraph.requires_valueNeeds, h.left_eq]
  constructor
  · rintro ⟨n, hn, ends⟩
    exact ⟨n, (mem_valueNeeds_rewrite sub).mpr hn, ends⟩
  · rintro ⟨n, hn, ends⟩
    exact ⟨n, (mem_valueNeeds_rewrite sub).mp hn, ends⟩

theorem nodup_keys (types : TypeTable) : types.keys.Nodup :=
  Std.ExtTreeMap.distinct_keys.imp fun hne he => by
    subst he
    exact hne Std.ReflCmp.compare_self

/-- A graph without cycles is put in order as it is. -/
theorem ofGraph_of_acyclic (acyclic : ∀ a, ¬ TransGen g.NeedsComplete a a) :
    ∃ o, ofGraph g codes = .ok o ∧ o.graph = g := by
  have same : Requires g.valueNeeds = g.NeedsComplete := by
    funext a b
    exact propext TypeGraph.requires_valueNeeds
  have done : Breaks codes.typeKey g.types.keys g.valueNeeds g.valueNeeds [] :=
    .done ((cyclicComponents_eq_nil_iff TypeGraph.within_valueNeeds).mpr (same ▸ acyclic))
  refine ⟨⟨g, emission codes.typeKey g.types.keys g.valueNeeds, []⟩, ?_, rfl⟩
  rw [ofGraph, breakCycles_eq_ok_iff.mpr done]
  rfl

/-- The order lists the types of the graph. -/
theorem order_perm (h : ofGraph g codes = .ok o) : o.order.Perm g.types.keys := by
  obtain ⟨left, broken, breaks, rfl⟩ := ofGraph_eq_ok h
  have within : Within g.types.keys left := breaks.left_eq ▸ TypeGraph.within_valueNeeds.unbroken
  exact (emission_linearizes within (breaks.acyclic TypeGraph.within_valueNeeds)).1

theorem mem_types_ofGraph (h : ofGraph g codes = .ok o) {id : TypeId} :
    id ∈ o.graph.types ↔ id ∈ g.types := by
  obtain ⟨left, broken, _, rfl⟩ := ofGraph_eq_ok h
  exact mem_rewrite

theorem mem_order (h : ofGraph g codes = .ok o) {id : TypeId} :
    id ∈ o.order ↔ id ∈ o.graph.types := by
  rw [(order_perm h).mem_iff, Std.ExtTreeMap.mem_keys, mem_types_ofGraph h]

theorem source_mem_of_rewritten (h : ofGraph g codes = .ok o) {m : RewrittenMember}
    (hm : m ∈ o.rewritten) : m.source ∈ g.types := by
  obtain ⟨left, broken, breaks, rfl⟩ := ofGraph_eq_ok h
  have need := (breaks.mem_broken (mem_memberOf_iff.mp hm)).1
  exact Std.ExtTreeMap.mem_keys.mp (TypeGraph.within_valueNeeds.source _ need)

/-- What a type needs complete in the graph that is given back stands before the type. -/
theorem before_of_needsComplete (h : ofGraph g codes = .ok o) {a b : TypeId}
    (hab : o.graph.NeedsComplete a b) : [b, a].Sublist o.order := by
  obtain ⟨left, broken, breaks, rfl⟩ := ofGraph_eq_ok h
  have within : Within g.types.keys left := breaks.left_eq ▸ TypeGraph.within_valueNeeds.unbroken
  obtain ⟨n, hn, rfl, rfl⟩ := (requires_left breaks).mpr hab
  exact (emission_linearizes within (breaks.acyclic TypeGraph.within_valueNeeds)).2 n hn

/-- What is provided before members are rewritten is provided afterwards. -/
theorem provides_ofGraph (h : ofGraph g codes = .ok o) {r : TypeRef} (provided : g.Provides r) :
    o.graph.Provides r := by
  cases r with
  | node b => exact (mem_types_ofGraph h).mpr provided
  | builtin _ | unresolved _ => exact provided

theorem complete_ofGraph (h : ofGraph g codes = .ok o) (complete : g.Complete) :
    o.graph.Complete := by
  have provides {r : TypeRef} := provides_ofGraph (r := r) h
  obtain ⟨left, broken, _, rfl⟩ := ofGraph_eq_ok h
  intro a rewritten hrewritten r hr
  rw [getElem?_rewrite] at hrewritten
  obtain ⟨n, hn, rfl⟩ := Option.map_eq_some_iff.mp hrewritten
  exact provides (complete a n hn r (TypeNode.mem_references_holdAll.mp hr))

/-- What a member holds by reference is a type of the graph, unless it was held so before. -/
theorem node_of_byReference (h : ofGraph g codes = .ok o) {id : TypeId} {rewritten : TypeNode}
    (hrewritten : o.graph.types[id]? = some rewritten) {p : Particle} (hp : p ∈ rewritten.members)
    (byReference : p.holding = .byReference) :
    (∃ target, p.type = .node target) ∨ ∃ n, g.types[id]? = some n ∧ p ∈ n.members := by
  obtain ⟨left, broken, breaks, rfl⟩ := ofGraph_eq_ok h
  rw [getElem?_rewrite] at hrewritten
  obtain ⟨n, hn, rfl⟩ := Option.map_eq_some_iff.mp hrewritten
  obtain ⟨i, hi⟩ := List.mem_iff_getElem?.mp hp
  rw [TypeNode.members_holdAll] at hi
  obtain ⟨before, hbefore, rfl⟩ := Option.map_eq_some_iff.mp hi
  by_cases changed : i ∈ positionsOf (broken.filterMap memberOf) id
  · obtain ⟨m, hm, rfl, rfl⟩ := mem_positionsOf.mp changed
    obtain ⟨need, _⟩ := breaks.mem_broken (mem_memberOf_iff.mp hm)
    obtain ⟨n', hn', _, hneed⟩ := TypeGraph.mem_valueNeeds.mp need
    obtain ⟨p', hp', _, type⟩ := TypeNode.mem_needs_member.mp (hneed.of_member rfl)
    rw [hn] at hn'
    cases hn'
    rw [hbefore] at hp'
    cases hp'
    rw [if_pos changed]
    exact Or.inl ⟨m.target, type⟩
  · rw [if_neg changed]
    exact Or.inr ⟨n, hn, List.mem_iff_getElem?.mpr ⟨i, hbefore⟩⟩

/-- The order lists every type once, each behind all that it needs complete in the graph that is
given back; so no type needs itself complete, neither at once nor by way of others. -/
theorem ofGraph_linear (h : ofGraph g codes = .ok o) :
    o.order.Nodup ∧ (∀ id, id ∈ o.order ↔ id ∈ g.types) ∧
      (∀ id, id ∈ o.graph.types ↔ id ∈ g.types) ∧
      (∀ a b, o.graph.NeedsComplete a b → [b, a].Sublist o.order) ∧
      ∀ a, ¬ TransGen o.graph.NeedsComplete a a := by
  have perm := order_perm h
  refine ⟨perm.nodup_iff.mpr (nodup_keys g.types), fun id => ?_, ?_⟩
  · rw [perm.mem_iff, Std.ExtTreeMap.mem_keys]
  obtain ⟨left, broken, breaks, rfl⟩ := ofGraph_eq_ok h
  have within : Within g.types.keys left := breaks.left_eq ▸ TypeGraph.within_valueNeeds.unbroken
  have acyclic := breaks.acyclic TypeGraph.within_valueNeeds
  refine ⟨fun id => mem_rewrite, fun a b hab => ?_, fun a ha => ?_⟩
  · obtain ⟨n, hn, rfl, rfl⟩ := (requires_left breaks).mpr hab
    exact (emission_linearizes within acyclic).2 n hn
  · exact acyclic a (TransGen.mono (fun _ _ => (requires_left breaks).mpr) _ _ ha)

/-! ## Two types that hold one another -/

/-- A type with one member, which holds a value of another type. -/
def holder (type : TypeId) : TypeNode where
  kind := .complex (.sequence [{
    name := "x"
    ns := none
    kind := .element
    type := .node type
    occurs := .once
    nillable := false
    holding := .byValue
    documentation := none }]) [] false false
  base := none
  isAbstract := false
  documentation := none
  origin := default

def idA : TypeId := .named ⟨"", "A"⟩
def idB : TypeId := .named ⟨"", "B"⟩

/-- `A` holds `B`, and `B` holds `A`. -/
def mutualHolders : TypeGraph := ⟨Std.ExtTreeMap.ofList [(idA, holder idB), (idB, holder idA)], ∅⟩

def needAB : ValueNeed := ⟨idA, idB, some 0⟩
def needBA : ValueNeed := ⟨idB, idA, some 0⟩

theorem breakCycles_mutualHolders :
    breakCycles (NamespaceCodes.typeKey ⟨∅⟩) mutualHolders.types.keys mutualHolders.valueNeeds =
      .ok ([needBA], [needAB]) := by
  have keys : mutualHolders.types.keys = [idA, idB] := by cbv
  have needs : mutualHolders.valueNeeds = [needAB, needBA] := by cbv
  have cyclic : cyclicComponents [idA, idB] [needAB, needBA] = [[idA, idB]] := by cbv
  have least : weakest (NamespaceCodes.typeKey ⟨∅⟩) [needAB, needBA] [idA, idB] = some needAB := by
    cbv
  have members :
      weakestMembers (NamespaceCodes.typeKey ⟨∅⟩) [idA, idB] [needAB, needBA] = [needAB] := by
    rw [weakestMembers, cyclic]
    simp [least]
  have later : Breaks (NamespaceCodes.typeKey ⟨∅⟩) [idA, idB]
      (unbroken [needAB, needBA]
        (weakestMembers (NamespaceCodes.typeKey ⟨∅⟩) [idA, idB] [needAB, needBA])) [needBA] [] := by
    rw [members, show unbroken [needAB, needBA] [needAB] = [needBA] by decide]
    exact .done (by cbv)
  rw [keys, needs, breakCycles_eq_ok_iff]
  have round := Breaks.round (by simp [cyclic]) (by simp [Breakable, cyclic, least]) later
  rwa [members] at round

/-- One of the two members becomes a reference, and its owner comes first. -/
theorem ofGraph_linear_mutualHolders : ∃ o, ofGraph mutualHolders ⟨∅⟩ = .ok o ∧
    o.rewritten = [⟨idA, idB, 0⟩] ∧ o.order.Nodup ∧
      (∀ id, id ∈ o.order ↔ id ∈ mutualHolders.types) ∧
      (∀ id, id ∈ o.graph.types ↔ id ∈ mutualHolders.types) ∧
      (∀ a b, o.graph.NeedsComplete a b → [b, a].Sublist o.order) ∧
      ∀ a, ¬ TransGen o.graph.NeedsComplete a a := by
  obtain ⟨o, ok, rewritten⟩ :
      ∃ o, ofGraph mutualHolders ⟨∅⟩ = .ok o ∧ o.rewritten = [⟨idA, idB, 0⟩] := by
    rw [ofGraph, breakCycles_mutualHolders]
    exact ⟨_, rfl, rfl⟩
  exact ⟨o, ok, rewritten, ofGraph_linear ok⟩

end SoapBindings.OrderedGraph
