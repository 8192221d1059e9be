import Mathlib
import SoapBindings.Proofs.Interface.Building
import SoapBindings.Proofs.Ordering.FixedCycles
import SoapBindings.Proofs.Ordering.Restriction

/-!
# The order of used types

Whether unused types are dropped before types are put in order, or whether they are passed over
afterwards, makes no difference (`ofGraph_pruned`): the types that valid operations reach are closed
under references, hence under needs.
-/

set_option autoImplicit false

namespace SoapBindings

open Relation

namespace TypeGraph

variable {g : TypeGraph} {keep keep' : TypeId → Bool}

theorem filter_congr (same : ∀ id ∈ g.types, keep id = keep' id) :
    g.filter keep = g.filter keep' := by
  have types : (g.types.filter fun id _ => keep id) = g.types.filter fun id _ => keep' id := by
    apply Std.ExtTreeMap.ext_getElem?
    intro id
    rw [Std.ExtTreeMap.getElem?_filter', Std.ExtTreeMap.getElem?_filter']
    cases hn : g.types[id]? with
    | none => rfl
    | some n => simp only [Option.filter, same id (mem_of_getElem? hn)]
  rw [filter, filter, types]

end TypeGraph

namespace Interface

open OrderedGraph

variable {i : Interface} {o : OrderedGraph}

/-- Types that the roots reach refer to types that the roots reach. -/
theorem reachable_of_refers (a b : TypeId) (h : i.graph.Refers a b)
    (ha : (i.graph.reachable i.roots).contains a) : (i.graph.reachable i.roots).contains b := by
  rw [Std.ExtTreeSet.contains_iff_mem, TypeGraph.mem_reachable] at ha ⊢
  obtain ⟨root, hroot, path⟩ := ha
  exact ⟨root, hroot, path.tail h⟩

theorem contains_pruned {id : TypeId} (h : id ∈ i.graph.types) :
    i.pruned.graph.types.contains id = (i.graph.reachable i.roots).contains id := by
  rw [Bool.eq_iff_iff, ← Std.ExtTreeMap.mem_iff_contains, mem_pruned,
    Std.ExtTreeSet.contains_iff_mem, TypeGraph.mem_reachable]
  exact and_iff_right h

/-- If the types of an interface can be put in order, so can the used ones. Their order is that of
all types less the unused ones, each has the node that it has among all, its members held in the
same way, and the members rewritten are those that were rewritten in used types. -/
theorem ofGraph_pruned (h : ofGraph i.graph i.codes = .ok o) :
    ∃ o', ofGraph i.pruned.graph i.pruned.codes = .ok o' ∧
      o'.order = o.order.filter (i.pruned.graph.types.contains ·) ∧
      o'.graph = o.graph.filter (i.pruned.graph.types.contains ·) ∧
      ∀ m, m ∈ o'.rewritten ↔ m ∈ o.rewritten ∧ m.source ∈ i.pruned.graph.types := by
  obtain ⟨o', ok, order, graph, rewritten⟩ := ofGraph_filter reachable_of_refers h
  have types (id : TypeId) : id ∈ o.graph.types ↔ id ∈ i.graph.types := mem_types_ofGraph h
  refine ⟨o', ok, order.trans ?_, graph.trans ?_, fun m => (rewritten m).trans ?_⟩
  · apply List.filter_congr
    intro id hid
    exact (contains_pruned ((types id).mp ((mem_order h).mp hid))).symm
  · apply TypeGraph.filter_congr
    intro id hid
    exact (contains_pruned ((types id).mp hid)).symm
  · refine and_congr_right fun hm => ?_
    rw [Std.ExtTreeMap.mem_iff_contains, contains_pruned (source_mem_of_rewritten h hm)]

/-! ## Two types of an operation and one of none -/

def idC : TypeId := .named ⟨"", "C"⟩

/-- `A` and `B` hold one another, and `C` holds itself. -/
def threeHolders : TypeGraph :=
  ⟨Std.ExtTreeMap.ofList [(idA, holder idB), (idB, holder idA), (idC, holder idC)], ∅⟩

/-- An operation that carries a value of `A`. -/
def carryingA : BoundOperation where
  name := "o"
  documentation := none
  pattern := .oneWay
  soapAction := none
  style := .document
  bodyUse := .literal
  input := some ⟨⟨"", "Q"⟩, [⟨"p", none, .node idA⟩]⟩
  output := none
  faults := []
  problems := []

/-- An interface of that operation alone. -/
def usingA : Interface where
  graph := threeHolders
  codes := ⟨∅⟩
  services := [⟨"S", "p", "", ⟨"", "P"⟩, none, none, none, none, [carryingA]⟩]
  diagnostics := ⟨∅, [], none⟩

theorem holder_of_getElem? {id : TypeId} {n : TypeNode} (h : threeHolders.types[id]? = some n) :
    (id = idA ∧ n = holder idB) ∨ (id = idB ∧ n = holder idA) ∨ (id = idC ∧ n = holder idC) := by
  have listed := mem_of_getElem?_ofList h
  simpa only [List.mem_cons, Prod.mk.injEq, List.not_mem_nil, or_false] using listed

theorem isMember_of_mem_needs_holder {type : TypeId} {need : Need} {r : TypeRef}
    (h : (need, r) ∈ (holder type).needs) : need.isMember = true := by
  have only : (need, r) = (.member 0 .byValue, .node type) := List.mem_singleton.mp h
  rw [(Prod.mk.inj only).1]
  rfl

theorem not_needsFixed_threeHolders (a b : TypeId) : ¬ threeHolders.NeedsFixed a b := by
  intro ⟨_, n, need, hn, hneed, fixed⟩
  have member : need.isMember = true := by
    rcases holder_of_getElem? hn with ⟨_, rfl⟩ | ⟨_, rfl⟩ | ⟨_, rfl⟩
    · exact isMember_of_mem_needs_holder hneed
    · exact isMember_of_mem_needs_holder hneed
    · exact isMember_of_mem_needs_holder hneed
  rw [member] at fixed
  cases fixed

theorem ofGraph_usingA : ∃ o, ofGraph usingA.graph usingA.codes = .ok o := by
  obtain ⟨_, _, _, _, outcome⟩ := ofGraph_outcome usingA.graph usingA.codes
  cases h : ofGraph usingA.graph usingA.codes with
  | ok o => exact ⟨o, rfl⟩
  | error cycle =>
    rw [h] at outcome
    obtain ⟨_, some, path⟩ := outcome
    obtain ⟨a, ha⟩ := List.exists_mem_of_ne_nil _ some
    obtain ⟨b, step, _⟩ := TransGen.head'_iff.mp (path a ha a ha)
    exact absurd step (not_needsFixed_threeHolders a b)

theorem roots_usingA : usingA.roots = [idA] := by cbv

/-- References from `A` lead to `B` and back, never to `C`. -/
theorem ne_idC_of_path {id : TypeId} (path : ReflTransGen threeHolders.Refers idA id) :
    id ≠ idC := by
  suffices id = idA ∨ id = idB by
    rcases this with rfl | rfl
    · decide
    · decide
  induction path with
  | refl => exact Or.inl rfl
  | tail _ step ih =>
    obtain ⟨n, hn, hreference⟩ := step
    rcases holder_of_getElem? hn with ⟨_, rfl⟩ | ⟨_, rfl⟩ | ⟨rfl, _⟩
    · exact Or.inr (TypeRef.node.inj (List.mem_singleton.mp hreference))
    · exact Or.inl (TypeRef.node.inj (List.mem_singleton.mp hreference))
    · exact absurd ih (by decide)

/-- `C`, which no operation carries, is dropped; `A` and `B` come out as they do with it. -/
theorem ofGraph_pruned_usingA : ∃ o o', ofGraph usingA.graph usingA.codes = .ok o ∧
    ofGraph usingA.pruned.graph usingA.pruned.codes = .ok o' ∧
      idA ∈ usingA.pruned.graph.types ∧ idC ∈ usingA.graph.types ∧
      idC ∉ usingA.pruned.graph.types ∧
      o'.order = o.order.filter (usingA.pruned.graph.types.contains ·) ∧
      o'.graph = o.graph.filter (usingA.pruned.graph.types.contains ·) ∧
      ∀ m, m ∈ o'.rewritten ↔ m ∈ o.rewritten ∧ m.source ∈ usingA.pruned.graph.types := by
  obtain ⟨o, ok⟩ := ofGraph_usingA
  obtain ⟨o', ok', same⟩ := ofGraph_pruned ok
  refine ⟨o, o', ok, ok', ?_, ?_, ?_, same⟩
  · refine mem_pruned.mpr ⟨Std.ExtTreeMap.mem_iff_contains.mpr (by cbv), idA, ?_, .refl⟩
    rw [roots_usingA]
    exact List.mem_singleton.mpr rfl
  · exact Std.ExtTreeMap.mem_iff_contains.mpr (by cbv)
  · intro kept
    obtain ⟨_, root, hroot, path⟩ := mem_pruned.mp kept
    rw [roots_usingA, List.mem_singleton] at hroot
    subst hroot
    exact ne_idC_of_path path rfl

end Interface

end SoapBindings
