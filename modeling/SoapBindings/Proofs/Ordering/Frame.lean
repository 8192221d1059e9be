import Mathlib
import SoapBindings.Proofs.Ordering.Rounds

/-!
# What breaking cycles leaves alone

The members that were made references are the only difference between a graph and its ordered form
(`ofGraph_changes_only`). They are listed once each, with the type that they hold, and each of them
lies on a cycle of the graph that was given: later rounds work on fewer needs, so what is a cycle
for them was one before (`Breaks.path_of_mem_broken`).
-/

set_option autoImplicit false

namespace SoapBindings.OrderedGraph

open Relation

variable {g : TypeGraph} {codes : NamespaceCodes} {o : OrderedGraph}

/-- The owner of a member and the position at which it stands there. -/
def place (m : RewrittenMember) : TypeId × Nat := (m.source, m.position)

theorem mem_positionsOf_iff_place {members : List RewrittenMember} {id : TypeId} {i : Nat} :
    i ∈ positionsOf members id ↔ (id, i) ∈ members.map place := by
  rw [mem_positionsOf, List.mem_map]
  constructor
  · intro ⟨m, hm, source, position⟩
    exact ⟨m, hm, by rw [place, source, position]⟩
  · intro ⟨m, hm, he⟩
    obtain ⟨source, position⟩ := Prod.mk.inj he
    exact ⟨m, hm, source, position⟩

/-- A table with some members made references, node by node. -/
theorem getElem?_rewrite_mapMembers (types : TypeTable) (members : List RewrittenMember)
    (id : TypeId) : (rewrite types members)[id]? = types[id]?.map (TypeNode.mapMembers fun i p =>
      if (id, i) ∈ members.map place then { p with holding := .byReference } else p) := by
  rw [getElem?_rewrite]
  congr 1
  funext n
  rw [TypeNode.holdAll_eq]
  simp only [mem_positionsOf_iff_place]

section

variable {left broken : List ValueNeed}

/-- No place is listed twice: a place has one need, and no need is broken twice. -/
theorem nodup_places (nodup : broken.Nodup) (sub : ∀ n ∈ broken, n ∈ g.valueNeeds) :
    ((broken.filterMap memberOf).map place).Nodup := by
  rw [List.map_filterMap]
  refine List.pairwise_filterMap.mpr (nodup.imp_of_mem ?_)
  intro n n' hn hn' hne p hp p' hp' same
  obtain ⟨m, hm, hmp⟩ := Option.map_eq_some_iff.mp hp
  obtain ⟨m', hm', hmp'⟩ := Option.map_eq_some_iff.mp hp'
  obtain ⟨position, hposition, rfl⟩ := Option.map_eq_some_iff.mp hm
  obtain ⟨position', hposition', rfl⟩ := Option.map_eq_some_iff.mp hm'
  rw [← hmp, ← hmp'] at same
  obtain ⟨source, rfl⟩ := Prod.mk.inj same
  exact hne (eq_of_position (sub n' hn') (sub n hn) source hposition' hposition)

end

/-- The ordered graph is the given one, except that the members listed as rewritten hold references
where they held values. No member is listed twice, each is listed with its type, and each lies on a
cycle of values; so a graph without such cycles is left as it is. -/
theorem ofGraph_changes_only (h : ofGraph g codes = .ok o) :
    o.graph.elements = g.elements ∧
      (∀ id, o.graph.types[id]? = g.types[id]?.map (TypeNode.mapMembers fun i p =>
        if (id, i) ∈ o.rewritten.map place then { p with holding := .byReference } else p)) ∧
      (o.rewritten.map place).Nodup ∧
      (∀ m ∈ o.rewritten, ∃ n p, g.types[m.source]? = some n ∧ n.members[m.position]? = some p ∧
        p.holding = .byValue ∧ p.type = .node m.target ∧ g.NeedsComplete m.source m.target ∧
        ReflTransGen g.NeedsComplete m.target m.source) ∧
      ((∀ a, ¬ TransGen g.NeedsComplete a a) → o.graph = g ∧ o.rewritten = []) := by
  obtain ⟨left, broken, breaks, rfl⟩ := ofGraph_eq_ok h
  have sub : ∀ n ∈ broken, n ∈ g.valueNeeds := fun n hn => (breaks.mem_broken hn).1
  have onCycle : ∀ m ∈ broken.filterMap memberOf, g.NeedsComplete m.source m.target ∧
      ReflTransGen g.NeedsComplete m.target m.source := by
    intro m hm
    rw [mem_memberOf_iff] at hm
    refine ⟨TypeGraph.requires_valueNeeds.mp ⟨_, sub _ hm, rfl, rfl⟩, ?_⟩
    have path := breaks.path_of_mem_broken TypeGraph.within_valueNeeds hm
    exact ReflTransGen.mono (fun _ _ => TypeGraph.requires_valueNeeds.mp) _ _ path
  refine ⟨rfl, fun id => getElem?_rewrite_mapMembers _ _ _, nodup_places breaks.nodup_broken sub,
    ?_, ?_⟩
  · intro m hm
    obtain ⟨needs, path⟩ := onCycle m hm
    rw [mem_memberOf_iff] at hm
    obtain ⟨n, hn, _, hneed⟩ := TypeGraph.mem_valueNeeds.mp (sub _ hm)
    obtain ⟨p, hp, holding, type⟩ := TypeNode.mem_needs_member.mp (hneed.of_member rfl)
    exact ⟨n, p, hn, hp, holding, type, needs, path⟩
  · intro acyclic
    have none : broken.filterMap memberOf = [] := by
      apply List.eq_nil_iff_forall_not_mem.mpr
      intro m hm
      obtain ⟨needs, path⟩ := onCycle m hm
      exact acyclic m.source (TransGen.head' needs path)
    refine ⟨?_, none⟩
    simp only [none]
    rfl

/-- Of two types that hold one another the first is changed, the second is as it was. -/
theorem ofGraph_changes_only_mutualHolders : ∃ o, ofGraph mutualHolders ⟨∅⟩ = .ok o ∧
    o.graph.elements = mutualHolders.elements ∧ o.rewritten = [⟨idA, idB, 0⟩] ∧
      (∀ id, o.graph.types[id]? = mutualHolders.types[id]?.map (TypeNode.mapMembers fun i p =>
        if (id, i) ∈ [(idA, 0)] then { p with holding := .byReference } else p)) ∧
      mutualHolders.NeedsComplete idA idB ∧
      ReflTransGen mutualHolders.NeedsComplete idB idA := by
  obtain ⟨o, ok, rewritten⟩ :
      ∃ o, ofGraph mutualHolders ⟨∅⟩ = .ok o ∧ o.rewritten = [⟨idA, idB, 0⟩] := by
    rw [ofGraph, breakCycles_mutualHolders]
    exact ⟨_, rfl, rfl⟩
  obtain ⟨elements, types, _, listed, _⟩ := ofGraph_changes_only ok
  rw [rewritten] at types listed
  obtain ⟨_, _, _, _, _, _, needs, path⟩ := listed _ List.mem_cons_self
  exact ⟨o, ok, elements, rewritten, types, needs, path⟩

end SoapBindings.OrderedGraph
