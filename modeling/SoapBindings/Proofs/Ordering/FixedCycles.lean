import Mathlib
import SoapBindings.Proofs.Ordering.Rounds

/-!
# Cycles without members

A cycle of needs can be broken at a member, and only there. `NeedsFixed` is what remains of the
needs without the members: bases of extensions, items of lists, bases of simple types and values of
simple content. No round changes these (`Rounds.needsFixed_iff`), so neither the order in which
members are rewritten nor which of them are can make or hide a cycle among them.

A loop that is stuck has come to a component that is such a cycle through and through
(`needsFixed_of_stuck`), and one that stops has no cycle left at all (`acyclic_of_done`). Hence a
graph can be put in order exactly if it has no cycle of `NeedsFixed` (`ofGraph_error_iff`).
-/

set_option autoImplicit false

namespace SoapBindings

open Relation

/-- The need is that of a member. -/
def Need.isMember : Need → Bool
  | .member _ _ => true
  | _ => false

/-- The type `a` needs the type `b` complete for something other than a member. -/
def TypeGraph.NeedsFixed (g : TypeGraph) (a b : TypeId) : Prop :=
  b ∈ g.types ∧ ∃ n need, g.types[a]? = some n ∧ (need, .node b) ∈ n.needs ∧ need.isMember = false

theorem TypeNode.mem_otherNeeds_iff {n : TypeNode} {need : Need} {type : TypeRef} :
    (need, type) ∈ n.otherNeeds ↔ (need, type) ∈ n.needs ∧ need.isMember = false := by
  rw [needs_eq, List.mem_append]
  constructor
  · intro h
    refine ⟨Or.inl h, ?_⟩
    cases need with
    | member position holding => exact absurd rfl (isMember_of_mem_otherNeeds h position holding)
    | _ => rfl
  · intro ⟨h, other⟩
    rcases h with h | h
    · exact h
    · obtain ⟨i, _, he⟩ := List.mem_mapIdx.mp h
      cases he
      cases other

namespace TypeGraph

variable {g : TypeGraph} {a b : TypeId}

theorem NeedsFixed.needsComplete (h : g.NeedsFixed a b) : g.NeedsComplete a b := by
  obtain ⟨htarget, n, need, hn, hneed, other⟩ := h
  refine ⟨htarget, n, need, hn, hneed, ?_⟩
  cases need with
  | member position holding => cases other
  | _ => rfl

/-- The list of needs tells the fixed ones by their lack of a position. -/
theorem needsFixed_iff :
    g.NeedsFixed a b ↔ ∃ n ∈ g.valueNeeds, n.member = none ∧ n.source = a ∧ n.target = b := by
  constructor
  · intro ⟨htarget, node, need, hnode, hneed, other⟩
    have fixed := TypeNode.mem_otherNeeds_iff.mpr ⟨hneed, other⟩
    refine ⟨⟨a, b, none⟩, ?_, rfl, rfl, rfl⟩
    exact mem_valueNeeds.mpr ⟨node, hnode, htarget, Or.inr ⟨rfl, need, fixed⟩⟩
  · intro ⟨n, hn, hmember, source, target⟩
    obtain ⟨node, hnode, htarget, h⟩ := mem_valueNeeds.mp hn
    rw [source] at hnode
    rw [target] at htarget
    rcases h with ⟨position, hposition, _⟩ | ⟨_, need, hneed⟩
    · rw [hmember] at hposition
      cases hposition
    · obtain ⟨hneed, other⟩ := TypeNode.mem_otherNeeds_iff.mp hneed
      rw [target] at hneed
      exact ⟨htarget, node, need, hnode, hneed, other⟩

end TypeGraph

namespace OrderedGraph

variable {codes : NamespaceCodes} {g last : TypeGraph} {a b : TypeId}

/-- Rewriting members leaves the other needs as they are. -/
theorem needsFixed_rewriting {members : List RewrittenMember} :
    (rewriting g members).NeedsFixed a b ↔ g.NeedsFixed a b := by
  simp only [TypeGraph.NeedsFixed, rewriting, mem_rewrite, getElem?_rewrite,
    ← TypeNode.mem_otherNeeds_iff, Option.map_eq_some_iff]
  constructor
  · intro ⟨htarget, _, need, ⟨n, hn, he⟩, hneed⟩
    rw [← he, TypeNode.otherNeeds_holdAll] at hneed
    exact ⟨htarget, n, need, hn, hneed⟩
  · intro ⟨htarget, n, need, hn, hneed⟩
    refine ⟨htarget, _, need, ⟨n, hn, rfl⟩, ?_⟩
    rw [TypeNode.otherNeeds_holdAll]
    exact hneed

theorem Rounds.needsFixed_iff {rounds : List (List RewrittenMember)}
    (h : Rounds codes g rounds last) : last.NeedsFixed a b ↔ g.NeedsFixed a b := by
  induction h with
  | stop => exact Iff.rfl
  | round _ _ _ ih => exact ih.trans needsFixed_rewriting

/-! ## The two ends of the loop -/

/-- A component without a member to change has only other needs. -/
theorem member_eq_none_of_weakest {key : TypeId → TypeKey} {needs : List ValueNeed}
    {c : List TypeId} (stuck : weakest key needs c = none) {n : ValueNeed} (hn : n ∈ needs)
    (source : n.source ∈ c) (target : n.target ∈ c) : n.member = none := by
  rw [weakest, leastBy_eq_none_iff, List.filter_eq_nil_iff] at stuck
  have h := stuck n hn
  simpa [source, target] using h

/-- Where the loop is stuck, all types of the component need one another for no member. -/
theorem needsFixed_of_stuck {cycle : InheritanceCycle} (h : roundOf codes g = .error cycle) :
    cycle.types ≠ [] ∧ ∀ a ∈ cycle.types, ∀ b ∈ cycle.types, TransGen g.NeedsFixed a b := by
  rw [roundOf] at h
  split at h
  · next c hfind =>
    cases h
    have stuck : weakest codes.typeKey g.valueNeeds c = none := by
      have := List.find?_some hfind
      simpa using this
    obtain ⟨hc, cyclic⟩ := List.mem_filter.mp (List.mem_of_find?_eq_some hfind)
    have within := TypeGraph.within_valueNeeds (g := g)
    have listed : ∀ a, a ∈ (Std.ExtTreeSet.ofList c).toList ↔ a ∈ c := by
      intro a
      rw [Std.ExtTreeSet.mem_toList, Std.ExtTreeSet.mem_ofList, List.contains_iff_mem]
    have fixed : ∀ a b, RequiresWithin c g.valueNeeds a b → g.NeedsFixed a b := by
      intro a b ⟨⟨n, hn, source, target⟩, ha, hb⟩
      rw [← source] at ha
      rw [← target] at hb
      have hmember := member_eq_none_of_weakest stuck hn ha hb
      exact TypeGraph.needsFixed_iff.mpr ⟨n, hn, hmember, source, target⟩
    constructor
    · obtain ⟨a, ha, _⟩ := (isCyclic_iff within hc).mp cyclic
      exact List.ne_nil_of_mem ((listed a).mpr ha)
    · intro a ha b hb
      rw [listed] at ha hb
      have path := transGen_of_isCyclic within hc cyclic ha hb
      exact TransGen.mono fixed _ _ (transGen_within within hc path ha hb)
  · cases h

/-- Where the loop stops, no type needs itself complete. -/
theorem acyclic_of_done (h : roundOf codes g = .ok []) (a : TypeId) :
    ¬ TransGen g.NeedsComplete a a := by
  rw [roundOf] at h
  split at h
  · cases h
  · next hfind =>
    have none := memberOf_weakestMembers_eq_nil.mp (Except.ok.inj h)
    have empty := (weakestMembers_eq_nil_iff (breakable_iff.mpr hfind)).mp none
    have acyclic := (cyclicComponents_eq_nil_iff TypeGraph.within_valueNeeds).mp empty a
    intro cycle
    exact acyclic (TransGen.mono (fun _ _ => TypeGraph.requires_valueNeeds.mpr) _ _ cycle)

/-- The loop ends after no more rounds than there are members held by value: it stops at a graph
without cycles, which is the one given back, or it is stuck at fixed needs, which are the error. -/
theorem ofGraph_outcome (g : TypeGraph) (codes : NamespaceCodes) :
    ∃ rounds last, Rounds codes g rounds last ∧ rounds.length ≤ g.valueMembers ∧
      match ofGraph g codes with
      | .ok o => roundOf codes last = .ok [] ∧ o.graph = last ∧ o.rewritten = rounds.flatten ∧
          ∀ a, ¬ TransGen o.graph.NeedsComplete a a
      | .error cycle => roundOf codes last = .error cycle ∧ cycle.types ≠ [] ∧
          ∀ a ∈ cycle.types, ∀ b ∈ cycle.types, TransGen g.NeedsFixed a b := by
  obtain ⟨rounds, last, run, bound, outcome⟩ := exists_rounds codes g
  refine ⟨rounds, last, run, bound, ?_⟩
  rw [ofGraph_eq]
  rcases outcome with ⟨done, hlast, whole⟩ | ⟨cycle, stuck, whole⟩
  · rw [whole]
    have acyclic := acyclic_of_done done
    rw [hlast] at acyclic
    exact ⟨done, hlast.symm, rfl, acyclic⟩
  · rw [whole]
    obtain ⟨some, path⟩ := needsFixed_of_stuck stuck
    refine ⟨stuck, some, ?_⟩
    intro a ha b hb
    exact TransGen.mono (fun _ _ => run.needsFixed_iff.mp) _ _ (path a ha b hb)

/-- Putting types in order always comes to an end, after rounds on the graph of which there are no
more than members held by value. It fails exactly if some types need one another, or one itself, for
no member, and the error names such types; every other cycle is broken. -/
theorem ofGraph_error_iff (g : TypeGraph) (codes : NamespaceCodes) :
    ((∃ cycle, ofGraph g codes = .error cycle) ↔ ∃ a, TransGen g.NeedsFixed a a) ∧
      ((∃ o, ofGraph g codes = .ok o) ↔ ¬ ∃ a, TransGen g.NeedsFixed a a) ∧
      ∃ rounds last, Rounds codes g rounds last ∧ rounds.length ≤ g.valueMembers ∧
        match ofGraph g codes with
        | .ok o => roundOf codes last = .ok [] ∧ o.graph = last ∧ o.rewritten = rounds.flatten ∧
            ∀ a, ¬ TransGen o.graph.NeedsComplete a a
        | .error cycle => roundOf codes last = .error cycle ∧ cycle.types ≠ [] ∧
            ∀ a ∈ cycle.types, ∀ b ∈ cycle.types, TransGen g.NeedsFixed a b := by
  have outcome := ofGraph_outcome g codes
  have fails : (∃ cycle, ofGraph g codes = .error cycle) ↔ ∃ a, TransGen g.NeedsFixed a a := by
    obtain ⟨rounds, last, run, _, ends⟩ := outcome
    cases ho : ofGraph g codes with
    | ok o =>
      rw [ho] at ends
      obtain ⟨_, hlast, _, acyclic⟩ := ends
      -- Fixed needs are still there at the end, so a cycle of them would be one of the last graph.
      have noFixed : ¬ ∃ a, TransGen g.NeedsFixed a a := by
        intro ⟨a, cycle⟩
        refine acyclic a (TransGen.mono ?_ _ _ cycle)
        intro b c h
        rw [hlast]
        exact (run.needsFixed_iff.mpr h).needsComplete
      simp [noFixed]
    | error cycle =>
      rw [ho] at ends
      obtain ⟨_, some, path⟩ := ends
      obtain ⟨a, ha⟩ := List.exists_mem_of_ne_nil _ some
      exact ⟨fun _ => ⟨a, path a ha a ha⟩, fun _ => ⟨cycle, rfl⟩⟩
  have succeeds : (∃ o, ofGraph g codes = .ok o) ↔ ¬ ∃ cycle, ofGraph g codes = .error cycle := by
    cases ofGraph g codes with
    | ok o => simp
    | error cycle => simp
  exact ⟨fails, succeeds.trans (not_congr fails), outcome⟩

/-! ## A list whose items are that list -/

/-- A list with items of some type. -/
def listOf (item : TypeId) : TypeNode where
  kind := .list (.node item)
  base := none
  isAbstract := false
  documentation := none
  origin := default

/-- `A` holds `A`, which can be a reference, and `B` is the list of what `B` is. -/
def listOfItself : TypeGraph := ⟨Std.ExtTreeMap.ofList [(idA, holder idA), (idB, listOf idB)], ∅⟩

theorem needsFixed_listOfItself : listOfItself.NeedsFixed idB idB := by
  refine ⟨?_, listOf idB, .item, ?_, ?_, rfl⟩
  · exact Std.ExtTreeMap.mem_iff_contains.mpr (by cbv)
  · cbv
  · exact List.mem_singleton.mpr rfl

/-- Nothing can be done about the list. -/
theorem ofGraph_error_listOfItself :
    TransGen listOfItself.NeedsFixed idB idB ∧ ∃ cycle, ofGraph listOfItself ⟨∅⟩ = .error cycle :=
  ⟨.single needsFixed_listOfItself,
    (ofGraph_error_iff listOfItself ⟨∅⟩).1.mpr ⟨idB, .single needsFixed_listOfItself⟩⟩

end OrderedGraph

end SoapBindings
