import Mathlib.Data.List.Nodup
import SoapBindings.Proofs.Ordering.Linear

/-!
# Rounds on a graph

`breakCycles` works on a list of needs that becomes shorter, while what is to be understood is a
loop on graphs: find the weakest member of each cyclic component, rewrite these members in the
graph, and look for cycles in what that gives. `Rounds` is that loop, and `exists_rounds` says that
`ofGraph` is where it ends: the needs of a rewritten graph are the needs that are left
(`valueNeeds_rewrite`), so both find the same members in every round.

The loop ends because each round takes members away from those that are held by value, and there
are only `valueMembers` of them.
-/

set_option autoImplicit false

namespace SoapBindings

open Relation

/-- How many members of the graph hold a type of the graph by value. -/
def TypeGraph.valueMembers (g : TypeGraph) : Nat := g.valueNeeds.countP (·.member.isSome)

namespace OrderedGraph

/-- The graph with some members made references. -/
def rewriting (g : TypeGraph) (members : List RewrittenMember) : TypeGraph :=
  { g with types := rewrite g.types members }

/-- The members that a round rewrites in a graph: the weakest of each cyclic component. A component
without a member to change is an error. -/
def roundOf (codes : NamespaceCodes) (g : TypeGraph) :
    Except InheritanceCycle (List RewrittenMember) :=
  let components := cyclicComponents g.types.keys g.valueNeeds
  match components.find? fun c => (weakest codes.typeKey g.valueNeeds c).isNone with
  | some stuck => .error ⟨(Std.ExtTreeSet.ofList stuck).toList⟩
  | none => .ok ((weakestMembers codes.typeKey g.types.keys g.valueNeeds).filterMap memberOf)

/-- Rounds lead from one graph to another, each rewriting some members of the graph before it. -/
inductive Rounds (codes : NamespaceCodes) :
    TypeGraph → List (List RewrittenMember) → TypeGraph → Prop
  | stop {g : TypeGraph} : Rounds codes g [] g
  | round {g last : TypeGraph} {members : List RewrittenMember}
      {later : List (List RewrittenMember)} :
      roundOf codes g = .ok members → members ≠ [] →
      Rounds codes (rewriting g members) later last → Rounds codes g (members :: later) last

variable {codes : NamespaceCodes} {g : TypeGraph}

theorem rewrite_append (types : TypeTable) (first later : List RewrittenMember) :
    rewrite types (first ++ later) = rewrite (rewrite types first) later := by
  rw [rewrite, List.foldl_append, ← rewrite, ← rewrite]

@[simp] theorem keys_rewrite (types : TypeTable) (members : List RewrittenMember) :
    (rewrite types members).keys = types.keys := by
  rw [rewrite_eq_map, Std.ExtTreeMap.keys_map]

theorem memberOf_weakestMembers_eq_nil {key : TypeId → TypeKey} {nodes : List TypeId}
    {needs : List ValueNeed} :
    (weakestMembers key nodes needs).filterMap memberOf = [] ↔
      weakestMembers key nodes needs = [] := by
  constructor
  · intro h
    rw [List.filterMap_eq_nil_iff] at h
    apply List.eq_nil_iff_forall_not_mem.mpr
    intro n hn
    obtain ⟨position, hposition⟩ := Option.isSome_iff_exists.mp (mem_weakestMembers hn).2
    have none := h n hn
    rw [memberOf, hposition] at none
    cases none
  · intro h
    rw [h]
    rfl

/-- A round takes members away from those that are held by value. -/
theorem countP_unbroken_lt {key : TypeId → TypeKey} {nodes : List TypeId} {needs : List ValueNeed}
    (h : weakestMembers key nodes needs ≠ []) :
    (unbroken needs (weakestMembers key nodes needs)).countP (·.member.isSome) <
      needs.countP (·.member.isSome) := by
  obtain ⟨n, hn⟩ := List.exists_mem_of_ne_nil _ h
  obtain ⟨hneed, hmember⟩ := mem_weakestMembers hn
  rw [unbroken, List.countP_filter, List.countP_eq_length_filter, List.countP_eq_length_filter]
  have sub : needs.filter (fun m => m.member.isSome &&
      !(weakestMembers key nodes needs).contains m) =
      (needs.filter (·.member.isSome)).filter
        fun m => !(weakestMembers key nodes needs).contains m := by
    rw [List.filter_filter]
    congr 1
    funext m
    exact Bool.and_comm _ _
  rw [sub]
  refine List.length_filter_lt_length_iff_exists.mpr ⟨n, ?_, ?_⟩
  · exact List.mem_filter.mpr ⟨hneed, hmember⟩
  · simpa using hn

/-- The needs that a round leaves are those of the graph that it rewrites. -/
theorem valueNeeds_rewriting_weakest (codes : NamespaceCodes) (g : TypeGraph) :
    (rewriting g ((weakestMembers codes.typeKey g.types.keys g.valueNeeds).filterMap
      memberOf)).valueNeeds =
        unbroken g.valueNeeds (weakestMembers codes.typeKey g.types.keys g.valueNeeds) :=
  valueNeeds_rewrite fun _ hn => mem_weakestMembers hn

theorem valueMembers_rewriting_lt {members : List RewrittenMember}
    (h : roundOf codes g = .ok members) (some : members ≠ []) :
    (rewriting g members).valueMembers < g.valueMembers := by
  rw [roundOf] at h
  split at h
  · cases h
  · cases h
    rw [TypeGraph.valueMembers, valueNeeds_rewriting_weakest]
    exact countP_unbroken_lt (mt memberOf_weakestMembers_eq_nil.mpr some)

/-- All members that are rewritten until a graph has no cycle. -/
def rewrittenMembers (codes : NamespaceCodes) (g : TypeGraph) :
    Except InheritanceCycle (List RewrittenMember) :=
  (breakCycles codes.typeKey g.types.keys g.valueNeeds).map (·.2.filterMap memberOf)

/-- One round, and what follows it on the rewritten graph, whose needs are those that are left. -/
theorem rewrittenMembers_eq (codes : NamespaceCodes) (g : TypeGraph) :
    rewrittenMembers codes g =
      match roundOf codes g with
      | .error cycle => .error cycle
      | .ok [] => .ok []
      | .ok members => (rewrittenMembers codes (rewriting g members)).map (members ++ ·) := by
  rw [rewrittenMembers, breakCycles_eq, roundOf]
  cases hfind : (cyclicComponents g.types.keys g.valueNeeds).find?
      fun c => (weakest codes.typeKey g.valueNeeds c).isNone with
  | some stuck => simp only [Except.map]
  | none =>
    simp only
    have needs := valueNeeds_rewriting_weakest codes g
    cases hweakest : weakestMembers codes.typeKey g.types.keys g.valueNeeds with
    | nil => simp only [Except.map, List.filterMap_nil]
    | cons first more =>
      have some : weakestMembers codes.typeKey g.types.keys g.valueNeeds ≠ [] := by
        rw [hweakest]
        exact List.cons_ne_nil _ _
      have rewritten := mt memberOf_weakestMembers_eq_nil.mp some
      rw [hweakest] at needs rewritten
      cases hmembers : (first :: more).filterMap memberOf with
      | nil => exact absurd hmembers rewritten
      | cons m members =>
        rw [hmembers] at needs
        have keys : (rewriting g (m :: members)).types.keys = g.types.keys := keys_rewrite _ _
        simp only [rewrittenMembers, keys, needs]
        cases breakCycles codes.typeKey g.types.keys (unbroken g.valueNeeds (first :: more)) with
        | error cycle => rfl
        | ok result => simp only [Except.map, List.filterMap_append, hmembers]

/-- Breaking cycles is the loop on graphs: its rounds lead to the graph that is given back, or to
one that it is stuck at. -/
theorem exists_rounds (codes : NamespaceCodes) (g : TypeGraph) :
    ∃ rounds last, Rounds codes g rounds last ∧ rounds.length ≤ g.valueMembers ∧
      ((roundOf codes last = .ok [] ∧ last = rewriting g rounds.flatten ∧
          rewrittenMembers codes g = .ok rounds.flatten) ∨
        ∃ cycle, roundOf codes last = .error cycle ∧ rewrittenMembers codes g = .error cycle) := by
  induction hm : g.valueMembers using Nat.strongRecOn generalizing g with
  | ind members ih =>
    cases hround : roundOf codes g with
    | error cycle =>
      have whole : rewrittenMembers codes g = .error cycle := by rw [rewrittenMembers_eq, hround]
      exact ⟨[], g, .stop, Nat.zero_le _, Or.inr ⟨cycle, hround, whole⟩⟩
    | ok first =>
      cases first with
      | nil =>
        have whole : rewrittenMembers codes g = .ok [] := by rw [rewrittenMembers_eq, hround]
        exact ⟨[], g, .stop, Nat.zero_le _, Or.inl ⟨hround, rfl, whole⟩⟩
      | cons m ms =>
        have fewer := valueMembers_rewriting_lt hround (List.cons_ne_nil _ _)
        obtain ⟨later, last, run, bound, outcome⟩ := ih _ (hm ▸ fewer) _ rfl
        refine ⟨(m :: ms) :: later, last, .round hround (List.cons_ne_nil _ _) run, ?_, ?_⟩
        · rw [List.length_cons]
          omega
        · rcases outcome with ⟨done, rfl, rest⟩ | ⟨cycle, stuck, rest⟩
          · refine Or.inl ⟨done, ?_, ?_⟩
            · simp only [rewriting, List.flatten_cons, rewrite_append]
            · rw [rewrittenMembers_eq, hround]
              simp only [rest, Except.map, List.flatten_cons]
          · refine Or.inr ⟨cycle, stuck, ?_⟩
            rw [rewrittenMembers_eq, hround]
            simp only [rest, Except.map]

/-- What `ofGraph` gives, said by the members that it rewrites: the order is that of the needs of
the rewritten graph. -/
theorem ofGraph_eq (g : TypeGraph) (codes : NamespaceCodes) :
    ofGraph g codes = (rewrittenMembers codes g).map fun members =>
      { graph := rewriting g members
        order := emission codes.typeKey g.types.keys (rewriting g members).valueNeeds
        rewritten := members } := by
  rw [ofGraph, rewrittenMembers]
  cases hb : breakCycles codes.typeKey g.types.keys g.valueNeeds with
  | error cycle => rfl
  | ok result =>
    obtain ⟨left, broken⟩ := result
    have breaks := breakCycles_eq_ok_iff.mp hb
    have needs : (rewriting g (broken.filterMap memberOf)).valueNeeds = left := by
      rw [breaks.left_eq]
      exact valueNeeds_rewrite fun n hn => breaks.mem_broken hn
    simp only [Except.map, needs]
    rfl

end OrderedGraph

end SoapBindings
