import SoapBindings.Proofs.Ordering.Components

/-!
# Rounds of breaking cycles

A round breaks the weakest member of each cyclic component, and rounds follow one another until no
component is cyclic. `Breaks` says that as a relation between the needs before, the needs that are
left, and those that were broken; `breakCycles_eq_ok_iff` ties it to the function, and everything
about a whole run is an induction over `Breaks`.
-/

set_option autoImplicit false

namespace SoapBindings

open Relation

/-- The members that one round breaks. -/
def weakestMembers (key : TypeId → TypeKey) (nodes : List TypeId) (needs : List ValueNeed) :
    List ValueNeed :=
  (cyclicComponents nodes needs).filterMap (weakest key needs)

/-- Every cycle can be broken: each cyclic component has a member to change. -/
def Breakable (key : TypeId → TypeKey) (nodes : List TypeId) (needs : List ValueNeed) : Prop :=
  ∀ c ∈ cyclicComponents nodes needs, (weakest key needs c).isSome

/-- Rounds lead from `needs` to `left`, and break `broken` on the way. -/
inductive Breaks (key : TypeId → TypeKey) (nodes : List TypeId) :
    List ValueNeed → List ValueNeed → List ValueNeed → Prop
  | done {needs : List ValueNeed} :
      cyclicComponents nodes needs = [] → Breaks key nodes needs needs []
  | round {needs left later : List ValueNeed} :
      cyclicComponents nodes needs ≠ [] → Breakable key nodes needs →
      Breaks key nodes (unbroken needs (weakestMembers key nodes needs)) left later →
      Breaks key nodes needs left (weakestMembers key nodes needs ++ later)

section

variable {key : TypeId → TypeKey} {nodes : List TypeId} {needs left broken : List ValueNeed}

theorem breakable_iff : Breakable key nodes needs ↔
    (cyclicComponents nodes needs).find? (fun c => (weakest key needs c).isNone) = none := by
  simp [Breakable, Option.isSome_iff_ne_none]

theorem weakestMembers_eq_nil_iff (h : Breakable key nodes needs) :
    weakestMembers key nodes needs = [] ↔ cyclicComponents nodes needs = [] := by
  rw [weakestMembers, List.filterMap_eq_nil_iff]
  constructor
  · intro none
    refine List.eq_nil_iff_forall_not_mem.mpr fun c hc => ?_
    have := h c hc
    rw [none c hc] at this
    simp at this
  · intro empty
    simp [empty]

/-- One round, and what follows it. -/
theorem breakCycles_eq (key : TypeId → TypeKey) (nodes : List TypeId) (needs : List ValueNeed) :
    breakCycles key nodes needs =
      match (cyclicComponents nodes needs).find? (fun c => (weakest key needs c).isNone) with
      | some stuck => .error ⟨(Std.ExtTreeSet.ofList stuck).toList⟩
      | none =>
        match weakestMembers key nodes needs with
        | [] => .ok (needs, [])
        | first :: more =>
          (breakCycles key nodes (unbroken needs (first :: more))).map fun (left, later) =>
            (left, first :: more ++ later) := by
  rw [breakCycles]
  split
  · next stuck h => simp only [h]
  · next h =>
    simp only [h]
    split
    · next hm => simp only [weakestMembers, hm]
    · next first more hm =>
      simp only [weakestMembers, hm]
      cases breakCycles key nodes (unbroken needs (first :: more)) with
      | error cycle => rfl
      | ok result => rfl

theorem breakCycles_eq_ok_iff :
    breakCycles key nodes needs = .ok (left, broken) ↔ Breaks key nodes needs left broken := by
  constructor
  · intro h
    -- By the number of needs: a round that is followed by another has broken one of them.
    induction hn : needs.length using Nat.strongRecOn generalizing needs left broken with
    | ind length ih =>
      rw [breakCycles_eq] at h
      split at h
      · cases h
      · next hfind =>
        have breakable := breakable_iff.mpr hfind
        split at h
        · next hm =>
          cases h
          exact .done ((weakestMembers_eq_nil_iff breakable).mp hm)
        · next first more hm =>
          cases hrest : breakCycles key nodes (unbroken needs (first :: more)) with
          | error cycle =>
            rw [hrest] at h
            cases h
          | ok rest =>
            obtain ⟨left', later⟩ := rest
            rw [hrest] at h
            cases h
            have shorter : (unbroken needs (first :: more)).length < length := by
              obtain ⟨c, _, hc⟩ :=
                List.mem_filterMap.mp (show first ∈ weakestMembers key nodes needs by simp [hm])
              rw [← hn]
              exact length_unbroken_lt (mem_of_weakest hc) List.mem_cons_self
            have cyclic : cyclicComponents nodes needs ≠ [] := by
              intro empty
              rw [(weakestMembers_eq_nil_iff breakable).mpr empty] at hm
              cases hm
            rw [← hm] at hrest ⊢ shorter
            exact .round cyclic breakable (ih _ shorter hrest rfl)
  · intro h
    induction h with
    | @done needs empty => rw [breakCycles_eq, weakestMembers, empty]; rfl
    | @round needs left later cyclic breakable _ ih =>
      rw [breakCycles_eq, breakable_iff.mp breakable]
      cases hm : weakestMembers key nodes needs with
      | nil => exact absurd ((weakestMembers_eq_nil_iff breakable).mp hm) cyclic
      | cons first more =>
        rw [hm] at ih
        simp only [ih, Except.map]

/-! ## What a run keeps -/

theorem unbroken_unbroken (needs broken later : List ValueNeed) :
    unbroken (unbroken needs broken) later = unbroken needs (broken ++ later) := by
  rw [unbroken, unbroken, unbroken, List.filter_filter]
  congr 1
  funext n
  rw [List.contains_append, Bool.not_or, Bool.and_comm]

theorem mem_unbroken {n : ValueNeed} : n ∈ unbroken needs broken ↔ n ∈ needs ∧ n ∉ broken := by
  simp [unbroken]

theorem Within.unbroken (h : Within nodes needs) : Within nodes (unbroken needs broken) where
  source n hn := h.source n (mem_unbroken.mp hn).1
  target n hn := h.target n (mem_unbroken.mp hn).1

theorem mem_of_weakest_eq_some {c : List TypeId} {n : ValueNeed}
    (h : weakest key needs c = some n) :
    n ∈ needs ∧ n.member.isSome ∧ n.source ∈ c ∧ n.target ∈ c := by
  have found := List.mem_filter.mp (mem_of_leastBy h)
  simpa [and_assoc] using found

theorem mem_weakestMembers {n : ValueNeed} (h : n ∈ weakestMembers key nodes needs) :
    n ∈ needs ∧ n.member.isSome := by
  obtain ⟨c, _, hc⟩ := List.mem_filterMap.mp h
  obtain ⟨hn, hmember, _⟩ := mem_of_weakest_eq_some hc
  exact ⟨hn, hmember⟩

/-- No two components have one weakest member. -/
theorem nodup_weakestMembers (key : TypeId → TypeKey) (nodes : List TypeId)
    (needs : List ValueNeed) : (weakestMembers key nodes needs).Nodup := by
  have disjoint : (cyclicComponents nodes needs).Pairwise List.Disjoint :=
    (Arrows.pairwise_disjoint_components _).filter _
  refine List.pairwise_filterMap.mpr (disjoint.imp ?_)
  intro c c' hcc n hn n' hn' same
  rw [same] at hn
  obtain ⟨_, _, source, _⟩ := mem_of_weakest_eq_some hn
  obtain ⟨_, _, source', _⟩ := mem_of_weakest_eq_some hn'
  exact hcc source source'

/-- A broken need lies on a cycle. -/
theorem path_of_mem_weakestMembers (within : Within nodes needs) {n : ValueNeed}
    (h : n ∈ weakestMembers key nodes needs) :
    ReflTransGen (Requires needs) n.target n.source := by
  obtain ⟨c, hc, hn⟩ := List.mem_filterMap.mp h
  obtain ⟨_, _, source, target⟩ := mem_of_weakest_eq_some hn
  exact ((mem_component_iff within (List.mem_filter.mp hc).1 target).mp source).2.1

namespace Breaks

/-- What is left are the needs that were not broken. -/
theorem left_eq (h : Breaks key nodes needs left broken) : left = unbroken needs broken := by
  induction h with
  | done _ => simp [unbroken]
  | round _ _ _ ih => rw [ih, unbroken_unbroken]

/-- Only members are broken. -/
theorem mem_broken (h : Breaks key nodes needs left broken) {n : ValueNeed} (hn : n ∈ broken) :
    n ∈ needs ∧ n.member.isSome := by
  induction h with
  | done _ => simp at hn
  | round _ _ _ ih =>
    rcases List.mem_append.mp hn with hn | hn
    · exact mem_weakestMembers hn
    · exact ⟨(mem_unbroken.mp (ih hn).1).1, (ih hn).2⟩

theorem nodup_broken (h : Breaks key nodes needs left broken) : broken.Nodup := by
  induction h with
  | done _ => exact List.nodup_nil
  | round _ _ later ih =>
    refine List.nodup_append.mpr ⟨nodup_weakestMembers _ _ _, ih, ?_⟩
    intro n hn n' hn' same
    rw [← same] at hn'
    exact (mem_unbroken.mp (later.mem_broken hn').1).2 hn

/-- Later rounds find no cycle that was not there before, so every broken need lies on a cycle of
the needs that the first round began with. -/
theorem path_of_mem_broken (h : Breaks key nodes needs left broken) (within : Within nodes needs)
    {n : ValueNeed} (hn : n ∈ broken) : ReflTransGen (Requires needs) n.target n.source := by
  induction h with
  | done _ => simp at hn
  | round _ _ _ ih =>
    rcases List.mem_append.mp hn with hn | hn
    · exact path_of_mem_weakestMembers within hn
    · refine ReflTransGen.mono ?_ _ _ (ih within.unbroken hn)
      intro a b ⟨m, hm, ends⟩
      exact ⟨m, (mem_unbroken.mp hm).1, ends⟩

theorem cyclicComponents_left (h : Breaks key nodes needs left broken) :
    cyclicComponents nodes left = [] := by
  induction h with
  | done empty => exact empty
  | round _ _ _ ih => exact ih

/-- A run ends without cycles. -/
theorem acyclic (h : Breaks key nodes needs left broken) (within : Within nodes needs)
    (a : TypeId) : ¬ TransGen (Requires left) a a := by
  have within' : Within nodes left := h.left_eq ▸ within.unbroken
  exact (cyclicComponents_eq_nil_iff within').mp h.cyclicComponents_left a

end Breaks

end

end SoapBindings
