import Mathlib.Logic.Relation
import SoapBindings.Proofs.Tables
import SoapBindings.Walk

/-!
# What the walks find

Both walks erase a node from the arrows when they come to it, so what they find is said in terms of
the arrows that are left. `mem_reach` turns that into a statement about the arrows as given: a walk
finds what paths lead to. `mem_leavingOrder` and `nodup_leavingOrder` say that a depth-first walk
leaves each node once.

The one idea is in `path_of_erase`: of a path that goes through the erased node only what follows
its last visit matters, and that part starts at a node that is pending.
-/

set_option autoImplicit false

namespace SoapBindings.Arrows

open Relation

variable {α : Type} [Ord α] [Std.TransOrd α]

/-- An arrow leads from `a` to `b`. -/
def Leads (arrows : Arrows α) (a b : α) : Prop := ∃ next, arrows[a]? = some next ∧ b ∈ next

section Erasing

variable [Std.LawfulEqOrd α]

omit [Std.LawfulEqOrd α] in
theorem Leads.of_erase {arrows : Arrows α} {a b c : α} (h : Leads (arrows.erase a) b c) :
    arrows.Leads b c := by
  obtain ⟨next, hn, hc⟩ := h
  rw [Std.ExtTreeMap.getElem?_erase] at hn
  split at hn
  · exact absurd hn (by simp)
  · exact ⟨next, hn, hc⟩

theorem Leads.erase {arrows : Arrows α} {a b c : α} (h : arrows.Leads b c) (hab : a ≠ b) :
    Leads (arrows.erase a) b c := by
  obtain ⟨next, hn, hc⟩ := h
  exact ⟨next, by rw [getElem?_erase_of_ne hab]; exact hn, hc⟩

omit [Std.LawfulEqOrd α] in
theorem mem_getD_iff {arrows : Arrows α} {a b : α} : b ∈ arrows.getD a [] ↔ arrows.Leads a b := by
  rw [Std.ExtTreeMap.getD_eq_getD_getElem?]
  cases h : arrows[a]? with
  | none => simp [Leads, h]
  | some next => simp [Leads, h]

/-- An arrow more. -/
theorem leads_insert {arrows : Arrows α} {source target a b : α} :
    Leads (arrows.insert source (target :: arrows.getD source [])) a b ↔
      (source = a ∧ target = b) ∨ arrows.Leads a b := by
  by_cases h : source = a
  · subst h
    have known : b ∈ arrows.getD source [] ↔ arrows.Leads source b := mem_getD_iff
    rw [← known]
    simp [Leads, eq_comm]
  · have : (arrows.insert source (target :: arrows.getD source []))[a]? = arrows[a]? :=
      getElem?_insert_of_ne h
    simp [Leads, this, h]

/-- A path either avoids the arrows of `a`, or ends at `a`, or goes on from one of the nodes that
`a` leads to and avoids the arrows of `a` from there. -/
theorem path_of_erase {arrows : Arrows α} {a b c : α} {next : List α} (ha : arrows[a]? = some next)
    (h : ReflTransGen arrows.Leads c b) :
    ReflTransGen (Leads (arrows.erase a)) c b ∨ b = a ∨
      ∃ d ∈ next, ReflTransGen (Leads (arrows.erase a)) d b := by
  induction h with
  | refl => exact Or.inl .refl
  | @tail m b _ hmb ih =>
    by_cases hma : a = m
    · -- The last visit to `a` so far: the arrow leads into `next`.
      subst hma
      obtain ⟨next', hn, hb⟩ := hmb
      rw [ha] at hn
      cases hn
      exact Or.inr (Or.inr ⟨b, hb, .refl⟩)
    · have hmb' := hmb.erase hma
      rcases ih with h | rfl | ⟨d, hd, h⟩
      · exact Or.inl (h.tail hmb')
      · exact absurd rfl hma
      · exact Or.inr (Or.inr ⟨d, hd, h.tail hmb'⟩)

omit [Std.LawfulEqOrd α] in
/-- Where no arrow leaves `a`, no path leads further than `a` itself. -/
theorem eq_of_path_of_absent {arrows : Arrows α} {a b : α} (ha : arrows[a]? = none)
    (h : ReflTransGen arrows.Leads a b) : b = a := by
  rcases ReflTransGen.cases_head h with rfl | ⟨d, ⟨next, hn, _⟩, _⟩
  · rfl
  · rw [ha] at hn
    cases hn

/-- The paths from `a`, cut behind their last visit to it. -/
theorem path_iff_of_erase {arrows : Arrows α} {a b : α} {next : List α}
    (ha : arrows[a]? = some next) : ReflTransGen arrows.Leads a b ↔
      b = a ∨ ∃ d ∈ next, ReflTransGen (Leads (arrows.erase a)) d b := by
  constructor
  · intro h
    rcases path_of_erase ha h with h | rfl | found
    · exact Or.inl (eq_of_path_of_absent Std.ExtTreeMap.getElem?_erase_self h)
    · exact Or.inl rfl
    · exact Or.inr found
  · rintro (rfl | ⟨d, hd, h⟩)
    · exact .refl
    · exact .head ⟨next, ha, hd⟩ (ReflTransGen.mono (fun _ _ h => Leads.of_erase h) _ _ h)

end Erasing

/-! ## Reachability -/

section Reaching

variable [Std.LawfulEqOrd α]

theorem mem_reachFrom {arrows : Arrows α} {found : Std.ExtTreeSet α} {pending : List α} {b : α} :
    b ∈ reachFrom arrows found pending ↔
      b ∈ found ∨ ∃ a ∈ pending, ReflTransGen arrows.Leads a b := by
  fun_induction reachFrom arrows found pending with
  | case1 arrows found => simp
  | case2 arrows found a pending next ha _ ih =>
    -- A path that comes by `a` is cut behind its last visit; what is left of it starts in `next`
    -- and does without the arrows of `a`, which the walk has given up.
    rw [ih, Std.ExtTreeSet.mem_insert]
    constructor
    · rintro ((hb | hb) | ⟨c, hc, hcb⟩)
      · exact Or.inr ⟨a, List.mem_cons_self, by rw [Std.LawfulEqCmp.eq_of_compare hb]⟩
      · exact Or.inl hb
      · have hcb' := ReflTransGen.mono (fun _ _ h => Leads.of_erase h) _ _ hcb
        rcases List.mem_append.mp hc with hc | hc
        · exact Or.inr ⟨a, List.mem_cons_self, .head ⟨next, ha, hc⟩ hcb'⟩
        · exact Or.inr ⟨c, List.mem_cons_of_mem _ hc, hcb'⟩
    · rintro (hb | ⟨c, hc, hcb⟩)
      · exact Or.inl (Or.inr hb)
      · rcases path_of_erase ha hcb with h | rfl | ⟨d, hd, h⟩
        · rcases List.mem_cons.mp hc with rfl | hc
          · rw [eq_of_path_of_absent Std.ExtTreeMap.getElem?_erase_self h]
            exact Or.inl (Or.inl Std.ReflCmp.compare_self)
          · exact Or.inr ⟨c, List.mem_append_right _ hc, h⟩
        · exact Or.inl (Or.inl Std.ReflCmp.compare_self)
        · exact Or.inr ⟨d, List.mem_append_left _ hd, h⟩
  | case3 arrows found a pending ha ih =>
    rw [ih, Std.ExtTreeSet.mem_insert]
    constructor
    · rintro ((hb | hb) | ⟨c, hc, hcb⟩)
      · exact Or.inr ⟨a, List.mem_cons_self, by rw [Std.LawfulEqCmp.eq_of_compare hb]⟩
      · exact Or.inl hb
      · exact Or.inr ⟨c, List.mem_cons_of_mem _ hc, hcb⟩
    · rintro (hb | ⟨c, hc, hcb⟩)
      · exact Or.inl (Or.inr hb)
      · rcases List.mem_cons.mp hc with rfl | hc
        · rw [eq_of_path_of_absent ha hcb]
          exact Or.inl (Or.inl Std.ReflCmp.compare_self)
        · exact Or.inr ⟨c, hc, hcb⟩

/-- A walk finds exactly what paths from its starts lead to. -/
theorem mem_reach {arrows : Arrows α} {starts : List α} {b : α} :
    b ∈ arrows.reach starts ↔ ∃ a ∈ starts, ReflTransGen arrows.Leads a b := by
  simp [reach, mem_reachFrom]

end Reaching

/-! ## The order of leaving -/

theorem leaving_enter {arrows : Arrows α} {a : α} {steps : List (Step α)} {next : List α}
    (h : arrows[a]? = some next) : leaving arrows (.enter a :: steps) =
      leaving (arrows.erase a) (next.map .enter ++ .leave a :: steps) := by
  rw [leaving]
  split
  · next hn => rw [h] at hn; cases hn; rfl
  · next hn => rw [h] at hn; cases hn

theorem leaving_skip {arrows : Arrows α} {a : α} {steps : List (Step α)} (h : arrows[a]? = none) :
    leaving arrows (.enter a :: steps) = leaving arrows steps := by
  rw [leaving]
  split
  · next hn => rw [h] at hn; cases hn
  · rfl

/-- The induction that the walk itself is: by the nodes that are left over, then by the steps. -/
theorem leaving_induction {motive : Arrows α → List (Step α) → Prop}
    (done : ∀ arrows, motive arrows [])
    (leave : ∀ arrows a steps, motive arrows steps → motive arrows (.leave a :: steps))
    (enter : ∀ arrows a steps next, arrows[a]? = some next →
      motive (arrows.erase a) (next.map .enter ++ .leave a :: steps) →
      motive arrows (.enter a :: steps))
    (skip : ∀ arrows a steps, arrows[a]? = none → motive arrows steps →
      motive arrows (.enter a :: steps)) (arrows : Arrows α) (steps : List (Step α)) :
    motive arrows steps := by
  induction arrows, steps using leaving.induct with
  | case1 arrows => exact done arrows
  | case2 arrows a steps ih => exact leave arrows a steps ih
  | case3 arrows a steps next h _ ih =>
    simp only [List.map_attach_eq_pmap, List.pmap_eq_map] at ih
    exact enter arrows a steps next h ih
  | case4 arrows a steps h ih => exact skip arrows a steps h ih

theorem mem_of_mem_leaving {arrows : Arrows α} {steps : List (Step α)} {a : α} :
    a ∈ leaving arrows steps → .leave a ∈ steps ∨ a ∈ arrows := by
  induction arrows, steps using leaving_induction with
  | done arrows => simp [leaving]
  | leave arrows b steps ih =>
    intro h
    rw [leaving] at h
    rcases List.mem_cons.mp h with rfl | h
    · exact Or.inl List.mem_cons_self
    · exact (ih h).imp_left (List.mem_cons_of_mem _)
  | enter arrows b steps next hb ih =>
    intro h
    rw [leaving_enter hb] at h
    rcases ih h with h | h
    · simp only [List.mem_append, List.mem_map, reduceCtorEq, and_false, exists_false,
        false_or, List.mem_cons, Step.leave.injEq] at h
      rcases h with rfl | h
      · exact Or.inr (mem_of_getElem? hb)
      · exact Or.inl (List.mem_cons_of_mem _ h)
    · exact Or.inr (Std.ExtTreeMap.mem_of_mem_erase h)
  | skip arrows b steps hb ih =>
    intro h
    rw [leaving_skip hb] at h
    exact (ih h).imp_left (List.mem_cons_of_mem _)

theorem mem_leaving_of_leave {arrows : Arrows α} {steps : List (Step α)} {a : α} :
    .leave a ∈ steps → a ∈ leaving arrows steps := by
  induction arrows, steps using leaving_induction with
  | done arrows => simp
  | leave arrows b steps ih =>
    intro h
    rw [leaving]
    rcases List.mem_cons.mp h with h | h
    · cases h
      exact List.mem_cons_self
    · exact List.mem_cons_of_mem _ (ih h)
  | enter arrows b steps next hb ih =>
    intro h
    rw [leaving_enter hb]
    rcases List.mem_cons.mp h with h | h
    · cases h
    · exact ih (List.mem_append_right _ (List.mem_cons_of_mem _ h))
  | skip arrows b steps hb ih =>
    intro h
    rw [leaving_skip hb]
    rcases List.mem_cons.mp h with h | h
    · cases h
    · exact ih h

section Leaving

variable [Std.LawfulEqOrd α]

theorem mem_leaving_of_enter {arrows : Arrows α} {steps : List (Step α)} {a : α} :
    .enter a ∈ steps → a ∈ arrows → a ∈ leaving arrows steps := by
  induction arrows, steps using leaving_induction with
  | done arrows => simp
  | leave arrows b steps ih =>
    intro h ha
    rw [leaving]
    rcases List.mem_cons.mp h with h | h
    · cases h
    · exact List.mem_cons_of_mem _ (ih h ha)
  | enter arrows b steps next hb ih =>
    intro h ha
    rw [leaving_enter hb]
    by_cases hab : b = a
    · -- The step that leaves `a` is put down when `a` is entered.
      subst hab
      exact mem_leaving_of_leave (by simp)
    · have later : Step.enter a ∈ steps := by
        rcases List.mem_cons.mp h with h | h
        · cases h
          exact absurd rfl hab
        · exact h
      refine ih (List.mem_append_right _ (List.mem_cons_of_mem _ later)) ?_
      exact mem_erase_iff.mpr ⟨hab, ha⟩
  | skip arrows b steps hb ih =>
    intro h ha
    rw [leaving_skip hb]
    rcases List.mem_cons.mp h with h | h
    · cases h
      have := Std.ExtTreeMap.mem_iff_isSome_getElem?.mp ha
      simp [hb] at this
    · exact ih h ha

/-- The node that a step leaves. -/
def Step.left? : Step α → Option α
  | .leave a => some a
  | .enter _ => none

omit [Ord α] [Std.TransOrd α] [Std.LawfulEqOrd α] in
theorem mem_filterMap_left? {steps : List (Step α)} {a : α} :
    a ∈ steps.filterMap Step.left? ↔ .leave a ∈ steps := by
  rw [List.mem_filterMap]
  constructor
  · rintro ⟨step, hs, ha⟩
    cases step with
    | leave b =>
      cases ha
      exact hs
    | enter b => cases ha
  · exact fun h => ⟨.leave a, h, rfl⟩

omit [Ord α] [Std.TransOrd α] [Std.LawfulEqOrd α] in
theorem filterMap_left?_map_enter (as : List α) :
    (as.map Step.enter).filterMap Step.left? = [] := by
  simp [List.filterMap_map, Function.comp_def, Step.left?]

/-- No node is left twice. What is still to be left has been entered, so it is among the arrows no
more: that is what keeps a node from being entered again. -/
theorem nodup_leaving {arrows : Arrows α} {steps : List (Step α)} :
    (steps.filterMap Step.left?).Nodup → (∀ a, .leave a ∈ steps → a ∉ arrows) →
      (leaving arrows steps).Nodup := by
  induction arrows, steps using leaving_induction with
  | done arrows => simp [leaving]
  | leave arrows b steps ih =>
    intro nodup apart
    rw [leaving]
    obtain ⟨hb, nodup⟩ := List.nodup_cons.mp nodup
    refine List.nodup_cons.mpr ⟨fun h => ?_, ih nodup fun a ha =>
      apart a (List.mem_cons_of_mem _ ha)⟩
    rcases mem_of_mem_leaving h with h | h
    · exact hb (mem_filterMap_left?.mpr h)
    · exact apart b List.mem_cons_self h
  | enter arrows b steps next hb ih =>
    intro nodup apart
    rw [leaving_enter hb]
    have member : b ∈ arrows := mem_of_getElem? hb
    refine ih ?_ fun a ha => ?_
    · rw [List.filterMap_append, filterMap_left?_map_enter, List.nil_append]
      refine List.nodup_cons.mpr ⟨fun h => ?_, nodup⟩
      exact apart b (List.mem_cons_of_mem _ (mem_filterMap_left?.mp h)) member
    · intro he
      obtain ⟨hne, ha'⟩ := Std.ExtTreeMap.mem_erase.mp he
      rcases List.mem_append.mp ha with ha | ha
      · obtain ⟨c, _, hc⟩ := List.mem_map.mp ha
        cases hc
      · rcases List.mem_cons.mp ha with ha | ha
        · cases ha
          exact hne Std.ReflCmp.compare_self
        · exact apart a (List.mem_cons_of_mem _ ha) ha'
  | skip arrows b steps hb ih =>
    intro nodup apart
    rw [leaving_skip hb]
    exact ih nodup fun a ha => apart a (List.mem_cons_of_mem _ ha)

theorem mem_leavingOrder {arrows : Arrows α} {a : α} : a ∈ arrows.leavingOrder ↔ a ∈ arrows := by
  constructor
  · intro h
    rcases mem_of_mem_leaving h with h | h
    · obtain ⟨b, _, hb⟩ := List.mem_map.mp h
      cases hb
    · exact h
  · intro h
    exact mem_leaving_of_enter (List.mem_map_of_mem (Std.ExtTreeMap.mem_keys.mpr h)) h

theorem nodup_leavingOrder {arrows : Arrows α} : arrows.leavingOrder.Nodup := by
  refine nodup_leaving ?_ fun a h => ?_
  · rw [filterMap_left?_map_enter]
    exact List.nodup_nil
  · obtain ⟨b, _, hb⟩ := List.mem_map.mp h
    cases hb

end Leaving

end SoapBindings.Arrows
