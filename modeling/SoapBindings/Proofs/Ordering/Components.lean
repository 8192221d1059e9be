import Mathlib.Data.List.Nodup
import SoapBindings.Graph.Cycles
import SoapBindings.Proofs.Walks

/-!
# Components and cycles

The components that the search for cycles works on are the classes of mutual reachability
(`mem_of_mem_components`), each node stands in one of them (`exists_component`), and no node stands
in one twice. A component counts as cyclic exactly if a path of needs leads from one of its nodes
back to it (`isCyclic_iff`), so a graph of needs without cyclic components has no cycle at all
(`cyclicComponents_eq_nil_iff`).

`gather` is cut out of this: it puts together what a test joins, and that its groups are classes
only rests on the test being an equivalence of the nodes.
-/

set_option autoImplicit false

namespace SoapBindings

open Relation

/-! ## Groups of joined nodes -/

namespace Arrows

section Gathering

variable {joined : TypeId → TypeId → Bool} {as : List TypeId} {c : List TypeId}

theorem exists_of_mem_gather {a : TypeId} (h : a ∈ as) : ∃ c ∈ gather joined as, a ∈ c := by
  fun_induction gather joined as with
  | case1 => simp at h
  | case2 b as ih =>
    by_cases hb : a ∈ b :: as.filter (joined b)
    · exact ⟨_, List.mem_cons_self, hb⟩
    · obtain ⟨hne, hfilter⟩ := not_or.mp (mt List.mem_cons.mpr hb)
      have ha : a ∈ as := (List.mem_cons.mp h).resolve_left hne
      have apart : a ∈ apart joined b as :=
        List.mem_filter.mpr ⟨ha, by simpa [ha] using hfilter⟩
      obtain ⟨c, hc, hac⟩ := ih apart
      exact ⟨c, List.mem_cons_of_mem _ hc, hac⟩

theorem nodup_of_mem_gather (nodup : as.Nodup) (h : c ∈ gather joined as) : c.Nodup := by
  fun_induction gather joined as with
  | case1 => simp at h
  | case2 a as ih =>
    obtain ⟨ha, nodup⟩ := List.nodup_cons.mp nodup
    rcases List.mem_cons.mp h with rfl | h
    · exact List.nodup_cons.mpr ⟨fun hf => ha (List.mem_filter.mp hf).1, nodup.filter _⟩
    · exact ih (nodup.filter _) h

theorem subset_of_mem_gather (h : c ∈ gather joined as) : c ⊆ as := by
  fun_induction gather joined as with
  | case1 => simp at h
  | case2 a as ih =>
    rcases List.mem_cons.mp h with rfl | h
    · exact List.cons_subset_cons a List.filter_sublist.subset
    · intro b hb
      exact List.mem_cons_of_mem a (List.mem_filter.mp (ih h hb)).1

theorem pairwise_disjoint_gather (nodup : as.Nodup) :
    (gather joined as).Pairwise List.Disjoint := by
  fun_induction gather joined as with
  | case1 => exact .nil
  | case2 a as ih =>
    obtain ⟨ha, nodup⟩ := List.nodup_cons.mp nodup
    refine .cons ?_ (ih (nodup.filter _))
    intro c hc b hb hbc
    -- The other groups are made of what is not joined with `a`.
    obtain ⟨hbs, notJoined⟩ := List.mem_filter.mp (subset_of_mem_gather hc hbc)
    rcases List.mem_cons.mp hb with rfl | hb
    · exact ha hbs
    · simp [(List.mem_filter.mp hb).2] at notJoined

/-- If the test is an equivalence of the nodes, groups are its classes. -/
theorem mem_of_mem_gather {r : TypeId → TypeId → Prop} (equivalence : Equivalence r)
    (test : ∀ a ∈ as, ∀ b ∈ as, joined a b = true ↔ r a b) (h : c ∈ gather joined as)
    {a : TypeId} (ha : a ∈ c) : a ∈ as ∧ ∀ b, b ∈ c ↔ b ∈ as ∧ r a b := by
  fun_induction gather joined as with
  | case1 => simp at h
  | case2 first as ih =>
    have inFirst : ∀ b, b ∈ first :: as.filter (joined first) ↔ b ∈ first :: as ∧ r first b := by
      intro b
      rw [List.mem_cons, List.mem_filter]
      constructor
      · rintro (rfl | ⟨hb, hj⟩)
        · exact ⟨List.mem_cons_self, equivalence.refl _⟩
        · have hb := List.mem_cons_of_mem first hb
          exact ⟨hb, (test first List.mem_cons_self b hb).mp hj⟩
      · rintro ⟨hb, hr⟩
        refine (List.mem_cons.mp hb).imp_right fun hb' => ⟨hb', ?_⟩
        exact (test first List.mem_cons_self b hb).mpr hr
    rcases List.mem_cons.mp h with rfl | h
    · obtain ⟨ha, hr⟩ := (inFirst a).mp ha
      refine ⟨ha, fun b => (inFirst b).trans (and_congr_right fun _ => ?_)⟩
      exact ⟨fun h => equivalence.trans (equivalence.symm hr) h, fun h => equivalence.trans hr h⟩
    · have sub : ∀ b ∈ apart joined first as, b ∈ first :: as := fun b hb =>
        List.mem_cons_of_mem _ (List.mem_filter.mp hb).1
      obtain ⟨ha', class_⟩ := ih (fun a ha b hb => test a (sub a ha) b (sub b hb)) h
      refine ⟨sub a ha', fun b => (class_ b).trans ⟨fun ⟨hb, hr⟩ => ⟨sub b hb, hr⟩, ?_⟩⟩
      rintro ⟨hb, hr⟩
      -- What is joined with the first node is no more there, and `b` would join `a` with it.
      have notFirst : ¬ r first a := by
        intro hfa
        have := (List.mem_filter.mp ha').2
        rw [(test first List.mem_cons_self a (sub a ha')).mpr hfa] at this
        simp at this
      have hfb : ¬ r first b := fun hfb => notFirst (equivalence.trans hfb (equivalence.symm hr))
      refine ⟨?_, hr⟩
      rcases List.mem_cons.mp hb with rfl | hb'
      · exact absurd (equivalence.refl _) hfb
      · refine List.mem_filter.mpr ⟨hb', ?_⟩
        have := mt (test first List.mem_cons_self b hb).mp hfb
        simpa using this

end Gathering

/-! ## Strongly connected components -/

/-- Paths lead from each of two nodes to the other. -/
def Mutual (arrows : Arrows TypeId) (a b : TypeId) : Prop :=
  ReflTransGen arrows.Leads a b ∧ ReflTransGen arrows.Leads b a

theorem mutual_equivalence (arrows : Arrows TypeId) : Equivalence arrows.Mutual where
  refl _ := ⟨.refl, .refl⟩
  symm h := ⟨h.2, h.1⟩
  trans h h' := ⟨h.1.trans h'.1, h'.2.trans h.2⟩

variable {arrows : Arrows TypeId} {c : List TypeId}

theorem contains_reached_iff {a b : TypeId} (ha : a ∈ arrows) :
    ((arrows.map fun a _ => arrows.reach [a]).getD a ∅).contains b = true ↔
      ReflTransGen arrows.Leads a b := by
  obtain ⟨next, hn⟩ := exists_getElem?_of_mem ha
  rw [Std.ExtTreeMap.getD_eq_getD_getElem?, Std.ExtTreeMap.getElem?_map, hn]
  simp [mem_reach]

theorem components_joined_iff {a b : TypeId} (ha : a ∈ arrows.leavingOrder.reverse)
    (hb : b ∈ arrows.leavingOrder.reverse) :
    (((arrows.map fun a _ => arrows.reach [a]).getD a ∅).contains b &&
      ((arrows.map fun a _ => arrows.reach [a]).getD b ∅).contains a) = true ↔
      arrows.Mutual a b := by
  rw [List.mem_reverse, mem_leavingOrder] at ha hb
  rw [Bool.and_eq_true, contains_reached_iff ha, contains_reached_iff hb]
  rfl

/-- A component holds the nodes that are mutually reachable with any of its nodes. -/
theorem mem_of_mem_components (h : c ∈ arrows.components) {a : TypeId} (ha : a ∈ c) :
    a ∈ arrows ∧ ∀ b, b ∈ c ↔ b ∈ arrows ∧ arrows.Mutual a b := by
  have h := List.mem_reverse.mp h
  obtain ⟨ha, class_⟩ := mem_of_mem_gather arrows.mutual_equivalence
    (fun a ha b hb => components_joined_iff ha hb) h ha
  rw [List.mem_reverse, mem_leavingOrder] at ha
  refine ⟨ha, fun b => (class_ b).trans ?_⟩
  rw [List.mem_reverse, mem_leavingOrder]

theorem exists_component {a : TypeId} (ha : a ∈ arrows) : ∃ c ∈ arrows.components, a ∈ c := by
  rw [← mem_leavingOrder, ← List.mem_reverse] at ha
  obtain ⟨c, hc, hac⟩ := exists_of_mem_gather ha
  exact ⟨c, List.mem_reverse.mpr hc, hac⟩

theorem pairwise_disjoint_components (arrows : Arrows TypeId) :
    arrows.components.Pairwise List.Disjoint := by
  rw [components, List.pairwise_reverse]
  refine (pairwise_disjoint_gather ?_).imp fun h => List.disjoint_comm.mp h
  rw [List.nodup_reverse]
  exact nodup_leavingOrder

theorem nodup_of_mem_components (h : c ∈ arrows.components) : c.Nodup := by
  refine nodup_of_mem_gather ?_ (List.mem_reverse.mp h)
  rw [List.nodup_reverse]
  exact nodup_leavingOrder

end Arrows

/-! ## Needs as arrows -/

/-- The type `a` needs the type `b` complete. -/
def Requires (needs : List ValueNeed) (a b : TypeId) : Prop :=
  ∃ n ∈ needs, n.source = a ∧ n.target = b

section Needs

variable {nodes : List TypeId} {needs : List ValueNeed} {a b : TypeId}

theorem getElem?_arrowsOf_nil (next : List TypeId) (h : (arrowsOf nodes [])[a]? = some next) :
    next = [] := by
  obtain ⟨_, _, he⟩ := List.mem_map.mp (mem_of_getElem?_ofList h)
  exact (Prod.mk.inj he).2.symm

theorem leads_arrowsOf : (arrowsOf nodes needs).Leads a b ↔ Requires needs a b := by
  induction needs with
  | nil =>
    constructor
    · rintro ⟨next, hn, hb⟩
      rw [getElem?_arrowsOf_nil next hn] at hb
      exact absurd hb (by simp)
    · rintro ⟨n, hn, _⟩
      exact absurd hn (by simp)
  | cons n needs ih =>
    rw [arrowsOf, List.foldr_cons, ← arrowsOf, Arrows.leads_insert, ih]
    simp [Requires]

theorem mem_arrowsOf (closed : ∀ n ∈ needs, n.source ∈ nodes) :
    a ∈ arrowsOf nodes needs ↔ a ∈ nodes := by
  induction needs with
  | nil => simp [arrowsOf, Function.comp_def]
  | cons n needs ih =>
    rw [arrowsOf, List.foldr_cons, ← arrowsOf, mem_insert_iff,
      ih fun n hn => closed n (List.mem_cons_of_mem _ hn)]
    refine or_iff_right_of_imp fun he => ?_
    rw [← he]
    exact closed n List.mem_cons_self

theorem leads_arrowsOf_eq : (arrowsOf nodes needs).Leads = Requires needs := by
  ext a b
  exact leads_arrowsOf

/-! ## Cyclic components -/

/-- The needs of some nodes stay among them. -/
structure Within (nodes : List TypeId) (needs : List ValueNeed) : Prop where
  source : ∀ n ∈ needs, n.source ∈ nodes
  target : ∀ n ∈ needs, n.target ∈ nodes

variable {c : List TypeId}

theorem Requires.source (h : Requires needs a b) (within : Within nodes needs) : a ∈ nodes := by
  obtain ⟨n, hn, rfl, _⟩ := h
  exact within.source n hn

theorem Requires.target (h : Requires needs a b) (within : Within nodes needs) : b ∈ nodes := by
  obtain ⟨n, hn, _, rfl⟩ := h
  exact within.target n hn

theorem isCyclic_singleton : isCyclic needs [a] = true ↔ Requires needs a a := by
  simp [isCyclic, Requires]

theorem isCyclic_of_ne {a b : TypeId} (ha : a ∈ c) (hb : b ∈ c) (hne : a ≠ b) :
    isCyclic needs c = true := by
  match c with
  | [] => simp at ha
  | [d] =>
    rw [List.mem_singleton] at ha hb
    exact absurd (ha.trans hb.symm) hne
  | _ :: _ :: _ => rfl

/-- A component holds the nodes that need one another, on whatever way. -/
theorem mem_component_iff (within : Within nodes needs) (h : c ∈ (arrowsOf nodes needs).components)
    (ha : a ∈ c) : b ∈ c ↔
      b ∈ nodes ∧ ReflTransGen (Requires needs) a b ∧ ReflTransGen (Requires needs) b a := by
  have class_ := (Arrows.mem_of_mem_components h ha).2 b
  rwa [Arrows.Mutual, leads_arrowsOf_eq, mem_arrowsOf within.source] at class_

/-- A component is cyclic exactly if one of its nodes needs itself complete, on whatever way. -/
theorem isCyclic_iff (within : Within nodes needs) (h : c ∈ (arrowsOf nodes needs).components) :
    isCyclic needs c = true ↔ ∃ a ∈ c, TransGen (Requires needs) a a := by
  constructor
  · intro hc
    match c with
    | [] => simp [isCyclic] at hc
    | [a] => exact ⟨a, List.mem_cons_self, .single (isCyclic_singleton.mp hc)⟩
    | a :: b :: c =>
      -- Two nodes of a component lead to each other, which makes a cycle by way of both.
      have hne : b ≠ a := by
        rintro rfl
        have := Arrows.nodup_of_mem_components h
        simp at this
      obtain ⟨_, hab, hba⟩ := (mem_component_iff (b := b) within h List.mem_cons_self).mp (by simp)
      refine ⟨a, List.mem_cons_self, ?_⟩
      have hab := (reflTransGen_iff_eq_or_transGen.mp hab).resolve_left hne
      exact hab.trans_left hba
  · rintro ⟨a, ha, hcycle⟩
    obtain ⟨b, hab, hba⟩ := TransGen.head'_iff.mp hcycle
    -- The first need on the cycle is one of `a` for itself, or it puts a second node into `c`.
    by_cases hne : a = b
    · subst hne
      match c with
      | [] => simp at ha
      | [d] =>
        rw [List.mem_singleton] at ha
        subst ha
        exact isCyclic_singleton.mpr hab
      | _ :: _ :: _ => rfl
    · have hb : b ∈ c :=
        (mem_component_iff within h ha).mpr ⟨hab.target within, .single hab, hba⟩
      exact isCyclic_of_ne ha hb hne

/-- In a cyclic component each node needs each, itself too. -/
theorem transGen_of_isCyclic (within : Within nodes needs)
    (h : c ∈ (arrowsOf nodes needs).components) (cyclic : isCyclic needs c = true) (ha : a ∈ c)
    (hb : b ∈ c) : TransGen (Requires needs) a b := by
  obtain ⟨d, hd, cycle⟩ := (isCyclic_iff within h).mp cyclic
  have there := ((mem_component_iff within h ha).mp hd).2.1
  have onwards := ((mem_component_iff within h hd).mp hb).2.1
  exact (TransGen.trans_right there cycle).trans_left onwards

/-- A need between two nodes of a component. -/
def RequiresWithin (c : List TypeId) (needs : List ValueNeed) (a b : TypeId) : Prop :=
  Requires needs a b ∧ a ∈ c ∧ b ∈ c

/-- A path between two nodes of a component never leaves it. -/
theorem transGen_within (within : Within nodes needs) (h : c ∈ (arrowsOf nodes needs).components)
    (path : TransGen (Requires needs) a b) (ha : a ∈ c) (hb : b ∈ c) :
    TransGen (RequiresWithin c needs) a b := by
  induction path using TransGen.head_induction_on with
  | single step => exact .single ⟨step, ha, hb⟩
  | @head a m step rest ih =>
    -- From `m` the path goes on to `b`, and from there back to `a`.
    have back := ((mem_component_iff within h hb).mp ha).2.1
    have hm : m ∈ c := (mem_component_iff within h ha).mpr
      ⟨step.target within, .single step, rest.to_reflTransGen.trans back⟩
    exact .head ⟨step, ha, hm⟩ (ih hm)

/-- Needs have no cyclic component exactly if they have no cycle. -/
theorem cyclicComponents_eq_nil_iff (within : Within nodes needs) :
    cyclicComponents nodes needs = [] ↔ ∀ a, ¬ TransGen (Requires needs) a a := by
  constructor
  · intro h a hcycle
    obtain ⟨b, hab, _⟩ := TransGen.head'_iff.mp hcycle
    have ha : a ∈ arrowsOf nodes needs := (mem_arrowsOf within.source).mpr (hab.source within)
    obtain ⟨c, hc, hac⟩ := Arrows.exists_component ha
    have : c ∈ cyclicComponents nodes needs :=
      List.mem_filter.mpr ⟨hc, (isCyclic_iff within hc).mpr ⟨a, hac, hcycle⟩⟩
    rw [h] at this
    exact absurd this (by simp)
  · intro acyclic
    rw [cyclicComponents, List.filter_eq_nil_iff]
    intro c hc cyclic
    obtain ⟨a, _, hcycle⟩ := (isCyclic_iff within hc).mp cyclic
    exact acyclic a hcycle

end Needs

end SoapBindings
