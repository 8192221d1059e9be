import Mathlib
import SoapBindings.Proofs.Ordering.Linear

/-!
# Restriction to kept types

Some types are kept, and with each of them all that it needs. Then whatever is done to put types in
order does for the kept ones what it would do without the others: they are in the same components
(`mem_component_filter_iff`), the same members are broken (`Breaks.filter`), and they come out in
the same order (`emission_filter`).

The number of rounds is not the same. A round may break members of dropped types alone, and to the
kept ones it is no round at all; so `Breaks.filter` does not go from round to round, but says where
all of them lead.
-/

set_option autoImplicit false

namespace SoapBindings

open Relation

/-! ## The least of some -/

section

variable {α : Type} {cmp : α → α → Ordering} {as : List α} {least a : α}

theorem isLE_of_ne_lt [Std.OrientedCmp cmp] {b : α} (h : cmp b a ≠ .lt) : (cmp a b).isLE := by
  rw [← Std.OrientedCmp.isGE_iff_isLE]
  cases hc : cmp b a with
  | lt => exact absurd hc h
  | eq | gt => rfl

theorem isLE_of_leastBy [Std.TransCmp cmp] (h : leastBy cmp as = some least) (ha : a ∈ as) :
    (cmp least a).isLE := by
  induction as generalizing least with
  | nil => simp at ha
  | cons first as ih =>
    rw [leastBy] at h
    split at h
    · next none =>
      cases h
      rw [leastBy_eq_none_iff.mp none, List.mem_singleton] at ha
      rw [ha]
      exact Std.ReflCmp.isLE_rfl
    · next b hb =>
      split at h
      · next hlt =>
        cases h
        rcases List.mem_cons.mp ha with rfl | ha
        · rw [hlt]
          rfl
        · exact ih hb ha
      · next hle =>
        cases h
        rcases List.mem_cons.mp ha with rfl | ha
        · exact Std.ReflCmp.isLE_rfl
        · exact Std.TransCmp.isLE_trans (isLE_of_ne_lt hle) (ih hb ha)

/-- The least of all is the least of some that it is among. -/
theorem leastBy_filter [Std.TransCmp cmp] {p : α → Bool} (h : leastBy cmp as = some least)
    (hp : p least) : leastBy cmp (as.filter p) = some least := by
  induction as generalizing least with
  | nil => simp [leastBy] at h
  | cons first as ih =>
    rw [leastBy] at h
    split at h
    · next none =>
      cases h
      simp [leastBy_eq_none_iff.mp none, hp, leastBy]
    · next b hb =>
      split at h
      · next hlt =>
        cases h
        have later := ih hb hp
        by_cases hfirst : p first
        · rw [List.filter_cons_of_pos hfirst, leastBy, later]
          simp [hlt]
        · rw [List.filter_cons_of_neg hfirst, later]
      · next hle =>
        cases h
        rw [List.filter_cons_of_pos hp, leastBy]
        split
        · rfl
        · next c hc =>
          -- Nothing later is less than `first`, which is not greater than the least of it.
          have hbc := isLE_of_leastBy hb (List.mem_filter.mp (mem_of_leastBy hc)).1
          have hfc := Std.TransCmp.isLE_trans (isLE_of_ne_lt hle) hbc
          rw [if_neg]
          intro hcf
          exact Std.OrientedCmp.not_isLE_of_lt hcf hfc

end

/-! ## Kept needs -/

/-- The needs of kept types. -/
def keptNeeds (keep : TypeId → Bool) (needs : List ValueNeed) : List ValueNeed :=
  needs.filter fun n => keep n.source

/-- What a kept type needs is kept. -/
def ClosedUnder (keep : TypeId → Bool) (needs : List ValueNeed) : Prop :=
  ∀ n ∈ needs, keep n.source → keep n.target

variable {keep : TypeId → Bool} {key : TypeId → TypeKey} {nodes : List TypeId}
  {needs left broken : List ValueNeed} {a b : TypeId} {c c' : List TypeId}

theorem mem_keptNeeds {n : ValueNeed} :
    n ∈ keptNeeds keep needs ↔ n ∈ needs ∧ keep n.source := by
  rw [keptNeeds, List.mem_filter]

theorem ClosedUnder.filter (closed : ClosedUnder keep needs) (p : ValueNeed → Bool) :
    ClosedUnder keep (needs.filter p) :=
  fun n hn => closed n (List.mem_filter.mp hn).1

theorem Within.filter (within : Within nodes needs) (closed : ClosedUnder keep needs) :
    Within (nodes.filter keep) (keptNeeds keep needs) where
  source n hn := by
    obtain ⟨hn, hkeep⟩ := mem_keptNeeds.mp hn
    exact List.mem_filter.mpr ⟨within.source n hn, hkeep⟩
  target n hn := by
    obtain ⟨hn, hkeep⟩ := mem_keptNeeds.mp hn
    exact List.mem_filter.mpr ⟨within.target n hn, closed n hn hkeep⟩

theorem requires_keptNeeds : Requires (keptNeeds keep needs) a b ↔ Requires needs a b ∧ keep a := by
  constructor
  · intro ⟨n, hn, source, target⟩
    obtain ⟨hn, hkeep⟩ := mem_keptNeeds.mp hn
    exact ⟨⟨n, hn, source, target⟩, source ▸ hkeep⟩
  · intro ⟨⟨n, hn, source, target⟩, hkeep⟩
    exact ⟨n, mem_keptNeeds.mpr ⟨hn, source ▸ hkeep⟩, source, target⟩

/-- All that a kept type needs, on whatever way, is kept. -/
theorem keep_of_path (closed : ClosedUnder keep needs) (ha : keep a)
    (path : ReflTransGen (Requires needs) a b) : keep b := by
  induction path with
  | refl => exact ha
  | tail _ step ih =>
    obtain ⟨n, hn, rfl, rfl⟩ := step
    exact closed n hn ih

theorem path_keptNeeds (closed : ClosedUnder keep needs) (ha : keep a) :
    ReflTransGen (Requires (keptNeeds keep needs)) a b ↔ ReflTransGen (Requires needs) a b := by
  constructor
  · exact ReflTransGen.mono (fun _ _ h => (requires_keptNeeds.mp h).1) _ _
  · intro path
    induction path with
    | refl => exact .refl
    | tail path step ih =>
      exact ih.tail (requires_keptNeeds.mpr ⟨step, keep_of_path closed ha path⟩)

theorem cycle_keptNeeds (closed : ClosedUnder keep needs) (ha : keep a) :
    TransGen (Requires (keptNeeds keep needs)) a a ↔ TransGen (Requires needs) a a := by
  rw [TransGen.head'_iff, TransGen.head'_iff]
  refine exists_congr fun b => ?_
  rw [requires_keptNeeds]
  constructor
  · intro ⟨⟨step, _⟩, path⟩
    have hb := keep_of_path closed ha (.single step)
    exact ⟨step, (path_keptNeeds closed hb).mp path⟩
  · intro ⟨step, path⟩
    have hb := keep_of_path closed ha (.single step)
    exact ⟨⟨step, ha⟩, (path_keptNeeds closed hb).mpr path⟩

/-! ## Components of kept types -/

section

variable (within : Within nodes needs) (closed : ClosedUnder keep needs)

include within closed

/-- The component of a kept type is the same with and without the types that are dropped. -/
theorem mem_component_filter_iff (h : c ∈ (arrowsOf nodes needs).components)
    (h' : c' ∈ (arrowsOf (nodes.filter keep) (keptNeeds keep needs)).components) (ha : a ∈ c)
    (ha' : a ∈ c') : b ∈ c' ↔ b ∈ c := by
  have hnode := ((mem_component_iff (within.filter closed) h' ha').mp ha').1
  have hkeep := (List.mem_filter.mp hnode).2
  rw [mem_component_iff within h ha, mem_component_iff (within.filter closed) h' ha',
    path_keptNeeds closed hkeep, List.mem_filter]
  constructor
  · intro ⟨⟨hb, hkeepb⟩, hab, hba⟩
    exact ⟨hb, hab, (path_keptNeeds closed hkeepb).mp hba⟩
  · intro ⟨hb, hab, hba⟩
    have hkeepb := keep_of_path closed hkeep hab
    exact ⟨⟨hb, hkeepb⟩, hab, (path_keptNeeds closed hkeepb).mpr hba⟩

theorem keep_of_mem_component
    (h' : c' ∈ (arrowsOf (nodes.filter keep) (keptNeeds keep needs)).components) (ha : a ∈ c') :
    keep a := by
  have hnode := ((mem_component_iff (within.filter closed) h' ha).mp ha).1
  exact (List.mem_filter.mp hnode).2

/-- Components with the same types are cyclic together. -/
theorem isCyclic_filter_iff (h : c ∈ (arrowsOf nodes needs).components)
    (h' : c' ∈ (arrowsOf (nodes.filter keep) (keptNeeds keep needs)).components)
    (same : ∀ a, a ∈ c' ↔ a ∈ c) : isCyclic (keptNeeds keep needs) c' ↔ isCyclic needs c := by
  rw [isCyclic_iff within h, isCyclic_iff (within.filter closed) h']
  refine exists_congr fun a => ?_
  rw [← same]
  refine and_congr_right fun ha => ?_
  exact cycle_keptNeeds closed (keep_of_mem_component within closed h' ha)

/-- Each cyclic component of the kept types is one of all types. -/
theorem exists_cyclicComponent
    (h' : c' ∈ cyclicComponents (nodes.filter keep) (keptNeeds keep needs)) :
    ∃ c ∈ cyclicComponents nodes needs, (∀ a, a ∈ c' ↔ a ∈ c) ∧ ∀ a ∈ c, keep a := by
  obtain ⟨h', cyclic⟩ := List.mem_filter.mp h'
  obtain ⟨a, ha, _⟩ := (isCyclic_iff (within.filter closed) h').mp cyclic
  have hnode := ((mem_component_iff (within.filter closed) h' ha).mp ha).1
  obtain ⟨c, hc, hac⟩ := Arrows.exists_component
    ((mem_arrowsOf within.source).mpr (List.mem_filter.mp hnode).1)
  have same : ∀ b, b ∈ c' ↔ b ∈ c := fun b => mem_component_filter_iff within closed hc h' hac ha
  refine ⟨c, List.mem_filter.mpr ⟨hc, (isCyclic_filter_iff within closed hc h' same).mp cyclic⟩,
    same, ?_⟩
  intro b hb
  exact keep_of_mem_component within closed h' ((same b).mpr hb)

/-- Each cyclic component with a kept type is one of the kept types. -/
theorem exists_cyclicComponent_filter (h : c ∈ cyclicComponents nodes needs) (ha : a ∈ c)
    (hkeep : keep a) :
    ∃ c' ∈ cyclicComponents (nodes.filter keep) (keptNeeds keep needs),
      (∀ b, b ∈ c' ↔ b ∈ c) ∧ ∀ b ∈ c, keep b := by
  obtain ⟨hc, cyclic⟩ := List.mem_filter.mp h
  have hnode := ((mem_component_iff within hc ha).mp ha).1
  obtain ⟨c', hc', hac'⟩ := Arrows.exists_component
    ((mem_arrowsOf (within.filter closed).source).mpr (List.mem_filter.mpr ⟨hnode, hkeep⟩))
  have same : ∀ b, b ∈ c' ↔ b ∈ c := fun b => mem_component_filter_iff within closed hc hc' ha hac'
  refine ⟨c', List.mem_filter.mpr
    ⟨hc', (isCyclic_filter_iff within closed hc hc' same).mpr cyclic⟩, same, ?_⟩
  intro b hb
  exact keep_of_mem_component within closed hc' ((same b).mpr hb)

end

/-! ## Rounds -/

/-- Of two components with the same types, all of them kept, the weakest member is the same. -/
theorem weakest_keptNeeds (same : ∀ a, a ∈ c' ↔ a ∈ c) (kept : ∀ a ∈ c, keep a) :
    weakest key (keptNeeds keep needs) c' = weakest key needs c := by
  rw [weakest, weakest, keptNeeds, List.filter_filter]
  congr 1
  apply List.filter_congr
  intro n _
  have member : ∀ a, c'.contains a = c.contains a := by
    intro a
    rw [Bool.eq_iff_iff, List.contains_iff_mem, List.contains_iff_mem, same]
  rw [member, member]
  by_cases hn : n.source ∈ c
  · simp [kept _ hn]
  · simp [hn]

section

variable (within : Within nodes needs) (closed : ClosedUnder keep needs)

include within closed

/-- A round on the kept types breaks what the round on all types breaks among them. -/
theorem mem_weakestMembers_filter {n : ValueNeed} :
    n ∈ weakestMembers key (nodes.filter keep) (keptNeeds keep needs) ↔
      n ∈ weakestMembers key nodes needs ∧ keep n.source := by
  rw [weakestMembers, weakestMembers, List.mem_filterMap, List.mem_filterMap]
  constructor
  · intro h
    obtain ⟨c', hc', hn⟩ := h
    obtain ⟨c, hc, same, kept⟩ := exists_cyclicComponent within closed hc'
    rw [weakest_keptNeeds same kept] at hn
    exact ⟨⟨c, hc, hn⟩, kept _ (mem_of_weakest_eq_some hn).2.2.1⟩
  · intro h
    obtain ⟨⟨c, hc, hn⟩, hkeep⟩ := h
    obtain ⟨_, _, source, _⟩ := mem_of_weakest_eq_some hn
    obtain ⟨c', hc', same, kept⟩ := exists_cyclicComponent_filter within closed hc source hkeep
    exact ⟨c', hc', by rw [weakest_keptNeeds same kept, hn]⟩

theorem unbroken_weakestMembers_filter :
    unbroken (keptNeeds keep needs)
        (weakestMembers key (nodes.filter keep) (keptNeeds keep needs)) =
      keptNeeds keep (unbroken needs (weakestMembers key nodes needs)) := by
  rw [unbroken, unbroken, keptNeeds, keptNeeds, List.filter_filter, List.filter_filter]
  apply List.filter_congr
  intro n _
  rw [← keptNeeds]
  by_cases hkeep : keep n.source
  · have member : n ∈ weakestMembers key (nodes.filter keep) (keptNeeds keep needs) ↔
        n ∈ weakestMembers key nodes needs ∧ keep n.source :=
      mem_weakestMembers_filter within closed
    simp [hkeep, member]
  · simp [hkeep]

theorem Breakable.filter (breakable : Breakable key nodes needs) :
    Breakable key (nodes.filter keep) (keptNeeds keep needs) := by
  intro c' hc'
  obtain ⟨c, hc, same, kept⟩ := exists_cyclicComponent within closed hc'
  rw [weakest_keptNeeds same kept]
  exact breakable c hc

end

/-- Where the rounds on all types lead to, the rounds on the kept types lead to as well. -/
theorem Breaks.filter (h : Breaks key nodes needs left broken) (within : Within nodes needs)
    (closed : ClosedUnder keep needs) : ∃ broken',
      Breaks key (nodes.filter keep) (keptNeeds keep needs) (keptNeeds keep left) broken' ∧
        ∀ n, n ∈ broken' ↔ n ∈ broken ∧ keep n.source := by
  induction h with
  | @done needs empty =>
    refine ⟨[], .done ?_, by simp⟩
    apply List.eq_nil_iff_forall_not_mem.mpr
    intro c' hc'
    obtain ⟨c, hc, _, _⟩ := exists_cyclicComponent within closed hc'
    rw [empty] at hc
    simp at hc
  | @round needs left later cyclic breakable _ ih =>
    obtain ⟨later', run, members⟩ := ih within.unbroken (closed.filter _)
    rw [← unbroken_weakestMembers_filter within closed] at run
    have first (n : ValueNeed) :
        n ∈ weakestMembers key (nodes.filter keep) (keptNeeds keep needs) ↔
          n ∈ weakestMembers key nodes needs ∧ keep n.source :=
      mem_weakestMembers_filter within closed
    by_cases empty : cyclicComponents (nodes.filter keep) (keptNeeds keep needs) = []
    · -- The round was one of dropped types only.
      have none : weakestMembers key (nodes.filter keep) (keptNeeds keep needs) = [] := by
        rw [weakestMembers, empty]
        rfl
      rw [none] at run first
      have all : unbroken (keptNeeds keep needs) [] = keptNeeds keep needs := by simp [unbroken]
      rw [all] at run
      refine ⟨later', run, fun n => ?_⟩
      rw [members, List.mem_append, or_and_right, ← first]
      simp
    · refine ⟨_, .round empty (breakable.filter within closed) run, fun n => ?_⟩
      rw [List.mem_append, List.mem_append, first, members, or_and_right]

/-! ## Emission -/

instance : Std.TransOrd TypeKey :=
  inferInstanceAs (Std.TransCmp (compareLex (compareOn TypeKey.code) (compareOn TypeKey.name)))

namespace OrderedGraph

variable {pending : List TypeId}

instance (key : TypeId → TypeKey) : Std.TransCmp (compareBy key) :=
  inferInstanceAs (Std.TransCmp (compareLex (compareOn key) compare))

/-- A kept type is ready with and without the types that are dropped. -/
theorem ready_filter :
    ready (pending.filter keep) (keptNeeds keep needs) = (ready pending needs).filter keep := by
  rw [ready, ready, List.filter_filter, List.filter_filter]
  apply List.filter_congr
  intro a _
  by_cases hkeep : keep a
  · have blocked : a ∈ (keptNeeds keep needs).map (·.source) ↔ a ∈ needs.map (·.source) := by
      rw [List.mem_map, List.mem_map]
      refine exists_congr fun n => ?_
      rw [mem_keptNeeds, and_assoc]
      refine and_congr_right fun _ => and_iff_right_of_imp fun source => ?_
      rw [source]
      exact hkeep
    rw [hkeep, Bool.and_true, Bool.true_and, Bool.not_inj_iff, Bool.eq_iff_iff]
    rwa [Std.ExtTreeSet.contains_ofList, Std.ExtTreeSet.contains_ofList, List.contains_iff_mem,
      List.contains_iff_mem]
  · simp [hkeep]

/-- Emission of a kept type takes it out of what is pending with it and without the others. -/
theorem keptNeeds_emit (id : TypeId) :
    keptNeeds keep (needs.filter (·.target != id)) =
      (keptNeeds keep needs).filter (·.target != id) := by
  rw [keptNeeds, keptNeeds, List.filter_filter, List.filter_filter]
  congr 1
  funext n
  exact Bool.and_comm _ _

/-- Emission of a dropped type changes nothing for the kept ones, which do not need it. -/
theorem keptNeeds_emit_of_dropped (closed : ClosedUnder keep needs) {id : TypeId}
    (dropped : keep id = false) :
    keptNeeds keep (needs.filter (·.target != id)) = keptNeeds keep needs := by
  rw [keptNeeds_emit, List.filter_eq_self]
  intro n hn
  obtain ⟨hn, hkeep⟩ := mem_keptNeeds.mp hn
  have target := closed n hn hkeep
  rw [bne_iff_ne]
  intro he
  rw [he, dropped] at target
  cases target

/-- The kept types are emitted in the order that they have among all. -/
theorem emission_filter (closed : ClosedUnder keep needs) :
    emission key (pending.filter keep) (keptNeeds keep needs) =
      (emission key pending needs).filter keep := by
  induction hn : pending.length using Nat.strongRecOn generalizing pending needs with
  | ind length ih =>
    rw [emission_eq key pending needs]
    cases hleast : leastBy (compareBy key) (ready pending needs) with
    | none =>
      rw [emission_eq, ready_filter, leastBy_eq_none_iff.mp hleast]
      rfl
    | some id =>
      have hid : id ∈ pending := (mem_ready.mp (mem_of_leastBy hleast)).1
      have shorter : (pending.erase id).length < length := by
        rw [← hn, List.length_erase_of_mem hid]
        exact Nat.sub_one_lt (Nat.ne_of_gt (List.length_pos_of_mem hid))
      have rest := ih _ shorter (closed.filter (·.target != id)) rfl
      rw [← List.erase_filter] at rest
      cases hkeep : keep id with
      | true =>
        rw [emission_eq, ready_filter, leastBy_filter hleast hkeep]
        simp only [List.filter_cons_of_pos hkeep, ← rest, keptNeeds_emit]
      | false =>
        have absent : id ∉ pending.filter keep := by simp [hkeep]
        rw [keptNeeds_emit_of_dropped closed hkeep, List.erase_of_not_mem absent] at rest
        rw [rest, List.filter_cons_of_neg (by simp [hkeep])]

end OrderedGraph

/-! ## Restricted graphs -/

/-- What comes of some entries is what comes of all of them, if nothing comes of the others. -/
theorem flatMap_filter {α β : Type} {p : α → Bool} {f f' : α → List β} {as : List α}
    (kept : ∀ a ∈ as, p a → f' a = f a) (dropped : ∀ a ∈ as, ¬ p a → f a = []) :
    (as.filter p).flatMap f' = as.flatMap f := by
  induction as with
  | nil => rfl
  | cons a as ih =>
    have rest := ih (fun b hb => kept b (List.mem_cons_of_mem a hb))
      fun b hb => dropped b (List.mem_cons_of_mem a hb)
    rw [List.flatMap_cons, ← rest]
    by_cases ha : p a
    · rw [List.filter_cons_of_pos ha, List.flatMap_cons, kept a List.mem_cons_self ha]
    · rw [List.filter_cons_of_neg ha, dropped a List.mem_cons_self ha, List.nil_append]

/-- The graph with the types that are kept. -/
def TypeGraph.filter (g : TypeGraph) (keep : TypeId → Bool) : TypeGraph :=
  { g with types := g.types.filter fun id _ => keep id }

namespace TypeGraph

variable {g : TypeGraph}

theorem mem_references_of_mem_needs {n : TypeNode} {need : Need} {r : TypeRef}
    (h : (need, r) ∈ n.needs) : r ∈ n.references :=
  List.mem_append_left _ (List.mem_map.mpr ⟨_, h, rfl⟩)

theorem mem_types_filter {id : TypeId} :
    id ∈ (g.filter keep).types ↔ id ∈ g.types ∧ keep id := by
  rw [← Std.ExtTreeMap.mem_keys, filter, Std.ExtTreeMap.keys_filter_key, List.mem_filter,
    Std.ExtTreeMap.mem_keys]

variable (closed : ∀ a b, g.Refers a b → keep a → keep b)

include closed

theorem closedUnder_valueNeeds : ClosedUnder keep g.valueNeeds := by
  intro n hn hkeep
  obtain ⟨_, node, need, hnode, hneed, _⟩ := requires_valueNeeds.mp ⟨n, hn, rfl, rfl⟩
  exact closed _ _ ⟨node, hnode, mem_references_of_mem_needs hneed⟩ hkeep

/-- A kept type needs in the restricted graph what it needs in the whole. -/
theorem valueNeedsOf_filter {id : TypeId} {node : TypeNode} (hnode : g.types[id]? = some node)
    (hkeep : keep id) : (g.filter keep).valueNeedsOf id node = g.valueNeedsOf id node := by
  apply valueNeedsOf_congr
  intro need b hneed
  have kept := closed id b ⟨node, hnode, mem_references_of_mem_needs hneed⟩ hkeep
  rw [mem_types_filter]
  exact and_iff_left kept

theorem valueNeeds_filter : (g.filter keep).valueNeeds = keptNeeds keep g.valueNeeds := by
  rw [valueNeeds, filter, Std.ExtTreeMap.toList_filter, keptNeeds, valueNeeds, List.filter_flatMap]
  have source : ∀ e : TypeId × TypeNode, ∀ n ∈ g.valueNeedsOf e.1 e.2, n.source = e.1 :=
    fun e n hn => (mem_valueNeedsOf.mp hn).1
  apply flatMap_filter
  · intro e he hkeep
    have known := Std.ExtTreeMap.mem_toList_iff_getElem?_eq_some.mp he
    refine (valueNeedsOf_filter closed known hkeep).trans ?_
    symm
    rw [List.filter_eq_self]
    intro n hn
    rw [source e n hn]
    exact hkeep
  · intro e _ hkeep
    rw [List.filter_eq_nil_iff]
    intro n hn
    rw [source e n hn]
    exact hkeep

end TypeGraph

namespace OrderedGraph

variable {g : TypeGraph} {codes : NamespaceCodes} {o : OrderedGraph}

/-- Rewrites of kept types, in a table of kept types, are the rewrites in the whole. -/
theorem rewrite_filter {types : TypeTable} {members members' : List RewrittenMember}
    (same : ∀ m, m ∈ members' ↔ m ∈ members ∧ keep m.source) :
    rewrite (types.filter fun id _ => keep id) members' =
      (rewrite types members).filter fun id _ => keep id := by
  apply Std.ExtTreeMap.ext_getElem?
  intro id
  rw [getElem?_rewrite, Std.ExtTreeMap.getElem?_filter', Std.ExtTreeMap.getElem?_filter',
    getElem?_rewrite]
  cases hkeep : keep id with
  | false => cases types[id]? <;> simp [Option.filter]
  | true =>
    have positions : ∀ i, i ∈ positionsOf members' id ↔ i ∈ positionsOf members id := by
      intro i
      rw [mem_positionsOf, mem_positionsOf]
      refine exists_congr fun m => ?_
      rw [same, and_assoc]
      refine and_congr_right fun _ => and_iff_right_of_imp fun h => ?_
      rw [h.1]
      exact hkeep
    cases types[id]? with
    | none => rfl
    | some n => simp only [Option.filter, Option.map_some, if_true, TypeNode.holdAll_eq, positions]

/-- A graph that can be put in order can be restricted before that or afterwards. -/
theorem ofGraph_filter (closed : ∀ a b, g.Refers a b → keep a → keep b)
    (h : ofGraph g codes = .ok o) : ∃ o', ofGraph (g.filter keep) codes = .ok o' ∧
      o'.order = o.order.filter keep ∧ o'.graph = o.graph.filter keep ∧
      ∀ m, m ∈ o'.rewritten ↔ m ∈ o.rewritten ∧ keep m.source := by
  obtain ⟨left, broken, breaks, rfl⟩ := ofGraph_eq_ok h
  have closedNeeds := TypeGraph.closedUnder_valueNeeds closed
  obtain ⟨broken', breaks', members⟩ :=
    breaks.filter TypeGraph.within_valueNeeds closedNeeds
  have keys : (g.filter keep).types.keys = g.types.keys.filter keep :=
    Std.ExtTreeMap.keys_filter_key
  rw [← keys, ← TypeGraph.valueNeeds_filter closed] at breaks'
  have closedLeft : ClosedUnder keep left := breaks.left_eq ▸ closedNeeds.filter _
  have rewritten (m : RewrittenMember) : m ∈ broken'.filterMap memberOf ↔
      m ∈ broken.filterMap memberOf ∧ keep m.source := by
    rw [mem_memberOf_iff, mem_memberOf_iff, members]
  refine ⟨_, by rw [ofGraph, breakCycles_eq_ok_iff.mpr breaks']; rfl, ?_, ?_, rewritten⟩
  · simp only [keys, emission_filter closedLeft]
  · simp only [TypeGraph.filter, rewrite_filter rewritten]

end OrderedGraph

end SoapBindings
