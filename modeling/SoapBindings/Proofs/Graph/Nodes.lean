import Mathlib.Data.List.Basic
import SoapBindings.Graph.Order

/-!
# Nodes and the way their members are held

The needs of a node come in two kinds: those of its members, one for each and told apart by the
position (`mem_needs_member`), and the others, which are the same however the members are held
(`otherNeeds`). `TypeNode.holdAll` is what a run of rewrites does to one node: it changes the
members at the listed positions and nothing else (`holdAll_eq`).
-/

set_option autoImplicit false

namespace SoapBindings

theorem modify_eq_mapIdx {α : Type} (xs : List α) (i : Nat) (f : α → α) :
    xs.modify i f = xs.mapIdx fun j x => if j = i then f x else x := by
  apply List.ext_getElem?
  intro j
  rw [List.getElem?_modify, List.getElem?_mapIdx]
  by_cases h : i = j
  · simp [h]
  · simp [h, Ne.symm h]

theorem mapIdx_eq_self {α : Type} {xs : List α} {f : Nat → α → α}
    (h : ∀ i < xs.length, ∀ x, f i x = x) : xs.mapIdx f = xs := by
  apply List.ext_getElem (by simp)
  intro i _ hi
  rw [List.getElem_mapIdx, h i hi]

namespace TypeContent

@[simp] theorem particles_mapParticles_mapIdx (c : TypeContent) (f : Nat → Particle → Particle) :
    (c.mapParticles (·.mapIdx f)).particles = c.particles.mapIdx f := by
  cases c <;> simp [mapParticles, particles]

theorem mapParticles_mapParticles (c : TypeContent) (f g : List Particle → List Particle) :
    (c.mapParticles f).mapParticles g = c.mapParticles fun ps => g (f ps) := by
  cases c <;> rfl

theorem mapParticles_congr {c : TypeContent} {f g : List Particle → List Particle}
    (h : f c.particles = g c.particles) : c.mapParticles f = c.mapParticles g := by
  cases c with
  | sequence ps => exact congrArg sequence h
  | choice ps => exact congrArg choice h
  | all ps => exact congrArg all h
  | empty => rfl
  | value r => rfl

theorem mapParticles_id (c : TypeContent) : c.mapParticles (fun ps => ps) = c := by
  cases c <;> rfl

end TypeContent

namespace TypeNode

/-! ## Members -/

/-- The node with its members changed one by one, by their positions. -/
def mapMembers (f : Nat → Particle → Particle) (n : TypeNode) : TypeNode :=
  match n.kind with
  | .complex content attributes mixed anyAttribute =>
    let behind := attributes.mapIdx fun i => f (content.particles.length + i)
    { n with kind := .complex (content.mapParticles (·.mapIdx f)) behind mixed anyAttribute }
  | _ => n

theorem members_mapMembers (f : Nat → Particle → Particle) (n : TypeNode) :
    (n.mapMembers f).members = n.members.mapIdx f := by
  obtain ⟨kind, base, isAbstract, documentation, origin⟩ := n
  cases kind with
  | complex content attributes mixed anyAttribute =>
    simp [mapMembers, members, List.mapIdx_append, Nat.add_comm]
  | simple base facets => simp [mapMembers, members]
  | enumeration base values => simp [mapMembers, members]
  | list item => simp [mapMembers, members]

theorem mapMembers_id (n : TypeNode) : n.mapMembers (fun _ p => p) = n := by
  obtain ⟨kind, base, isAbstract, documentation, origin⟩ := n
  cases kind with
  | complex content attributes mixed anyAttribute =>
    have same (ps : List Particle) : ps.mapIdx (fun _ p => p) = ps :=
      mapIdx_eq_self fun _ _ _ => rfl
    simp only [mapMembers, same, TypeContent.mapParticles_id]
  | simple base facets => rfl
  | enumeration base values => rfl
  | list item => rfl

theorem mapMembers_mapMembers (f g : Nat → Particle → Particle) (n : TypeNode) :
    (n.mapMembers f).mapMembers g = n.mapMembers fun i p => g i (f i p) := by
  obtain ⟨kind, base, isAbstract, documentation, origin⟩ := n
  cases kind with
  | complex content attributes mixed anyAttribute =>
    simp [mapMembers, TypeContent.mapParticles_mapParticles, Function.comp_def]
  | simple base facets => rfl
  | enumeration base values => rfl
  | list item => rfl

/-- A member stands among the elements, or behind them among the attributes: either way it is the
member at its position that is changed. -/
theorem hold_eq (n : TypeNode) (position : Nat) (holding : Holding) :
    n.hold position holding =
      n.mapMembers fun i p => if i = position then { p with holding := holding } else p := by
  obtain ⟨kind, base, isAbstract, documentation, origin⟩ := n
  cases kind with
  | complex content attributes mixed anyAttribute =>
    by_cases h : position < content.particles.length
    · -- No attribute stands at the position.
      have behind : (attributes.mapIdx fun i p => if content.particles.length + i = position then
          { p with holding := holding } else p) = attributes :=
        mapIdx_eq_self fun i _ p => if_neg (by omega)
      simp only [hold, if_pos h, mapMembers, behind, modify_eq_mapIdx]
    · have before : (content.mapParticles fun ps => ps.mapIdx fun i p => if i = position then
          { p with holding := holding } else p) = content := by
        refine (TypeContent.mapParticles_congr ?_).trans content.mapParticles_id
        exact mapIdx_eq_self fun i hi p => if_neg (by omega)
      have shift (i : Nat) : i = position - content.particles.length ↔
          content.particles.length + i = position := by omega
      simp only [hold, if_neg h, mapMembers, before, modify_eq_mapIdx, shift]
  | simple base facets => rfl
  | enumeration base values => rfl
  | list item => rfl

/-- The node after rewrites at some positions. -/
def holdAll (n : TypeNode) (positions : List Nat) : TypeNode :=
  positions.foldl (·.hold · .byReference) n

/-- Rewrites change the listed positions, whatever their order, and nothing else of a node. -/
theorem holdAll_eq (n : TypeNode) (positions : List Nat) :
    n.holdAll positions = n.mapMembers fun i p =>
      if i ∈ positions then { p with holding := .byReference } else p := by
  induction positions generalizing n with
  | nil => simp [holdAll, mapMembers_id]
  | cons position positions ih =>
    rw [holdAll, List.foldl_cons, ← holdAll, ih, hold_eq, mapMembers_mapMembers]
    congr
    funext i p
    by_cases hp : i = position
    · subst hp
      by_cases hi : i ∈ positions
      · simp [hi]
      · simp [hi]
    · simp [hp]

theorem members_holdAll (n : TypeNode) (positions : List Nat) (i : Nat) :
    (n.holdAll positions).members[i]? = n.members[i]?.map fun p =>
      if i ∈ positions then { p with holding := .byReference } else p := by
  rw [holdAll_eq, members_mapMembers, List.getElem?_mapIdx]

/-! ## Needs -/

/-- The needs that are not those of members. -/
def otherNeeds (n : TypeNode) : List (Need × TypeRef) :=
  let base := match n.base with
    | some ⟨type, .extension⟩ => [(.base, type)]
    | _ => []
  let own := match n.kind with
    | .simple base _ | .enumeration base _ => [(.simpleBase, base)]
    | .list item => [(.item, item)]
    | .complex (.value type) _ _ _ => [(.value, type)]
    | .complex .. => []
  base ++ own

theorem needs_eq (n : TypeNode) :
    n.needs = n.otherNeeds ++ n.members.mapIdx fun i p => (.member i p.holding, p.type) := rfl

theorem isMember_of_mem_otherNeeds {n : TypeNode} {need : Need} {type : TypeRef}
    (h : (need, type) ∈ n.otherNeeds) (position : Nat) (holding : Holding) :
    need ≠ .member position holding := by
  rintro rfl
  obtain ⟨kind, base, isAbstract, documentation, origin⟩ := n
  simp only [otherNeeds, List.mem_append] at h
  rcases h with h | h
  · split at h <;> simp at h
  · split at h <;> simp at h

/-- The needs of members. -/
theorem mem_needs_member {n : TypeNode} {position : Nat} {holding : Holding} {type : TypeRef} :
    (.member position holding, type) ∈ n.needs ↔
      ∃ p, n.members[position]? = some p ∧ p.holding = holding ∧ p.type = type := by
  rw [needs_eq, List.mem_append, List.mem_mapIdx]
  constructor
  · rintro (h | ⟨i, hi, he⟩)
    · exact absurd rfl (isMember_of_mem_otherNeeds h position holding)
    · cases he
      exact ⟨n.members[position], List.getElem?_eq_getElem hi, rfl, rfl⟩
  · rintro ⟨p, hp, rfl, rfl⟩
    obtain ⟨hi, rfl⟩ := List.getElem?_eq_some_iff.mp hp
    exact Or.inr ⟨position, hi, rfl⟩

/-- What a node refers to: what it needs besides its members, its members' types, its base. -/
theorem mem_references {n : TypeNode} {r : TypeRef} : r ∈ n.references ↔
    (∃ need, (need, r) ∈ n.otherNeeds) ∨ (∃ p ∈ n.members, p.type = r) ∨
      ∃ derivation, n.base = some ⟨r, derivation⟩ := by
  rw [references, needs_eq, List.map_append, List.mem_append, List.mem_append, or_assoc]
  refine or_congr ?_ (or_congr ?_ ?_)
  · simp
  · simp only [List.mem_map, List.mem_mapIdx]
    constructor
    · rintro ⟨_, ⟨i, hi, rfl⟩, rfl⟩
      exact ⟨n.members[i], List.getElem_mem hi, rfl⟩
    · rintro ⟨p, hp, rfl⟩
      obtain ⟨i, hi, rfl⟩ := List.mem_iff_getElem.mp hp
      exact ⟨_, ⟨i, hi, rfl⟩, rfl⟩
  · simp only [List.mem_map, Option.mem_toList]
    constructor
    · rintro ⟨⟨type, derivation⟩, hbase, rfl⟩
      exact ⟨derivation, hbase⟩
    · rintro ⟨derivation, hbase⟩
      exact ⟨_, hbase, rfl⟩

/-- The names that stand unresolved in a node are among what it refers to. -/
theorem mem_unresolved {n : TypeNode} {name : QName} :
    name ∈ n.unresolved ↔ .unresolved name ∈ n.references := by
  have names : ∀ rs : List TypeRef,
      name ∈ rs.filterMap (·.unresolved?) ↔ .unresolved name ∈ rs := by
    intro rs
    rw [List.mem_filterMap]
    constructor
    · rintro ⟨r, hr, h⟩
      cases r with
      | unresolved other =>
        cases h
        exact hr
      | node _ | builtin _ => cases h
    · exact fun h => ⟨_, h, rfl⟩
  rw [unresolved, names, references, List.mem_append, List.mem_append]
  refine ⟨Or.imp_right fun h => ?_, fun h => ?_⟩
  · split at h
    · next type heq =>
      rw [heq, List.mem_singleton.mp h]
      simp
    · cases h
  · rcases h with h | h
    · exact Or.inl h
    · obtain ⟨⟨type, derivation⟩, hbase, rfl⟩ := List.mem_map.mp h
      rw [Option.mem_toList] at hbase
      cases derivation with
      | extension =>
        -- The base of an extension is a need.
        refine Or.inl (List.mem_map.mpr ⟨(.base, .unresolved name), ?_, rfl⟩)
        rw [needs, hbase]
        simp
      | restriction =>
        rw [hbase]
        exact Or.inr List.mem_cons_self

theorem otherNeeds_mapMembers (f : Nat → Particle → Particle) (n : TypeNode) :
    (n.mapMembers f).otherNeeds = n.otherNeeds := by
  obtain ⟨kind, base, isAbstract, documentation, origin⟩ := n
  cases kind with
  | complex content attributes mixed anyAttribute => cases content <;> rfl
  | simple base facets => rfl
  | enumeration base values => rfl
  | list item => rfl

theorem otherNeeds_holdAll (n : TypeNode) (positions : List Nat) :
    (n.holdAll positions).otherNeeds = n.otherNeeds := by
  rw [holdAll_eq, otherNeeds_mapMembers]

theorem base_mapMembers (f : Nat → Particle → Particle) (n : TypeNode) :
    (n.mapMembers f).base = n.base := by
  rw [mapMembers]
  split
  · rfl
  · rfl

theorem base_holdAll (n : TypeNode) (positions : List Nat) :
    (n.holdAll positions).base = n.base := by
  rw [holdAll_eq, base_mapMembers]

/-- However the members are held, the node refers to the same types. -/
theorem mem_references_holdAll {n : TypeNode} {positions : List Nat} {r : TypeRef} :
    r ∈ (n.holdAll positions).references ↔ r ∈ n.references := by
  rw [mem_references, mem_references, otherNeeds_holdAll, base_holdAll]
  refine or_congr Iff.rfl (or_congr ?_ Iff.rfl)
  simp only [List.mem_iff_getElem?, members_holdAll, Option.map_eq_some_iff]
  constructor
  · rintro ⟨_, ⟨i, p, hp, rfl⟩, rfl⟩
    refine ⟨p, ⟨i, hp⟩, ?_⟩
    split
    · rfl
    · rfl
  · rintro ⟨p, ⟨i, hp⟩, rfl⟩
    refine ⟨_, ⟨i, p, hp, rfl⟩, ?_⟩
    split
    · rfl
    · rfl

end TypeNode

end SoapBindings
