import SoapBindings.Proofs.Graph.Nodes
import SoapBindings.Proofs.Ordering.Breaking

/-!
# Needs and rewrites

The search for cycles works on a list of needs, the rewrites work on nodes. `mem_valueNeeds` reads
a need off a node, and `valueNeeds_rewrite` says that the two views stay together: the list of needs
of the rewritten graph is the list of the graph before, less those that were broken.

A broken need is told apart by its source and its position alone, as a position has one type; that
is why rewriting a position breaks no need but that one.
-/

set_option autoImplicit false

namespace SoapBindings

open Relation

namespace TypeGraph

/-- The type `a` needs the type `b` complete: one of its needs is by value and asks for `b`. -/
def NeedsComplete (g : TypeGraph) (a b : TypeId) : Prop :=
  b ∈ g.types ∧ ∃ n need, g.types[a]? = some n ∧ (need, .node b) ∈ n.needs ∧ need.isByValue

variable {g : TypeGraph}

/-- The need `n` is one of the node. -/
def HasNeed (node : TypeNode) (n : ValueNeed) : Prop :=
  (∃ position, n.member = some position ∧
      (.member position .byValue, .node n.target) ∈ node.needs) ∨
    (n.member = none ∧ ∃ need, (need, .node n.target) ∈ node.otherNeeds)

theorem HasNeed.of_member {node : TypeNode} {n : ValueNeed} {position : Nat} (h : HasNeed node n)
    (hp : n.member = some position) :
    (.member position .byValue, .node n.target) ∈ node.needs := by
  rcases h with ⟨i, hi, h⟩ | ⟨none, _⟩
  · rw [hp] at hi
    cases hi
    exact h
  · rw [hp] at none
    cases none

theorem mem_valueNeedsOf {id : TypeId} {node : TypeNode} {n : ValueNeed} :
    n ∈ g.valueNeedsOf id node ↔ n.source = id ∧ n.target ∈ g.types ∧ HasNeed node n := by
  simp only [valueNeedsOf, List.mem_filterMap, Prod.exists]
  constructor
  · rintro ⟨need, type, hmem, h⟩
    split at h
    · cases h
    · next target htarget =>
      have hnode : type = .node target := by
        cases type <;> simp_all [TypeRef.node?]
      subst hnode
      split at h
      · cases h
      · next hcontains =>
        have hin : target ∈ g.types := by simpa using hcontains
        split at h
        · cases h
        · next position =>
          cases h
          exact ⟨rfl, hin, Or.inl ⟨position, rfl, hmem⟩⟩
        · next hvalue hreference =>
          cases h
          refine ⟨rfl, hin, Or.inr ⟨rfl, need, ?_⟩⟩
          rw [TypeNode.needs_eq, List.mem_append] at hmem
          refine hmem.resolve_right fun hm => ?_
          obtain ⟨i, hi, he⟩ := List.mem_mapIdx.mp hm
          have := (Prod.mk.inj he).1
          cases hh : (node.members[i]).holding with
          | byValue => exact hreference i (by rw [← this, hh])
          | byReference => exact hvalue i (by rw [← this, hh])
  · rintro ⟨rfl, hin, ⟨position, hmember, hmem⟩ | ⟨hmember, need, hmem⟩⟩
    · refine ⟨_, _, hmem, ?_⟩
      obtain ⟨source, target, member⟩ := n
      simp_all [TypeRef.node?]
    · refine ⟨need, _, by rw [TypeNode.needs_eq]; exact List.mem_append_left _ hmem, ?_⟩
      have notMember := TypeNode.isMember_of_mem_otherNeeds hmem
      obtain ⟨source, target, member⟩ := n
      cases need with
      | member position holding => exact absurd rfl (notMember position holding)
      | _ => simp_all [TypeRef.node?]

theorem mem_valueNeeds {n : ValueNeed} : n ∈ g.valueNeeds ↔
    ∃ node, g.types[n.source]? = some node ∧ n.target ∈ g.types ∧ HasNeed node n := by
  simp only [valueNeeds, List.mem_flatMap, Prod.exists, mem_valueNeedsOf]
  constructor
  · rintro ⟨id, node, hmem, rfl, h⟩
    exact ⟨node, Std.ExtTreeMap.mem_toList_iff_getElem?_eq_some.mp hmem, h⟩
  · rintro ⟨node, hnode, h⟩
    exact ⟨n.source, node, Std.ExtTreeMap.mem_toList_iff_getElem?_eq_some.mpr hnode, rfl, h⟩

theorem within_valueNeeds : Within g.types.keys g.valueNeeds where
  source n hn := by
    obtain ⟨node, hnode, _⟩ := mem_valueNeeds.mp hn
    exact Std.ExtTreeMap.mem_keys.mpr (mem_of_getElem? hnode)
  target n hn := by
    obtain ⟨_, _, htarget, _⟩ := mem_valueNeeds.mp hn
    exact Std.ExtTreeMap.mem_keys.mpr htarget

/-- The list of needs says of two types what the graph says of them. -/
theorem requires_valueNeeds {a b : TypeId} : Requires g.valueNeeds a b ↔ g.NeedsComplete a b := by
  constructor
  · rintro ⟨n, hn, rfl, rfl⟩
    obtain ⟨node, hnode, htarget, h⟩ := mem_valueNeeds.mp hn
    refine ⟨htarget, node, ?_⟩
    rcases h with ⟨position, _, h⟩ | ⟨_, need, h⟩
    · exact ⟨_, hnode, h, rfl⟩
    · refine ⟨need, hnode, by rw [TypeNode.needs_eq]; exact List.mem_append_left _ h, ?_⟩
      cases need with
      | member position holding =>
        exact absurd rfl (TypeNode.isMember_of_mem_otherNeeds h position holding)
      | _ => rfl
  · rintro ⟨htarget, node, need, hnode, h, hvalue⟩
    have hother := h
    rw [TypeNode.needs_eq, List.mem_append] at hother
    rcases hother with hother | hother
    · exact ⟨⟨a, b, none⟩, mem_valueNeeds.mpr ⟨node, hnode, htarget, Or.inr ⟨rfl, need, hother⟩⟩,
        rfl, rfl⟩
    · obtain ⟨position, hi, he⟩ := List.mem_mapIdx.mp hother
      have hneed : need = .member position .byValue := by
        rw [← (Prod.mk.inj he).1] at hvalue ⊢
        cases hh : (node.members[position]).holding with
        | byValue => rfl
        | byReference => simp [hh, Need.isByValue] at hvalue
      subst hneed
      exact ⟨⟨a, b, some position⟩,
        mem_valueNeeds.mpr ⟨node, hnode, htarget, Or.inl ⟨position, rfl, h⟩⟩, rfl, rfl⟩

/-! ## The list of needs -/

/-- The need for a complete type behind an entry in the list of what a node needs. -/
def valueNeed? (g : TypeGraph) (id : TypeId) : Need × TypeRef → Option ValueNeed :=
  fun (need, type) =>
    match type.node? with
    | none => none
    | some target =>
      if !g.types.contains target then none
      else
        match need with
        | .member _ .byReference => none
        | .member position .byValue => some ⟨id, target, some position⟩
        | _ => some ⟨id, target, none⟩

theorem valueNeedsOf_eq (g : TypeGraph) (id : TypeId) (node : TypeNode) :
    g.valueNeedsOf id node = node.needs.filterMap (g.valueNeed? id) := rfl

/-- The need stands behind no member at one of some positions. -/
def avoids (positions : List Nat) (n : ValueNeed) : Bool := !n.member.any (positions.contains ·)

theorem valueNeed?_member (g : TypeGraph) (id : TypeId) (positions : List Nat) (i : Nat)
    (p : Particle) :
    g.valueNeed? id (.member i (if i ∈ positions then .byReference else p.holding), p.type) =
      (g.valueNeed? id (.member i p.holding, p.type)).filter (avoids positions) := by
  cases htype : p.type with
  | node target =>
    by_cases htarget : g.types.contains target
    · by_cases hi : i ∈ positions
      · cases p.holding <;> simp [valueNeed?, TypeRef.node?, htarget, hi, avoids, Option.filter]
      · cases p.holding <;> simp [valueNeed?, TypeRef.node?, htarget, hi, avoids, Option.filter]
    · simp [valueNeed?, TypeRef.node?, htarget]
  | builtin b => simp [valueNeed?, TypeRef.node?]
  | unresolved name => simp [valueNeed?, TypeRef.node?]

/-- Rewrites at some positions take the needs of these positions out of the list, and no others. -/
theorem valueNeedsOf_holdAll (g : TypeGraph) (id : TypeId) (node : TypeNode)
    (positions : List Nat) :
    g.valueNeedsOf id (node.holdAll positions) =
      (g.valueNeedsOf id node).filter (avoids positions) := by
  rw [valueNeedsOf_eq, valueNeedsOf_eq, TypeNode.needs_eq, TypeNode.needs_eq,
    TypeNode.otherNeeds_holdAll, List.filterMap_append, List.filterMap_append, List.filter_append]
  congr 1
  · -- No other need stands behind a member.
    symm
    rw [List.filter_eq_self]
    intro n hn
    obtain ⟨⟨need, type⟩, hentry, h⟩ := List.mem_filterMap.mp hn
    have notMember := TypeNode.isMember_of_mem_otherNeeds hentry
    have hmember : n.member = none := by
      cases need with
      | member position holding => exact absurd rfl (notMember position holding)
      | _ =>
        simp only [valueNeed?] at h
        split at h
        · cases h
        · split at h
          · cases h
          · cases h
            rfl
    simp [avoids, hmember]
  · rw [TypeNode.holdAll_eq, TypeNode.members_mapMembers, List.mapIdx_mapIdx, List.filter_filterMap,
      List.mapIdx_eq_zipIdx_map, List.mapIdx_eq_zipIdx_map, List.filterMap_map, List.filterMap_map]
    apply List.filterMap_congr
    intro entry _
    obtain ⟨p, i⟩ := entry
    have h := valueNeed?_member g id positions i p
    by_cases hi : i ∈ positions
    · simpa [hi] using h
    · simpa [hi] using h

/-- What a node needs depends on the graph only through the types that it needs. -/
theorem valueNeedsOf_congr {g g' : TypeGraph} (id : TypeId) {node : TypeNode}
    (same : ∀ need b, (need, .node b) ∈ node.needs → (b ∈ g'.types ↔ b ∈ g.types)) :
    g'.valueNeedsOf id node = g.valueNeedsOf id node := by
  rw [valueNeedsOf_eq, valueNeedsOf_eq]
  apply List.filterMap_congr
  intro (need, type) hentry
  cases type with
  | node b =>
    have known : g'.types.contains b = g.types.contains b := by
      rw [Bool.eq_iff_iff, ← Std.ExtTreeMap.mem_iff_contains, ← Std.ExtTreeMap.mem_iff_contains]
      exact same need b hentry
    simp only [valueNeed?, TypeRef.node?, known]
  | builtin b => rfl
  | unresolved name => rfl

end TypeGraph

namespace OrderedGraph

/-! ## Rewritten tables -/

/-- The positions of a type that some rewrites change. -/
def positionsOf (members : List RewrittenMember) (id : TypeId) : List Nat :=
  (members.filter (·.source = id)).map (·.position)

theorem mem_positionsOf {members : List RewrittenMember} {id : TypeId} {position : Nat} :
    position ∈ positionsOf members id ↔ ∃ m ∈ members, m.source = id ∧ m.position = position := by
  simp [positionsOf, and_assoc]

theorem getElem?_rewrite (types : TypeTable) (members : List RewrittenMember) (id : TypeId) :
    (rewrite types members)[id]? = types[id]?.map (·.holdAll (positionsOf members id)) := by
  induction members generalizing types with
  | nil => simp [rewrite, positionsOf, TypeNode.holdAll]
  | cons m members ih =>
    rw [rewrite, List.foldl_cons, ← rewrite, ih, Std.ExtTreeMap.getElem?_modify]
    by_cases h : m.source = id
    · subst h
      simp [positionsOf, TypeNode.holdAll, Function.comp_def]
    · rw [if_neg fun he => h (Std.LawfulEqCmp.eq_of_compare he)]
      simp [positionsOf, h]

theorem rewrite_eq_map (types : TypeTable) (members : List RewrittenMember) :
    rewrite types members = types.map fun id n => n.holdAll (positionsOf members id) := by
  apply Std.ExtTreeMap.ext_getElem?
  intro id
  rw [getElem?_rewrite, Std.ExtTreeMap.getElem?_map]

@[simp] theorem mem_rewrite {types : TypeTable} {members : List RewrittenMember} {id : TypeId} :
    id ∈ rewrite types members ↔ id ∈ types := by
  rw [Std.ExtTreeMap.mem_iff_isSome_getElem?, Std.ExtTreeMap.mem_iff_isSome_getElem?,
    getElem?_rewrite, Option.isSome_map]

variable {g : TypeGraph} {broken : List ValueNeed}

/-- A member is rewritten if the need behind it was broken. -/
theorem mem_memberOf_iff {m : RewrittenMember} :
    m ∈ broken.filterMap memberOf ↔ ⟨m.source, m.target, some m.position⟩ ∈ broken := by
  rw [List.mem_filterMap]
  constructor
  · intro ⟨n, hn, h⟩
    obtain ⟨position, hposition, he⟩ := Option.map_eq_some_iff.mp h
    obtain ⟨source, target, member⟩ := n
    cases he
    cases hposition
    exact hn
  · intro h
    exact ⟨_, h, rfl⟩

theorem mem_positionsOf_memberOf {id : TypeId} {position : Nat} :
    position ∈ positionsOf (broken.filterMap memberOf) id ↔
      ∃ n ∈ broken, n.source = id ∧ n.member = some position := by
  rw [mem_positionsOf]
  constructor
  · rintro ⟨m, hm, rfl, rfl⟩
    obtain ⟨n, hn, h⟩ := List.mem_filterMap.mp hm
    obtain ⟨position, hposition, rfl⟩ := Option.map_eq_some_iff.mp h
    exact ⟨n, hn, rfl, hposition⟩
  · rintro ⟨n, hn, rfl, hposition⟩
    have hm : memberOf n = some ⟨n.source, n.target, position⟩ := by simp [memberOf, hposition]
    exact ⟨_, List.mem_filterMap.mpr ⟨n, hn, hm⟩, rfl, rfl⟩

/-- Two needs of one position are one need. -/
theorem eq_of_position {n n' : ValueNeed} {position : Nat} (h : n ∈ g.valueNeeds)
    (h' : n' ∈ g.valueNeeds) (source : n'.source = n.source) (hp : n.member = some position)
    (hp' : n'.member = some position) : n' = n := by
  obtain ⟨node, hnode, _, h⟩ := TypeGraph.mem_valueNeeds.mp h
  obtain ⟨node', hnode', _, h'⟩ := TypeGraph.mem_valueNeeds.mp h'
  rw [source, hnode] at hnode'
  cases hnode'
  have target : n'.target = n.target := by
    obtain ⟨p, hmember, _, htype⟩ := TypeNode.mem_needs_member.mp (h.of_member hp)
    obtain ⟨p', hmember', _, htype'⟩ := TypeNode.mem_needs_member.mp (h'.of_member hp')
    rw [hmember] at hmember'
    cases hmember'
    rw [htype] at htype'
    exact (TypeRef.node.inj htype').symm
  obtain ⟨s, t, m⟩ := n
  obtain ⟨s', t', m'⟩ := n'
  simp_all

/-- A need of the graph was broken exactly if its position was rewritten: no two needs have one
position, and only members were broken. -/
theorem avoids_positionsOf (sub : ∀ n ∈ broken, n ∈ g.valueNeeds ∧ n.member.isSome) {n : ValueNeed}
    (hn : n ∈ g.valueNeeds) :
    TypeGraph.avoids (positionsOf (broken.filterMap memberOf) n.source) n =
      !broken.contains n := by
  rw [TypeGraph.avoids, Bool.not_inj_iff, Bool.eq_iff_iff, Option.any_eq_true,
    List.contains_iff_mem]
  constructor
  · intro ⟨position, hposition, h⟩
    rw [List.contains_iff_mem] at h
    obtain ⟨n', hn', source, hposition'⟩ := mem_positionsOf_memberOf.mp h
    rw [← eq_of_position hn (sub n' hn').1 source hposition hposition']
    exact hn'
  · intro h
    obtain ⟨position, hposition⟩ := Option.isSome_iff_exists.mp (sub n h).2
    refine ⟨position, hposition, ?_⟩
    rw [List.contains_iff_mem]
    exact mem_positionsOf_memberOf.mpr ⟨n, h, rfl, hposition⟩

/-- The needs of the rewritten graph are those that were not broken, in the same order. -/
theorem valueNeeds_rewrite (sub : ∀ n ∈ broken, n ∈ g.valueNeeds ∧ n.member.isSome) :
    TypeGraph.valueNeeds { g with types := rewrite g.types (broken.filterMap memberOf) } =
      unbroken g.valueNeeds broken := by
  rw [TypeGraph.valueNeeds, unbroken, TypeGraph.valueNeeds, List.filter_flatMap]
  simp only [rewrite_eq_map, Std.ExtTreeMap.toList_map, List.flatMap_map]
  apply List.flatMap_congr
  intro entry hnode
  obtain ⟨id, node⟩ := entry
  have known : ∀ b, b ∈ g.types.map (fun id (node : TypeNode) => node.holdAll
      (positionsOf (broken.filterMap memberOf) id)) ↔ b ∈ g.types := by
    intro b
    exact Std.ExtTreeMap.mem_map
  rw [TypeGraph.valueNeedsOf_congr (g := g) id fun _ b _ => known b,
    TypeGraph.valueNeedsOf_holdAll]
  apply List.filter_congr
  intro n hn
  have whole : n ∈ g.valueNeeds := List.mem_flatMap.mpr ⟨(id, node), hnode, hn⟩
  rw [← (TypeGraph.mem_valueNeedsOf.mp hn).1]
  exact avoids_positionsOf sub whole

theorem mem_valueNeeds_rewrite (sub : ∀ n ∈ broken, n ∈ g.valueNeeds ∧ n.member.isSome)
    {n : ValueNeed} :
    n ∈ TypeGraph.valueNeeds { g with types := rewrite g.types (broken.filterMap memberOf) } ↔
      n ∈ unbroken g.valueNeeds broken := by
  rw [valueNeeds_rewrite sub]

end OrderedGraph

end SoapBindings
