import Mathlib.Data.List.Forall2
import SoapBindings.Cpp.TypeClasses
import SoapBindings.Proofs.Graph.Nodes
import SoapBindings.Proofs.Tables

/-!
# Classes of types and their members

Where the type of a particle has a value type, the particle has a member (`isMemberOf_member?`);
names are taken from a scope on the way, but which names never decides whether there is a member.
`Resolves` says of a context that this is so for all that its types refer to, and under it a class
keeps all that its type has (`keeps_typeClass?`).
-/

set_option autoImplicit false

namespace SoapBindings.Cpp

/-! ## Work on lists -/

/-- What holds of each step, whatever names are taken, holds of the results one by one. -/
theorem forall₂_mapM {σ α β : Type} {R : α → β → Prop} {f : α → StateM σ β} {as : List α}
    (each : ∀ a ∈ as, ∀ s, R a (f a s).1) (s : σ) : List.Forall₂ R as (as.mapM f s).1 := by
  induction as generalizing s with
  | nil => exact .nil
  | cons a as ih =>
    rw [List.mapM_cons]
    exact .cons (each a List.mem_cons_self s)
      (ih (fun b hb => each b (List.mem_cons_of_mem _ hb)) _)

theorem forall₂_filterMap_id {α β : Type} {R : α → β → Prop} {as : List α} {found : List (Option β)}
    (h : List.Forall₂ (fun a b? => ∃ b, b? = some b ∧ R a b) as found) :
    List.Forall₂ R as (found.filterMap id) := by
  induction h with
  | nil => exact .nil
  | cons hb _ ih =>
    obtain ⟨b, rfl, hr⟩ := hb
    exact .cons hr ih

theorem forall₂_filterMap {α β : Type} {R : α → β → Prop} {f : α → Option β} {as : List α}
    (each : ∀ a ∈ as, ∃ b, f a = some b ∧ R a b) : List.Forall₂ R as (as.filterMap f) := by
  induction as with
  | nil => exact .nil
  | cons a as ih =>
    obtain ⟨b, hb, hr⟩ := each a List.mem_cons_self
    rw [List.filterMap_cons_some hb]
    exact .cons hr (ih fun c hc => each c (List.mem_cons_of_mem _ hc))

/-! ## Class names -/

/-- A class name is taken for each of the types. -/
theorem mem_takeClassNames {codes : NamespaceCodes} {ids : List TypeId} {scope : Scope}
    {id : TypeId} : id ∈ (takeClassNames codes ids scope).1 ↔ id ∈ ids := by
  -- Said for any names that have been taken before, as the fold hands them on.
  have more : ∀ (names : Std.ExtTreeMap TypeId String) (scope : Scope),
      id ∈ (ids.foldlM (fun names id => do
        let name ← takeName (classCandidate id) ((codes.code? id.ns).getD "ns")
        return names.insert id name : _ → _ → Naming _) names scope).1 ↔ id ∈ ids ∨ id ∈ names := by
    induction ids with
    | nil => exact fun names scope => by simp; rfl
    | cons first ids ih =>
      intro names scope
      rw [List.foldlM_cons]
      refine (ih (names.insert first _) _).trans ?_
      rw [mem_insert_iff, List.mem_cons]
      constructor
      · rintro (h | rfl | h)
        · exact Or.inl (Or.inr h)
        · exact Or.inl (Or.inl rfl)
        · exact Or.inr h
      · rintro ((rfl | h) | h)
        · exact Or.inr (Or.inl rfl)
        · exact Or.inl h
        · exact Or.inr (Or.inr h)
  rw [takeClassNames, more]
  simp

/-! ## Members -/

/-- The member stands for the particle. -/
structure IsMemberOf (p : Particle) (m : Member) : Prop where
  xml : m.xml = ⟨p.name, p.ns⟩
  role : m.role = ClassContext.roleOf p.kind
  storage : m.storage = .of p.isOptional p.isRepeated (p.holding == .byReference)
  documentation : m.documentation = p.documentation

namespace ClassContext

variable {c : ClassContext}

/-- The values of the reference have a type. -/
def Resolves (c : ClassContext) (r : TypeRef) : Prop := (c.valueType? r).isSome

theorem isMemberOf_member? {p : Particle} (h : c.Resolves p.type) (code : String) (scope : Scope) :
    ∃ m, (c.member? code p scope).1 = some m ∧ IsMemberOf p m := by
  obtain ⟨value, hvalue⟩ := Option.isSome_iff_exists.mp h
  rw [member?, hvalue]
  exact ⟨_, rfl, rfl, rfl, rfl, rfl⟩

theorem forall₂_members {ps : List Particle} (h : ∀ p ∈ ps, c.Resolves p.type) (code : String)
    (scope : Scope) : List.Forall₂ IsMemberOf ps (c.members code ps scope).1 :=
  forall₂_filterMap_id
    (forall₂_mapM (fun p hp scope => isMemberOf_member? (h p hp) code scope) scope)

/-- The text of an element has one member. -/
theorem contentMember_eq {type : TypeRef} (h : c.Resolves type) (code name : String)
    (occurs : Schema.Occurs) (scope : Scope) : ∃ m,
      (c.contentMember code name type occurs scope).1 = [m] ∧ m.role = .content := by
  obtain ⟨m, hm, _⟩ := isMemberOf_member? (p := contentParticle name type occurs) h code scope
  have one : (c.contentMember code name type occurs scope).1 =
      ((c.member? code (contentParticle name type occurs) scope).1).toList.map
        ({ · with role := .content }) := rfl
  rw [one, hm]
  exact ⟨_, rfl, rfl⟩

end ClassContext

/-- The members are all that the type has: a text where it is a text, and one member for each
element and then for each attribute. -/
def HoldsAll (n : TypeNode) (members : List Member) : Prop :=
  match n.kind with
  | .simple .. | .list _ => ∃ m, members = [m] ∧ m.role = .content
  | .complex (.value _) .. => ∃ m rest, members = m :: rest ∧ m.role = .content ∧
      List.Forall₂ IsMemberOf n.members rest
  | .complex .. => List.Forall₂ IsMemberOf n.members members
  | .enumeration .. => members = []

/-- The kind of the class of a type that is no enumeration. -/
def objectKind? : TypeKind → Option ObjectKind
  | .complex .. => some .complex
  | .simple .. => some .wrapper
  | .list _ => some .list
  | .enumeration .. => none

/-- The class keeps all of its type. -/
def Keeps (n : TypeNode) : Class → Prop
  | .object o => objectKind? n.kind = some o.kind ∧ HoldsAll n o.members
  | .enumeration e => ∃ base literals, n.kind = .enumeration base literals ∧
      e.values.map (·.literal) = literals
  | .client _ | .job _ | .server _ => False

namespace ClassContext

variable {c : ClassContext}

theorem holdsAll_membersOf {n : TypeNode} (h : ∀ r ∈ n.references, c.Resolves r) (code : String)
    (scope : Scope) : HoldsAll n (c.membersOf code n scope).1 := by
  have members : ∀ p ∈ n.members, c.Resolves p.type :=
    fun p hp => h p.type (TypeNode.mem_references.mpr (Or.inr (Or.inl ⟨p, hp, rfl⟩)))
  have other : ∀ need r, (need, r) ∈ n.otherNeeds → c.Resolves r :=
    fun need r hr => h r (TypeNode.mem_references.mpr (Or.inl ⟨need, hr⟩))
  obtain ⟨kind, base, isAbstract, documentation, origin⟩ := n
  cases kind with
  | simple type facets =>
    exact contentMember_eq (other .simpleBase type (List.mem_append_right _ List.mem_cons_self)) ..
  | list item =>
    exact contentMember_eq (other .item item (List.mem_append_right _ List.mem_cons_self)) ..
  | enumeration type values => exact rfl
  | complex content attributes mixed anyAttribute =>
    cases content with
    | value type =>
      have resolved := other .value type (List.mem_append_right _ List.mem_cons_self)
      obtain ⟨m, hm, role⟩ := contentMember_eq resolved code "value" .once scope
      have rest := forall₂_members members code (c.contentMember code "value" type .once scope).2
      refine ⟨m, _, ?_, role, rest⟩
      exact congrArg (· ++ _) hm
    | empty | sequence _ | choice _ | all _ => exact forall₂_members members code scope

theorem literals_enumerators (code : String) (literals : List String) (scope : Scope) :
    ((enumerators code literals scope).1).map (·.literal) = literals := by
  have each : List.Forall₂ (fun literal (e : Enumerator) => literal = e.literal) literals
      (enumerators code literals scope).1 := by
    rw [enumerators]
    refine forall₂_mapM ?_ scope
    intro literal _ scope
    rfl
  have same : List.Forall₂ Eq literals (((enumerators code literals scope).1).map (·.literal)) :=
    List.forall₂_map_right_iff.mpr each
  rw [List.forall₂_eq_eq_eq] at same
  exact same.symm

theorem keeps_typeClass? {id : TypeId} {n : TypeNode} (hn : c.types[id]? = some n)
    (named : id ∈ c.classNames) (h : ∀ r ∈ n.references, c.Resolves r) :
    ∃ cls, c.typeClass? id = some cls ∧ Keeps n cls := by
  obtain ⟨name, hname⟩ := exists_getElem?_of_mem named
  rw [typeClass?, hn, hname]
  refine ⟨_, rfl, ?_⟩
  have holds := holdsAll_membersOf h (c.code id.ns) (memberScope codecNames name (c.code id.ns))
  cases hkind : n.kind with
  | complex content attributes mixed anyAttribute => exact ⟨by rw [hkind]; rfl, holds⟩
  | simple base facets => exact ⟨by rw [hkind]; rfl, holds⟩
  | list item => exact ⟨by rw [hkind]; rfl, holds⟩
  | enumeration base literals => exact ⟨base, literals, hkind, literals_enumerators ..⟩

end ClassContext

end SoapBindings.Cpp
