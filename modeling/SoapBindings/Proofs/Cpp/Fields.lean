import SoapBindings.Cpp.Header
import SoapBindings.Proofs.Cpp.Enumerations

/-!
# Private fields and the names beside them

Fields stand in the scope of their class, but their names are not taken from it: each is made of the
name of a getter, or is fixed. All of them begin with `m_`, as nothing does that begins with a word
(`startsField_takeName`). So a field can be called only like a getter, or like a method that waits
for the answer to an operation; and that needs a name which begins with a single `m`
(`fieldsApart_iff`).
-/

set_option autoImplicit false

namespace SoapBindings.Cpp

open Text

/-- The fields that every client has. -/
def clientFields : List String := ["m_endPoint", "m_clientInterface", "m_lastReply"]

/-- The private fields of a class. -/
def Class.fields : Class → List String
  | .object c => c.members.map (·.field)
  | .enumeration _ => ["m_type"]
  | .client _ => clientFields
  | .job c => "m_service" :: c.members.map (·.field)
  | .server _ => []

/-- The line declares a field. -/
def DeclaresField (line field : String) : Prop :=
  ∃ type initial : String, line = s!"    {type} {field}{initial};"

theorem declaresField_fieldDeclaration (style : OptionalStyle) (m : Member) :
    DeclaresField (m.fieldDeclaration style) m.field :=
  ⟨m.type style, m.fieldInitializer style, rfl⟩

theorem forall₂_fieldDeclaration (style : OptionalStyle) (members : List Member) :
    List.Forall₂ DeclaresField (members.map (·.fieldDeclaration style))
      (members.map (·.field)) := by
  rw [List.forall₂_map_left_iff, List.forall₂_map_right_iff, List.forall₂_same]
  exact fun m _ => declaresField_fieldDeclaration style m

/-- The declaration of a class ends with a private section, which declares these fields, one on each
line. -/
theorem exists_privateSection (l : Layout) {c : Class} (nonempty : c.fields ≠ []) :
    ∃ lines, "private:" :: lines ++ ["\x7d;"] <:+ c.declaration l ∧
      List.Forall₂ DeclaresField lines c.fields := by
  have each := forall₂_fieldDeclaration l.style c.members
  have behind (ahead lines : List String) :
      "private:" :: lines ++ ["\x7d;"] <:+ ahead ++ (["", "private:"] ++ lines ++ ["\x7d;"]) :=
    (List.suffix_cons "" _).trans (List.suffix_append ahead _)
  cases c with
  | object c =>
    have members : c.members.isEmpty = false := by
      simpa [Class.fields] using nonempty
    refine ⟨_, ?_, each⟩
    suffices inner : _ <:+ c.declaration l from inner.trans (List.suffix_append ..)
    simp only [ObjectClass.declaration, members, Bool.false_eq_true, if_false]
    rw [List.append_assoc]
    exact behind _ _
  | enumeration c =>
    obtain ⟨initial, ends⟩ : ∃ initial : String,
        ["", "private:", s!"    Type m_type{initial};", "\x7d;"] <:+ c.declaration l := by
      rw [EnumerationClass.declaration]
      exact ⟨_, List.suffix_append ..⟩
    have line : DeclaresField s!"    Type m_type{initial};" "m_type" := ⟨"Type", initial, rfl⟩
    refine ⟨_, ?_, .cons line .nil⟩
    exact ((List.suffix_cons "" _).trans ends).trans (List.suffix_append ..)
  | client c =>
    have endPoint : DeclaresField "    QString m_endPoint;" "m_endPoint" :=
      ⟨"QString", "", by decide⟩
    have interface : DeclaresField "    KDSoapClientInterface* m_clientInterface = nullptr;"
        "m_clientInterface" := ⟨"KDSoapClientInterface*", " = nullptr", by decide⟩
    have reply : DeclaresField "    KDSoapMessage m_lastReply;" "m_lastReply" :=
      ⟨"KDSoapMessage", "", by decide⟩
    refine ⟨_, ?_, .cons endPoint (.cons interface (.cons reply .nil))⟩
    exact (behind _ _).trans (List.suffix_append ..)
  | job c =>
    have service : DeclaresField s!"    {c.client}* m_service;" "m_service" := by
      refine ⟨c.client ++ "*", "", String.toList_inj.mp ?_⟩
      simp [toString]
    refine ⟨_, ?_, .cons service each⟩
    suffices inner : _ <:+ c.declaration l from inner.trans (List.suffix_append ..)
    rw [JobClass.declaration, List.append_assoc, List.append_assoc]
    exact behind _ _
  | server c => exact absurd rfl nonempty

/-- All that stands in the scope of a class besides its fields. -/
def Class.otherThanFields : Class → List String
  | .enumeration c => c.scopeNames
  | c => c.scopeNames

/-- No field is called like another one or like something else in the scope of the class. -/
structure FieldsApart (c : Class) : Prop where
  nodup : c.fields.Nodup
  apart : ∀ f ∈ c.fields, f ∉ c.otherThanFields

/-! ## How fields begin -/

/-- The name begins like those of fields. -/
def StartsField (name : String) : Prop := name.toList.take 2 = ['m', '_']

instance (name : String) : Decidable (StartsField name) :=
  inferInstanceAs (Decidable (name.toList.take 2 = ['m', '_']))

/-- The name begins with an `m` that stands alone: no letter or digit of ASCII follows. -/
def StartsAlone (name : String) : Prop :=
  ∃ rest, name.toList = 'm' :: rest ∧ ∀ c ∈ rest.head?, ¬ isAsciiAlphanum c

theorem startsField_field (m : Member) : StartsField m.field := by
  simp [StartsField, Member.field]

theorem startsField_clientFields : ∀ f ∈ clientFields, StartsField f := by decide

theorem startsField_of_mem_fields {c : Class} {f : String} (h : f ∈ c.fields) : StartsField f := by
  cases c with
  | object c =>
    obtain ⟨m, _, rfl⟩ := List.mem_map.mp h
    exact startsField_field m
  | enumeration =>
    rw [List.mem_singleton.mp h]
    decide
  | client => exact startsField_clientFields f h
  | job c =>
    rcases List.mem_cons.mp h with rfl | h
    · decide
    · obtain ⟨m, _, rfl⟩ := List.mem_map.mp h
      exact startsField_field m
  | server c => cases h

theorem IsClassName.not_startsField {name : String} (h : IsClassName name) :
    ¬ StartsField name := by
  intro field
  cases hname : name.toList with
  | nil => simp [StartsField, hname] at field
  | cons c rest =>
    have first : c = 'm' := by
      rw [StartsField, hname] at field
      exact (List.cons.inj field).1
    exact h.start c (by rw [hname]; rfl) (first ▸ by decide)

section

variable {candidate code : String} {scope : Scope}

theorem eq_of_identifierChar_eq {c d : Char} (letter : isAsciiAlphanum d)
    (h : identifierChar c = d) : c = d := by
  rw [identifierChar] at h
  split at h
  · exact h
  · rw [← h] at letter
    exact absurd letter (by decide)

theorem not_isAsciiAlphanum_of_identifierChar {c : Char} (h : identifierChar c = '_') :
    ¬ isAsciiAlphanum c := by
  intro letter
  rw [identifierChar, if_pos letter] at h
  rw [h] at letter
  exact absurd letter (by decide)

/-- What a candidate is made a name with: underscores before it, and something behind it that begins
with an underscore. -/
theorem exists_toList_takeName (candidate code : String) (scope : Scope) : ∃ before behind,
    (takeName candidate code scope).1.toList =
        before ++ (candidate.toList.map identifierChar ++ behind) ∧
      (∀ c ∈ before, c = '_') ∧ ∀ c ∈ behind.head?, c = '_' := by
  obtain ⟨before, behind, whole, underscores, after⟩ := exists_toList_sanitize candidate
  have first : ∀ c ∈ behind.head?, c = '_' := fun c hc => after c (List.mem_of_mem_head? hc)
  show ∃ before behind, (freeName scope.names (sanitize candidate) code).toList = _ ∧ _
  rcases freeName_cases scope.names (sanitize candidate) code with
    ⟨_, same⟩ | ⟨_, number, _, long⟩
  · exact ⟨before, behind, by rw [same, whole, List.append_assoc], underscores, first⟩
  · refine ⟨before, behind ++ '_' :: (code.toList ++ number.toList), ?_, underscores, ?_⟩
    · simp [long, whole]
    · cases behind with
      | nil => simp
      | cons d ds => exact first

/-- A name begins like those of fields only where the candidate begins with an `m` alone. -/
theorem startsField_takeName (h : StartsField (takeName candidate code scope).1) :
    StartsAlone candidate := by
  obtain ⟨before, behind, whole, underscores, first⟩ := exists_toList_takeName candidate code scope
  rw [StartsField, whole] at h
  cases before with
  | cons c rest =>
    rw [underscores c List.mem_cons_self] at h
    cases h
  | nil =>
    cases hname : candidate.toList with
    | nil =>
      rw [hname] at h
      cases behind with
      | nil => cases h
      | cons c rest =>
        rw [first c rfl] at h
        cases h
    | cons c rest =>
      rw [hname] at h
      obtain ⟨letter, next⟩ := List.cons.inj h
      obtain rfl := eq_of_identifierChar_eq (d := 'm') (by decide) letter
      refine ⟨rest, hname, fun d hd => not_isAsciiAlphanum_of_identifierChar ?_⟩
      cases rest with
      | nil => cases hd
      | cons e rest =>
        obtain rfl := Option.some.inj hd
        exact (List.cons.inj next).1

/-- Letters of a candidate stay in its name. -/
theorem mem_takeName {c : Char} (h : c ∈ candidate.toList) (letter : isAsciiAlphanum c) :
    c ∈ (takeName candidate code scope).1.toList := by
  obtain ⟨before, behind, whole, _⟩ := exists_toList_takeName candidate code scope
  have kept : identifierChar c = c := identifierChar_of_isWordChar (Or.inl letter)
  rw [whole]
  exact List.mem_append_right _ (List.mem_append_left _ (List.mem_map.mpr ⟨c, h, kept⟩))

/-- What begins with another letter does not begin like a field. -/
theorem not_startsField_takeName {c : Char} (h : candidate.toList.head? = some c)
    (other : c ≠ 'm') : ¬ StartsField (takeName candidate code scope).1 := by
  intro field
  obtain ⟨rest, begins, _⟩ := startsField_takeName field
  rw [begins] at h
  exact other (Option.some.inj h).symm

end

/-! ## Members -/

/-- The accessors of the member were named by takes. -/
def Member.Taken (candidate : String → String) (m : Member) : Prop :=
  ∃ code before between, m.name = (takeName (candidate m.xml.name) code before).1 ∧
    m.setter = (takeName ("set" ++ upperCamel m.name) code between).1

namespace ClassContext

variable {c : ClassContext}

theorem taken_member? {code : String} {p : Particle} {scope : Scope} {m : Member}
    (h : m ∈ (c.member? code p scope).1) : m.Taken lowerCamel := by
  unfold member? at h
  cases hvalue : c.valueType? p.type with
  | none =>
    rw [hvalue] at h
    cases h
  | some value =>
    rw [hvalue] at h
    obtain rfl := Option.some.inj h
    exact ⟨_, _, _, rfl, rfl⟩

theorem taken_members {code : String} {ps : List Particle} {scope : Scope} {m : Member}
    (h : m ∈ (c.members code ps scope).1) : m.Taken lowerCamel := by
  obtain ⟨found, hfound, same⟩ := List.mem_filterMap.mp h
  obtain ⟨p, _, before, rfl⟩ := exists_of_mem_mapM hfound
  exact taken_member? same

theorem taken_contentMember {code name : String} {type : TypeRef} {occurs : Schema.Occurs}
    {scope : Scope} {m : Member} (h : m ∈ (c.contentMember code name type occurs scope).1) :
    m.Taken lowerCamel := by
  obtain ⟨member, hmember, rfl⟩ := List.mem_map.mp h
  have taken : member.Taken lowerCamel := taken_member? (Option.mem_toList.mp hmember)
  exact taken

theorem taken_membersOf {code : String} {n : TypeNode} {scope : Scope} {m : Member}
    (h : m ∈ (c.membersOf code n scope).1) : m.Taken lowerCamel := by
  obtain ⟨kind, base, isAbstract, documentation, origin⟩ := n
  cases kind with
  | simple type facets => exact taken_contentMember h
  | list item => exact taken_contentMember h
  | enumeration type values => cases h
  | complex content attributes mixed anyAttribute =>
    cases content with
    | value type =>
      rcases List.mem_append.mp h with h | h
      · exact taken_contentMember h
      · exact taken_members h
    | empty | sequence _ | choice _ | all _ => exact taken_members h

end ClassContext

theorem Member.Taken.not_startsField_setter {candidate : String → String} {m : Member}
    (h : m.Taken candidate) : ¬ StartsField m.setter := by
  obtain ⟨_, _, _, _, named⟩ := h
  rw [named]
  exact not_startsField_takeName (c := 's') (by simp) (by decide)

theorem Member.Taken.startsAlone {m : Member} (h : m.Taken lowerCamel)
    (field : StartsField m.name) : StartsAlone (lowerCamel m.xml.name) := by
  obtain ⟨_, _, _, named, _⟩ := h
  exact startsField_takeName (named ▸ field)

theorem name_eq_of_field_eq {m : Member} {name : String} (h : m.field = "m_" ++ name) :
    m.name = name := by
  have same := congrArg String.toList h
  rw [Member.field, String.toList_append, String.toList_append] at same
  exact String.toList_inj.mp (List.append_cancel_left same)

/-- Fields are called differently where getters are. -/
theorem nodup_fields {members : List Member} (h : (members.flatMap (·.accessorNames)).Nodup) :
    (members.map (·.field)).Nodup := by
  rw [List.Nodup, List.pairwise_flatMap] at h
  rw [List.Nodup, List.pairwise_map]
  exact h.2.imp fun different same =>
    different _ List.mem_cons_self _ List.mem_cons_self (name_eq_of_field_eq same)

theorem WellScoped.nodup_accessors {c : Class} (h : WellScoped c) :
    (c.members.flatMap (·.accessorNames)).Nodup := by
  have names := h.names
  rw [Class.scopeNames] at names
  exact (List.nodup_cons.mp names.of_append_left.of_append_left).2

/-! ## Names that fields may clash with -/

/-- A getter, or a method that waits for the answer to a call, which has its name from something
that begins with an `m` alone. -/
inductive MayClash (c : Class) (name : String) : Prop
  | getter {m : Member} (mem : m ∈ c.members) (called : m.name = name)
    (alone : StartsAlone (lowerCamel m.xml.name))
  | sync {m : Method} {call : Call} (mem : m ∈ c.methods) (kind : m.kind = .sync)
    (called : m.name = name) (makes : m.call = some call)
    (alone : StartsAlone (lowerCamel call.operation))

/-- The fields of the class are called differently, and like nothing in its scope but what may
clash. -/
structure FieldsRegular (c : Class) : Prop where
  nodup : c.fields.Nodup
  clashes : ∀ f ∈ c.fields, f ∈ c.otherThanFields → MayClash c f

section

variable {c : Class} {f : String}

theorem mem_scopeNames_cases (h : f ∈ c.scopeNames) :
    f = c.name ∨ (∃ m ∈ c.members, f = m.name ∨ f = m.setter) ∨
      (∃ m ∈ c.methods, m.hasOwnName ∧ m.name = f) ∨ f ∈ c.otherNames := by
  rw [Class.scopeNames] at h
  rcases List.mem_append.mp h with h | h
  · rcases List.mem_append.mp h with h | h
    · rcases List.mem_cons.mp h with rfl | h
      · exact Or.inl rfl
      · obtain ⟨m, hm, h⟩ := List.mem_flatMap.mp h
        exact Or.inr (Or.inl ⟨m, hm, by simpa [Member.accessorNames] using h⟩)
    · obtain ⟨m, hm, same⟩ := List.mem_map.mp h
      obtain ⟨mem, own⟩ := List.mem_filter.mp hm
      exact Or.inr (Or.inr (Or.inl ⟨m, mem, own, same⟩))
  · exact Or.inr (Or.inr (Or.inr h))

theorem name_mem_scopeNames {m : Member} (h : m ∈ c.members) : m.name ∈ c.scopeNames := by
  refine List.mem_append_left _ (List.mem_append_left _ (List.mem_cons_of_mem _ ?_))
  exact List.mem_flatMap.mpr ⟨m, h, List.mem_cons_self⟩

theorem methodName_mem_scopeNames {m : Method} (h : m ∈ c.methods) (own : m.hasOwnName) :
    m.name ∈ c.scopeNames :=
  List.mem_append_left _ (List.mem_append_right _
    (List.mem_map_of_mem (List.mem_filter.mpr ⟨h, own⟩)))

theorem not_startsField_of_mem_otherNames (h : f ∈ c.otherNames) : ¬ StartsField f := by
  cases c with
  | client =>
    rw [List.mem_singleton.mp h]
    decide
  | object | enumeration | job | server => cases h

theorem mayClash_of_mem_scopeNames (capital : IsClassName c.name)
    (setters : ∀ m ∈ c.members, ¬ StartsField m.setter)
    (getters : ∀ m ∈ c.members, StartsField m.name → StartsAlone (lowerCamel m.xml.name))
    (methods : ∀ m ∈ c.methods, m.hasOwnName → m.name ∈ c.fields → MayClash c m.name)
    (hf : f ∈ c.fields) (h : f ∈ c.scopeNames) : MayClash c f := by
  have field := startsField_of_mem_fields hf
  rcases mem_scopeNames_cases h with rfl | ⟨m, hm, rfl | rfl⟩ | ⟨m, hm, own, rfl⟩ | other
  · exact absurd field capital.not_startsField
  · exact .getter hm rfl (getters m hm field)
  · exact absurd field (setters m hm)
  · exact methods m hm own hf
  · exact absurd field (not_startsField_of_mem_otherNames other)

/-- Nothing that is not a member may clash in a class whose methods have fixed names. -/
theorem methods_of_fixed (fixed : ∀ m ∈ c.methods, m.hasOwnName → ¬ StartsField m.name) :
    ∀ m ∈ c.methods, m.hasOwnName → m.name ∈ c.fields → MayClash c m.name :=
  fun m hm own field => absurd (startsField_of_mem_fields field) (fixed m hm own)

end

namespace ClassContext

variable {c : ClassContext} {forms : ServiceForms} {s : BoundService} {op : BoundOperation}
  {name : String}

theorem noSmallStart_enumeratorCandidate (literal : String) :
    NoSmallStart (enumeratorCandidate literal).toList := by
  rw [enumeratorCandidate]
  split
  · decide
  · exact noSmallStart_upperCamel literal

theorem isClassName_of_mem_enumerators {code : String} (hcode : IsIdentifier code)
    {literals : List String} {scope : Scope} {value : Enumerator}
    (h : value ∈ (enumerators code literals scope).1) : IsClassName value.name := by
  obtain ⟨literal, _, before, rfl⟩ := exists_of_mem_mapM h
  exact isClassName_takeName (noSmallStart_enumeratorCandidate literal) hcode

theorem fieldsRegular_enumeration {id : TypeId} (code : IsIdentifier (c.code id.ns))
    (capital : IsClassName name) (n : TypeNode) (literals : List String) :
    FieldsRegular (.enumeration (c.enumerationClass id name n literals)) := by
  refine ⟨List.nodup_singleton _, fun f hf h => ?_⟩
  have field := startsField_of_mem_fields hf
  have fixed : ∀ r ∈ enumerationNames, ¬ StartsField r := by decide
  replace h := (c.scopeNames_enumerationClass_perm id name n literals).subset h
  rcases List.mem_append.mp h with h | h
  · rcases List.mem_cons.mp h with rfl | h
    · exact absurd field capital.not_startsField
    · obtain ⟨value, hvalue, rfl⟩ := List.mem_map.mp h
      exact absurd field (isClassName_of_mem_enumerators code hvalue).not_startsField
  · exact absurd field (fixed f h)

theorem fieldsRegular_typeClass? (named : c.Named) {id : TypeId} {cls : Class}
    (h : c.typeClass? id = some cls) : FieldsRegular cls := by
  have scope := wellScoped_typeClass? named h
  obtain ⟨n, name, _, hname, found⟩ := typeClass?_cases h
  have capital := named.classNames id name hname
  rcases found with ⟨_, literals, _, rfl⟩ | ⟨kind, base, _, rfl, _⟩
  · exact fieldsRegular_enumeration (named.code id.ns) capital n literals
  · have taken : ∀ m ∈ (c.objectClass kind base id name n).members, m.Taken lowerCamel :=
      fun m hm => taken_membersOf hm
    refine ⟨nodup_fields scope.nodup_accessors, fun f hf => ?_⟩
    refine mayClash_of_mem_scopeNames capital (fun m hm => (taken m hm).not_startsField_setter)
      (fun m hm => (taken m hm).startsAlone) (methods_of_fixed ?_) hf
    show ∀ m ∈ codecMethods, _
    decide

/-! ## Classes of services -/

theorem taken_jobMembers {code : String} {candidate : String → String} {parts : List PartValue}
    {scope : Scope} {m : Member} (h : m ∈ (jobMembers code candidate parts scope).1) :
    m.Taken candidate := by
  obtain ⟨part, _, before, rfl⟩ := exists_of_mem_mapM h
  exact ⟨_, _, _, rfl, rfl⟩

theorem taken_jobClass {code client : String} {m : Member}
    (h : m ∈ (c.jobClass code client s op name).members) :
    m.Taken lowerCamel ∨ m.Taken fun part => "result" ++ upperCamel part := by
  rcases List.mem_append.mp h with h | h
  · exact Or.inl (taken_jobMembers h)
  · exact Or.inr (taken_jobMembers h)

theorem fieldsRegular_job (capital : IsClassName name) (code client : String) :
    FieldsRegular (.job (c.jobClass code client s op name)) := by
  let job := c.jobClass code client s op name
  have setters : ∀ m ∈ job.members, ¬ StartsField m.setter := by
    intro m hm
    rcases taken_jobClass hm with taken | taken
    · exact taken.not_startsField_setter
    · exact taken.not_startsField_setter
  have getters : ∀ m ∈ job.members, StartsField m.name → StartsAlone (lowerCamel m.xml.name) := by
    intro m hm field
    rcases taken_jobClass hm with taken | ⟨_, _, _, named, _⟩
    · exact taken.startsAlone field
    · rw [named] at field
      exact absurd field (not_startsField_takeName (c := 'r') (by simp) (by decide))
  constructor
  · -- The name of the first field is reserved, although no method is called so.
    have fresh := c.nodup_names_job s op capital code client
    have scope : WellScoped (.job job) := wellScoped_job capital code client
    refine List.nodup_cons.mpr ⟨fun h => ?_, nodup_fields scope.nodup_accessors⟩
    obtain ⟨m, hm, same⟩ := List.mem_map.mp h
    have called : m.name = "service" := name_eq_of_field_eq same
    have taken : "service" ∈ job.members.flatMap (·.accessorNames) :=
      called ▸ List.mem_flatMap.mpr ⟨m, hm, List.mem_cons_self⟩
    exact List.disjoint_of_nodup_append fresh (List.mem_cons_of_mem _ taken) (by decide)
  · refine fun f hf => mayClash_of_mem_scopeNames capital setters getters (methods_of_fixed ?_) hf
    intro m hm own
    replace hm : m ∈ JobClass.methods _ := hm
    simp only [JobClass.methods, List.mem_cons, List.not_mem_nil, or_false] at hm
    rcases hm with rfl | rfl | rfl
    · cases own
    · show ¬ StartsField "start"
      decide
    · show ¬ StartsField "finished"
      decide

theorem fieldsRegular_server (server : ServerClass) : FieldsRegular (.server server) :=
  ⟨List.nodup_nil, fun _ hf => absurd hf List.not_mem_nil⟩

/-- Signals have letters in their names that no field of a client has. -/
theorem not_mem_clientFields {f : String} (h : 'D' ∈ f.toList ∨ 'E' ∈ f.toList) :
    f ∉ clientFields := by
  have without : ∀ f ∈ clientFields, 'D' ∉ f.toList ∧ 'E' ∉ f.toList := by decide
  intro mem
  rcases h with h | h
  · exact (without f mem).1 h
  · exact (without f mem).2 h

theorem mayClash_of_mem_operation {cls : Class} {code : String} {scope : Scope} {m : Method}
    (listed : m ∈ cls.methods) (h : m ∈ (c.clientOperation forms code s op scope).1.methods)
    (field : m.name ∈ clientFields) : MayClash cls m.name := by
  have starts := startsField_clientFields _ field
  rcases List.mem_append.mp h with h | h
  · obtain ⟨method, hmethod, rfl⟩ := List.mem_map.mp h
    obtain ⟨_, rfl⟩ := sync_clientOperation_cases (Option.mem_toList.mp hmethod)
    exact .sync listed rfl rfl rfl (startsField_takeName starts)
  · obtain ⟨method, hmethod, h⟩ := List.mem_flatMap.mp h
    obtain ⟨_, _, rfl⟩ := async_clientOperation_cases (Option.mem_toList.mp hmethod)
    rcases List.mem_cons.mp h with rfl | h
    · exact absurd starts (not_startsField_takeName (c := 'a') (by simp) (by decide))
    · unfold AsyncMethod.signalMethods at h
      split at h
      · cases h
      · next signals found =>
        obtain ⟨_, _, rfl⟩ := answerSignals_cases found
        rcases List.mem_cons.mp h with rfl | h
        · refine absurd field (not_mem_clientFields (Or.inl (mem_takeName ?_ (by decide))))
          simp
        · rw [List.mem_singleton.mp h] at field
          refine absurd field (not_mem_clientFields (Or.inr (mem_takeName ?_ (by decide))))
          simp

theorem fieldsRegular_client (capital : IsClassName name) :
    FieldsRegular (.client (c.clientOf forms s name)) := by
  refine ⟨show clientFields.Nodup by decide, fun f hf => mayClash_of_mem_scopeNames capital
    (fun m hm => absurd hm List.not_mem_nil) (fun m hm => absurd hm List.not_mem_nil) ?_ hf⟩
  intro m hm own field
  rcases List.mem_append.mp hm with fixed | ofOperation
  · have starts := startsField_clientFields _ field
    simp only [List.mem_cons, List.not_mem_nil, or_false] at fixed
    rcases fixed with rfl | rfl | rfl | rfl
    · cases own
    · exact absurd starts (by decide)
    · exact absurd starts (by decide)
    · exact absurd starts (by decide)
  · obtain ⟨operation, hoperation, h⟩ := List.mem_flatMap.mp ofOperation
    obtain ⟨op, _, scope, rfl⟩ := exists_of_mem_mapM hoperation
    exact mayClash_of_mem_operation hm h field

theorem OfService.fieldsRegular {cls : Class} (h : OfService c forms s cls) :
    FieldsRegular cls := by
  cases h with
  | client capital => exact fieldsRegular_client capital
  | job op client capital => exact fieldsRegular_job capital ..
  | server => exact fieldsRegular_server _

end ClassContext

/-! ## All classes -/

theorem fieldsRegular_classes {forms : ServiceForms} {o : OrderedGraph}
    {services : List BoundService} {namespaces : List String} {wishes : NamespaceCodes.Wishes}
    {c : Class} (h : c ∈ classes forms o services (.ofNamespaces namespaces wishes)) :
    FieldsRegular c := by
  rcases ofType_or_ofService h with ⟨id, htype⟩ | ⟨s, hservice⟩
  · exact ClassContext.fieldsRegular_typeClass? (named_contextOf o namespaces wishes) htype
  · exact hservice.fieldsRegular

theorem scopeNames_subset_otherThanFields (c : Class) : c.scopeNames ⊆ c.otherThanFields := by
  cases c with
  | enumeration c =>
    exact List.subset_append_of_subset_left _ (List.subset_append_left _ _)
  | object | client | job | server => exact List.Subset.refl _

/-- Fields are called like nothing else in their class exactly where no getter and no method that
waits for the answer to a call is called like one of them. Such a name is made of one that begins
with an `m`, alone or before a letter that is not of ASCII; where no member and no operation is
called so, fields are called like nothing else. -/
theorem fieldsApart_iff {forms : ServiceForms} {o : OrderedGraph} {services : List BoundService}
    {namespaces : List String} {wishes : NamespaceCodes.Wishes} {c : Class}
    (h : c ∈ classes forms o services (.ofNamespaces namespaces wishes)) :
    (FieldsApart c ↔ (∀ m ∈ c.members, m.name ∉ c.fields) ∧
      ∀ m ∈ c.methods, m.kind = .sync → m.name ∉ c.fields) ∧
    ((∀ m ∈ c.members, ¬ StartsAlone (lowerCamel m.xml.name)) →
      (∀ m ∈ c.methods, m.kind = .sync → ∀ call ∈ m.call,
        ¬ StartsAlone (lowerCamel call.operation)) → FieldsApart c) := by
  have regular := fieldsRegular_classes h
  have beside : ∀ n ∈ c.scopeNames, n ∈ c.otherThanFields :=
    fun n hn => scopeNames_subset_otherThanFields c hn
  refine ⟨⟨fun apart => ⟨?_, ?_⟩, fun ⟨getters, syncs⟩ => ⟨regular.nodup, ?_⟩⟩,
    fun getters syncs => ⟨regular.nodup, ?_⟩⟩
  · exact fun m hm field => apart.apart _ field (beside _ (name_mem_scopeNames hm))
  · intro m hm sync field
    have own : m.hasOwnName := by rw [Method.hasOwnName, sync]; rfl
    exact apart.apart _ field (beside _ (methodName_mem_scopeNames hm own))
  · intro f hf other
    rcases regular.clashes f hf other with ⟨mem, rfl, _⟩ | ⟨mem, sync, rfl, _, _⟩
    · exact getters _ mem hf
    · exact syncs _ mem sync hf
  · intro f hf other
    rcases regular.clashes f hf other with ⟨mem, _, alone⟩ | ⟨mem, sync, _, makes, alone⟩
    · exact getters _ mem alone
    · exact syncs _ mem sync _ makes alone

/-! ## A field that is called like a getter -/

section

open OrderedGraph

def letterParticle (name : String) : Particle :=
  ⟨name, none, .element, .builtin .string, .once, false, .byValue, none⟩

def lettersId : TypeId := .named ⟨"urn:t", "Letters"⟩

/-- A type that has a text for each of some letters. -/
def lettersNode (letters : List String) : TypeNode where
  kind := .complex (.sequence (letters.map letterParticle)) [] false false
  base := none
  isAbstract := false
  documentation := none
  origin := default

theorem needs_lettersNode (letters : List String) :
    ∀ e ∈ (lettersNode letters).needs, e.2.node? = none := by
  intro e he
  obtain ⟨i, hi, rfl⟩ := List.mem_mapIdx.mp he
  simp only [lettersNode, TypeNode.members, TypeContent.particles, List.append_nil,
    List.getElem_map]
  rfl

/-- The class of the letters. -/
theorem exists_lettersClass (letters : List String) : ∃ o, ∃ object : ObjectClass,
    ofGraph ⟨(∅ : TypeTable).insert lettersId (lettersNode letters), ∅⟩
        (.ofNamespaces ["urn:t"] ∅) = .ok o ∧
      .object object ∈ classes ⟨false, true, true, true⟩ o [] (.ofNamespaces ["urn:t"] ∅) ∧
      ∃ context : ClassContext, object.members = (context.membersOf "t" (lettersNode letters)
        ⟨["Letters", "serialize", "deserialize"]⟩).1 := by
  let codes : NamespaceCodes := .ofNamespaces ["urn:t"] ∅
  obtain ⟨o, ok, ordered, node, named⟩ :=
    exists_single lettersId codes (needs_lettersNode letters)
  let context := contextOf o codes
  have code : context.code "urn:t" = "t" := by
    show (codes.code? "urn:t").getD "ns" = "t"
    decide
  have candidate : classCandidate lettersId = "Letters" := by cbv
  rw [candidate] at named
  let object := context.objectClass .complex none lettersId "Letters" (lettersNode letters)
  refine ⟨o, object, ok, mem_classes_of_typeClass? ordered ?_, context, ?_⟩
  · rw [ClassContext.typeClass?, node, named]
    rfl
  · show (context.membersOf (context.code "urn:t") _
      (ClassContext.memberScope _ _ (context.code "urn:t"))).1 = _
    rw [code]
    rfl

/-- The member of a text, where it is known what its accessors get. -/
theorem exists_textMember (context : ClassContext) (taken : List String)
    (name getter setter : String)
    (hgetter : freeName taken (sanitize (lowerCamel name)) "t" = getter)
    (hsetter : freeName (getter :: taken) (sanitize ("set" ++ upperCamel getter)) "t" = setter) :
    ∃ m : Member, m.name = getter ∧ m.xml.name = name ∧
      context.member? "t" (letterParticle name) ⟨taken⟩ =
        (some m, ⟨setter :: getter :: taken⟩) := by
  subst hgetter hsetter
  exact ⟨_, rfl, rfl, rfl⟩

/-- Texts `m`, `M` and `t`: the getter of the second gets the code of the namespace behind it, and
is called like the field of the third. -/
theorem not_fieldsApart_letters : ∃ o c,
    ofGraph ⟨(∅ : TypeTable).insert lettersId (lettersNode ["m", "M", "t"]), ∅⟩
        (.ofNamespaces ["urn:t"] ∅) = .ok o ∧
      c ∈ classes ⟨false, true, true, true⟩ o [] (.ofNamespaces ["urn:t"] ∅) ∧
      ∃ m ∈ c.members, ∃ other ∈ c.members, m.field = other.name := by
  obtain ⟨o, object, ok, listed, context, members⟩ := exists_lettersClass ["m", "M", "t"]
  have first : lowerCamel "m" = "m" := by cbv
  have second : lowerCamel "M" = "m" := by cbv
  have third : lowerCamel "t" = "t" := by cbv
  have setFirst : "set" ++ upperCamel "m" = "setM" := by cbv
  have setSecond : "set" ++ upperCamel "m_t" = "setMT" := by cbv
  obtain ⟨m₁, _, _, run₁⟩ := exists_textMember context
    ["Letters", "serialize", "deserialize"] "m" "m" "setM"
    (by rw [first]; decide) (by rw [setFirst]; decide)
  obtain ⟨m₂, getter, _, run₂⟩ := exists_textMember context
    ["setM", "m", "Letters", "serialize", "deserialize"] "M" "m_t" "setMT"
    (by rw [second]; decide) (by rw [setSecond]; decide)
  obtain ⟨m₃, called, _, run₃⟩ := exists_textMember context
    ["setMT", "m_t", "setM", "m", "Letters", "serialize", "deserialize"] "t" "t" _
    (by rw [third]; decide) rfl
  have all : object.members = [m₁, m₂, m₃] := by
    rw [members]
    simp [ClassContext.membersOf, lettersNode, ClassContext.members, TypeNode.members,
      TypeContent.particles, run₁, run₂, run₃, bind, StateT.bind, pure, StateT.pure]
  have third : m₃ ∈ object.members := by simp [all]
  have second : m₂ ∈ object.members := by simp [all]
  refine ⟨o, .object object, ok, listed, m₃, third, m₂, second, ?_⟩
  rw [Member.field, called, getter]
  decide

/-- A single text that begins otherwise. -/
theorem fieldsApart_iff_letters : ∃ o c,
    ofGraph ⟨(∅ : TypeTable).insert lettersId (lettersNode ["n"]), ∅⟩
        (.ofNamespaces ["urn:t"] ∅) = .ok o ∧
      c ∈ classes ⟨false, true, true, true⟩ o [] (.ofNamespaces ["urn:t"] ∅) ∧
      c.fields = ["m_n"] ∧ FieldsApart c := by
  obtain ⟨o, object, ok, listed, context, members⟩ := exists_lettersClass ["n"]
  have name : lowerCamel "n" = "n" := by cbv
  obtain ⟨m, called, xml, run⟩ := exists_textMember context
    ["Letters", "serialize", "deserialize"] "n" "n" _ (by rw [name]; decide) rfl
  have all : object.members = [m] := by
    rw [members]
    simp [ClassContext.membersOf, lettersNode, ClassContext.members, TypeNode.members,
      TypeContent.particles, run, bind, StateT.bind, pure, StateT.pure]
  have field : (Class.object object).fields = ["m_n"] := by
    simp [Class.fields, all, Member.field, called]
  refine ⟨o, .object object, ok, listed, field, (fieldsApart_iff listed).2 ?_ ?_⟩
  · intro m' hm'
    replace hm' : m' ∈ object.members := hm'
    rw [all, List.mem_singleton] at hm'
    rw [hm', xml, name]
    rintro ⟨rest, begins, _⟩
    cases begins
  · show ∀ m ∈ codecMethods, _
    simp [codecMethods, Method.plain]

end

end SoapBindings.Cpp
