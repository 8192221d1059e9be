import Mathlib
import SoapBindings.Proofs.Interface.Building
import SoapBindings.Proofs.Schema.Merging
import SoapBindings.Proofs.Services.Validity

/-!
# Declarations of one name

Which duplicates are an error: two declarations of a schema that differ are one, and only they are
(`ofDocuments_conflict_iff`). Messages, port types, bindings and services are merged without a look
at what they say, so the first of them counts and one that differs from it is passed over
(`differing_messages_ignored`).
-/

set_option autoImplicit false

namespace SoapBindings

open Schema

/-- What has a name that documents share. -/
inductive NamedKind where
  | type
  | element
  | attr
  | group
  | attributeGroup
  | message
  | portType
  | binding
  | service
  deriving DecidableEq, Repr

/-- The kind under which a conflict is reported, if differing declarations are one at all. -/
def NamedKind.refused? : NamedKind → Option DeclarationKind
  | .type => some .type
  | .element => some .element
  | .attr => some .attr
  | .group => some .group
  | .attributeGroup => some .attributeGroup
  | .message | .portType | .binding | .service => none

/-- A declaration of some kind. -/
inductive Declaration where
  | type (decl : TypeDecl)
  | element (decl : ElementDecl)
  | attr (decl : AttributeDecl)
  | group (decl : GroupDecl)
  | attributeGroup (decl : AttributeGroupDecl)
  | message (decl : Wsdl.Message)
  | portType (decl : Wsdl.PortType)
  | binding (decl : Wsdl.Binding)
  | service (decl : Wsdl.Service)
  deriving DecidableEq

/-- Declarations with their names, as declarations of one kind. -/
def tagged {α : Type} (tag : α → Declaration) (declared : List (QName × α)) :
    List (QName × Declaration) :=
  declared.map fun (name, a) => (name, tag a)

namespace Documents

open Declarations

def messages (ds : Documents) : List (QName × Wsdl.Message) :=
  ds.inOrder.flatMap fun d => d.messages.map fun m => (d.qualify m.name, m)

def portTypes (ds : Documents) : List (QName × Wsdl.PortType) :=
  ds.inOrder.flatMap fun d => d.portTypes.map fun p => (d.qualify p.name, p)

def bindings (ds : Documents) : List (QName × Wsdl.Binding) :=
  ds.inOrder.flatMap fun d => d.bindings.map fun b => (d.qualify b.name, b)

def services (ds : Documents) : List (QName × Wsdl.Service) :=
  ds.inOrder.flatMap fun d => d.services.map fun s => (d.qualify s.name, s)

/-- All declarations of a kind with their names, in the order of the documents. -/
def declared (ds : Documents) : NamedKind → List (QName × Declaration)
  | .type => tagged .type (declaredIn namedTypes ds.schemas)
  | .element => tagged .element (declaredIn namedElements ds.schemas)
  | .attr => tagged .attr (declaredIn namedAttributes ds.schemas)
  | .group => tagged .group (declaredIn namedGroups ds.schemas)
  | .attributeGroup => tagged .attributeGroup (declaredIn namedAttributeGroups ds.schemas)
  | .message => tagged .message ds.messages
  | .portType => tagged .portType ds.portTypes
  | .binding => tagged .binding ds.bindings
  | .service => tagged .service ds.services

end Documents

/-- The declarations of a kind and a name that types are made of and services bound with. -/
def counted (s : Symbols) (d : ServiceDeclarations) (name : QName) : NamedKind → List Declaration
  | .type => (s.types[name]?.map (.type ·.decl)).toList
  | .element => (s.elements[name]?.map (.element ·.decl)).toList
  | .attr => (s.attributes[name]?.map (.attr ·.decl)).toList
  | .group => (s.groups[name]?.map (.group ·.decl)).toList
  | .attributeGroup => (s.attributeGroups[name]?.map (.attributeGroup ·.decl)).toList
  | .message => (d.messages[name]?.map .message).toList
  | .portType => (d.portTypes[name]?.map .portType).toList
  | .binding => (d.bindings[name]?.map .binding).toList
  | .service => (d.services.filter (·.1 == name)).map (.service ·.2)

section

variable {α : Type} {tag : α → Declaration} {declared : List (QName × α)} {name : QName}

theorem differ_tagged_iff (inj : Function.Injective tag) :
    Differ (tagged tag declared) name ↔ Differ declared name := by
  have mem (a : α) : (name, tag a) ∈ tagged tag declared ↔ (name, a) ∈ declared := by
    simp [tagged, inj.eq_iff]
  constructor
  · intro ⟨x, y, hx, hy, hne⟩
    obtain ⟨⟨_, a⟩, ha, ⟨⟩⟩ := List.mem_map.mp hx
    obtain ⟨⟨_, b⟩, hb, ⟨⟩⟩ := List.mem_map.mp hy
    refine ⟨a, b, ha, hb, ?_⟩
    rintro rfl
    exact hne rfl
  · intro ⟨a, b, ha, hb, hne⟩
    exact ⟨tag a, tag b, (mem a).mpr ha, (mem b).mpr hb, inj.ne hne⟩

theorem find?_tagged : (tagged tag declared).find? (·.1 == name) =
    (declared.find? (·.1 == name)).map fun e => (e.1, tag e.2) := by
  unfold tagged
  rw [List.find?_map]
  rfl

end

/-- Where a table holds what is declared, it holds the first declaration of each name. -/
theorem Schema.Holds.decl_eq {α : Type} {table : NameTable (Declared α)}
    {declared : List (QName × α)} (h : Holds table declared) (name : QName) :
    table[name]?.map (·.decl) = (declared.find? (·.1 == name)).map (·.2) := by
  cases hfirst : declared.find? (·.1 == name) with
  | none =>
    rw [Option.map_none, Option.map_eq_none_iff, Option.eq_none_iff_forall_ne_some]
    intro d hd
    have mem := (h name d.decl).mp ⟨d, hd, rfl⟩
    exact absurd (beq_self_eq_true name) (List.find?_eq_none.mp hfirst _ mem)
  | some first =>
    have same : first.1 = name := by
      have found := List.find?_some hfirst
      exact beq_iff_eq.mp found
    obtain ⟨d, hd, hdecl⟩ := (h first.1 first.2).mpr (List.mem_of_find?_eq_some hfirst)
    rw [← same, hd, Option.map_some, Option.map_some, hdecl]

namespace Interface

variable {ds : Documents} {choices : Choices} {c : Conflict} {name : QName}

theorem ofDocuments_eq_conflict_iff :
    ofDocuments ds choices = .error (.conflict c) ↔ Symbols.ofDocuments ds = .error c := by
  unfold ofDocuments
  cases hs : Symbols.ofDocuments ds with
  | error c' => simp [Except.mapError, bind, Except.bind]
  | ok s =>
    cases hg : TypeGraph.ofSymbols s with
    | error cycle => simp [hg, Except.mapError, bind, Except.bind]
    | ok built =>
      obtain ⟨graph, missed⟩ := built
      cases hb : (BindingContext.of ds graph).services choices.service with
      | error e => simp [hg, hb, Except.mapError, bind, Except.bind]
      | ok bound => simp [hg, hb, Except.mapError, bind, Except.bind, pure, Except.pure]

theorem differ_declared_iff {kind : NamedKind} {refused : DeclarationKind}
    (h : kind.refused? = some refused) :
    Differ (ds.declared kind) name ↔ Symbols.DifferIn ds.schemas name refused := by
  cases kind with
  | type =>
    cases h
    exact differ_tagged_iff fun _ _ => Declaration.type.inj
  | element =>
    cases h
    exact differ_tagged_iff fun _ _ => Declaration.element.inj
  | attr =>
    cases h
    exact differ_tagged_iff fun _ _ => Declaration.attr.inj
  | group =>
    cases h
    exact differ_tagged_iff fun _ _ => Declaration.group.inj
  | attributeGroup =>
    cases h
    exact differ_tagged_iff fun _ _ => Declaration.attributeGroup.inj
  | message | portType | binding | service => cases h

theorem exists_refused {refused : DeclarationKind}
    (h : Symbols.DifferIn ds.schemas name refused) :
    ∃ kind : NamedKind, kind.refused? = some refused := by
  cases refused with
  | type => exact ⟨.type, rfl⟩
  | element => exact ⟨.element, rfl⟩
  | attr => exact ⟨.attr, rfl⟩
  | group => exact ⟨.group, rfl⟩
  | attributeGroup => exact ⟨.attributeGroup, rfl⟩
  | message | portType | binding => cases h

/-- Whatever the kind, the first declaration of a name counts, and no other. -/
theorem counted_ofDocuments {s : Symbols} (h : Symbols.ofDocuments ds = .ok s) (kind : NamedKind) :
    counted s (.ofDocuments ds) name kind =
      (((ds.declared kind).find? (·.1 == name)).map (·.2)).toList := by
  have holds := Symbols.holdsAll_of_ok h
  -- A table holds one declaration; it only remains to see that it is the first.
  have table {α : Type} {tag : α → Declaration} {declared : List (QName × α)} {found : Option α}
      (first : found = (declared.find? (·.1 == name)).map (·.2)) :
      (found.map tag).toList =
        (((tagged tag declared).find? (·.1 == name)).map (·.2)).toList := by
    rw [first, find?_tagged, Option.map_map, Option.map_map]
    rfl
  have types {α : Type} {tag : α → Declaration} {declared : List (QName × α)}
      {entries : NameTable (Declared α)} (holds : Holds entries declared) :
      (entries[name]?.map (tag ·.decl)).toList =
        (((tagged tag declared).find? (·.1 == name)).map (·.2)).toList := by
    rw [← table (holds.decl_eq name), Option.map_map]
    rfl
  cases kind with
  | type => exact types holds.types
  | element => exact types holds.elements
  | attr => exact types holds.attributes
  | group => exact types holds.groups
  | attributeGroup => exact types holds.attributeGroups
  | message => exact table (ServiceDeclarations.getElem?_firstOf ds.messages name)
  | portType => exact table (ServiceDeclarations.getElem?_firstOf ds.portTypes name)
  | binding => exact table (ServiceDeclarations.getElem?_firstOf ds.bindings name)
  | service =>
    show ((ServiceDeclarations.distinct ds.services).filter (·.1 == name)).map (.service ·.2) =
      (((tagged .service ds.services).find? (·.1 == name)).map (·.2)).toList
    rw [ServiceDeclarations.filter_distinct, find?_tagged]
    cases ds.services.find? (·.1 == name) with
    | none => rfl
    | some first => rfl

/-- A conflict is reported if and only if two declarations of schemas differ that have one kind and
one name, and what is reported is the kind and the name of such two. Without a conflict each kind
and name has the first of its declarations counted, once; for declarations of services that is so
whether the others are equal to the first or not. -/
theorem ofDocuments_conflict_iff (ds : Documents) (choices : Choices) :
    ((∃ c, ofDocuments ds choices = .error (.conflict c)) ↔
      ∃ kind name, kind.refused?.isSome ∧ Differ (ds.declared kind) name) ∧
    (∀ c, ofDocuments ds choices = .error (.conflict c) →
      ∃ kind, kind.refused? = some c.kind ∧ Differ (ds.declared kind) c.name) ∧
    ∀ i, ofDocuments ds choices = .ok i → ∃ s, Stages ds choices i s ∧ ∀ kind name,
      counted s (BindingContext.of ds i.graph).declared name kind =
        (((ds.declared kind).find? (·.1 == name)).map (·.2)).toList := by
  have reported : ∀ c, ofDocuments ds choices = .error (.conflict c) →
      ∃ kind, kind.refused? = some c.kind ∧ Differ (ds.declared kind) c.name := by
    intro c h
    have merges := Symbols.mergesAll_ofDocuments ds
    rw [ofDocuments_eq_conflict_iff.mp h] at merges
    obtain ⟨kind, hkind⟩ := exists_refused merges
    exact ⟨kind, hkind, (differ_declared_iff hkind).mpr merges⟩
  refine ⟨⟨?_, ?_⟩, reported, ?_⟩
  · rintro ⟨c, h⟩
    obtain ⟨kind, hkind, differ⟩ := reported c h
    exact ⟨kind, c.name, by rw [hkind]; rfl, differ⟩
  · rintro ⟨kind, name, isSome, differ⟩
    obtain ⟨refused, hkind⟩ := Option.isSome_iff_exists.mp isSome
    cases hs : Symbols.ofDocuments ds with
    | error c => exact ⟨c, ofDocuments_eq_conflict_iff.mpr hs⟩
    | ok s =>
      exact absurd ((differ_declared_iff hkind).mp differ)
        (Symbols.exists_ofDocuments_iff.mp ⟨s, hs⟩ name refused)
  · intro i h
    obtain ⟨s, stages⟩ := ofDocuments_eq_ok h
    exact ⟨s, stages, fun kind name => counted_ofDocuments stages.symbols kind⟩

/-! ## Two documents that disagree -/

/-- A document of `urn:t` that declares a type. -/
def declaring (isAbstract : Bool) : Document where
  locator := default
  kind := .schema
  targetNamespace := "urn:t"
  imports := []
  schemas := [{
    targetNamespace := "urn:t"
    elementForm := .unqualified
    attributeForm := .unqualified
    imports := []
    types := [.complex {
      name := some "T"
      documentation := none
      isAbstract := isAbstract
      mixed := false
      content := .empty
      attributes := []
      anyAttribute := false
      arrayItem := none }]
    elements := []
    attributes := []
    groups := []
    attributeGroups := [] }]
  messages := []
  portTypes := []
  bindings := []
  services := []
  skipped := []

/-- A type that is abstract in one document and not in the other is a conflict. -/
theorem differing_types_refused :
    ∃ c, ofDocuments ⟨[declaring true, declaring false]⟩ ⟨none, ∅, false⟩ =
      .error (.conflict c) := by
  refine (ofDocuments_conflict_iff _ _).1.mpr ⟨.type, ⟨"urn:t", "T"⟩, rfl, ?_⟩
  exact ⟨_, _, List.mem_cons_self, List.mem_cons_of_mem _ List.mem_cons_self, nofun⟩

/-- A document of `urn:t` with a message and an operation that takes it. Only the type of what is
in the message is left open. -/
def saying (content : String) : Document where
  locator := default
  kind := .wsdl
  targetNamespace := "urn:t"
  imports := []
  schemas := []
  messages := [⟨"Q", [⟨"p", .type ⟨Namespaces.schema, content⟩⟩]⟩]
  portTypes := [⟨"P", [{
    name := "o"
    documentation := none
    input := some ⟨none, ⟨"urn:t", "Q"⟩⟩
    output := none
    faults := []
    pattern := .oneWay }]⟩]
  bindings := []
  services := []
  skipped := []

def disagreeing : Documents := ⟨[saying "int", saying "string"]⟩

theorem ofSymbols_empty : TypeGraph.ofSymbols .empty = .ok (⟨∅, ∅⟩, ∅) := by cbv

/-- The messages differ, and there is an interface all the same. -/
theorem differing_messages_ignored : ∃ name, Differ (disagreeing.declared .message) name ∧
    ∃ i, ofDocuments disagreeing ⟨none, ∅, false⟩ = .ok i := by
  refine ⟨⟨"urn:t", "Q"⟩, ?_, ?_⟩
  · exact ⟨_, _, List.mem_cons_self, List.mem_cons_of_mem _ List.mem_cons_self, nofun⟩
  · have symbols : Symbols.ofDocuments disagreeing = .ok .empty := rfl
    have services : (BindingContext.of disagreeing ⟨∅, ∅⟩).services none =
        .ok (BindingContext.of disagreeing ⟨∅, ∅⟩).bindWithoutServices := rfl
    have stages : ∃ i, ofDocuments disagreeing ⟨none, ∅, false⟩ = .ok i ∧ i.graph = ⟨∅, ∅⟩ ∧
        i.services = (BindingContext.of disagreeing ⟨∅, ∅⟩).bindWithoutServices.value :=
      ofDocuments_of_stages symbols ofSymbols_empty services
    obtain ⟨i, hi, _⟩ := stages
    exact ⟨i, hi⟩

end Interface

end SoapBindings
