import SoapBindings.Proofs.Tables
import SoapBindings.Schema.Symbols

/-!
# Merging declarations

A table takes equal declarations of one name as one and refuses a second that differs. What comes of
it depends only on what is declared, not on the order: the tables hold all that the schemas declare,
or some kind has two declarations of one name that differ (`Symbols.merges_ofDocuments`). As a table
cannot hold both of such two, these cases exclude each other (`Symbols.exists_ofDocuments_iff`).
-/

set_option autoImplicit false

namespace SoapBindings.Schema

section

variable {α : Type}

/-- Two declarations of the name differ. -/
def Differ (declared : List (QName × α)) (name : QName) : Prop :=
  ∃ a b, (name, a) ∈ declared ∧ (name, b) ∈ declared ∧ a ≠ b

/-- The table holds the declarations, each under its name, and nothing else. -/
def Holds (table : NameTable (Declared α)) (declared : List (QName × α)) : Prop :=
  ∀ name a, (∃ d, table[name]? = some d ∧ d.decl = a) ↔ (name, a) ∈ declared

/-- All declarations are in a table, or some of one name differ. -/
def Merges (kind : DeclarationKind) (declared : List (QName × α)) :
    Except Conflict (NameTable (Declared α)) → Prop
  | .ok table => Holds table declared
  | .error c => c.kind = kind ∧ Differ declared c.name

variable {table : NameTable (Declared α)} {declared : List (QName × α)} {kind : DeclarationKind}

theorem holds_empty : Holds (∅ : NameTable (Declared α)) [] := by
  intro name a
  simp

theorem Holds.not_differ (h : Holds table declared) (name : QName) : ¬ Differ declared name := by
  intro ⟨a, b, ha, hb, hne⟩
  obtain ⟨d, hd, rfl⟩ := (h name a).mpr ha
  obtain ⟨d', hd', rfl⟩ := (h name b).mpr hb
  rw [hd] at hd'
  cases hd'
  exact hne rfl

theorem Differ.append_right {name : QName} (h : Differ declared name)
    (more : List (QName × α)) : Differ (declared ++ more) name := by
  obtain ⟨a, b, ha, hb, hne⟩ := h
  exact ⟨a, b, List.mem_append_left _ ha, List.mem_append_left _ hb, hne⟩

variable [DecidableEq α]

theorem merges_register (h : Holds table declared) (kind : DeclarationKind) (name : QName)
    (d : Declared α) :
    Merges kind (declared ++ [(name, d.decl)]) (Symbols.register kind table name d) := by
  unfold Symbols.register
  cases hfirst : table[name]? with
  | none =>
    intro other a
    rw [List.mem_append, List.mem_singleton, Prod.mk.injEq, ← h other a]
    simp only [getElem?_insert_eq_some_iff]
    constructor
    · rintro ⟨_, ⟨rfl, rfl⟩ | ⟨_, hd'⟩, rfl⟩
      · exact Or.inr ⟨rfl, rfl⟩
      · exact Or.inl ⟨_, hd', rfl⟩
    · rintro (⟨d', hd', rfl⟩ | ⟨rfl, rfl⟩)
      · refine ⟨d', Or.inr ⟨?_, hd'⟩, rfl⟩
        rintro rfl
        rw [hfirst] at hd'
        cases hd'
      · exact ⟨d, Or.inl ⟨rfl, rfl⟩, rfl⟩
  | some first =>
    have known : (name, first.decl) ∈ declared := (h name first.decl).mp ⟨first, hfirst, rfl⟩
    by_cases same : first.decl = d.decl
    · simp only [if_pos same]
      intro other a
      rw [h other a, List.mem_append, List.mem_singleton, Prod.mk.injEq]
      constructor
      · exact Or.inl
      · rintro (ha | ⟨rfl, rfl⟩)
        · exact ha
        · exact same ▸ known
    · simp only [if_neg same]
      refine ⟨rfl, first.decl, d.decl, ?_, ?_, same⟩
      · exact List.mem_append_left _ known
      · exact List.mem_append_right _ (List.mem_singleton.mpr rfl)

/-- The names of declarations in the namespace of their schema. -/
def named (ns : String) (decls : List (String × α)) : List (QName × α) :=
  decls.map fun (name, a) => (⟨ns, name⟩, a)

theorem merges_registerAll (h : Holds table declared) (kind : DeclarationKind) (ns : String)
    (locator : Locator) (decls : List (String × α)) :
    Merges kind (declared ++ named ns decls)
      (Symbols.registerAll kind ns locator table decls) := by
  unfold Symbols.registerAll
  induction decls generalizing table declared with
  | nil =>
    rw [named, List.map_nil, List.append_nil]
    exact h
  | cons first decls ih =>
    obtain ⟨name, a⟩ := first
    have step := merges_register h kind ⟨ns, name⟩ ⟨a, ns, locator⟩
    have whole : declared ++ named ns ((name, a) :: decls) =
        declared ++ [(⟨ns, name⟩, a)] ++ named ns decls := by
      simp [named]
    rw [whole, List.foldlM_cons]
    dsimp only
    cases hstep : Symbols.register kind table ⟨ns, name⟩ ⟨a, ns, locator⟩ with
    | error c =>
      rw [hstep] at step
      exact ⟨step.1, step.2.append_right _⟩
    | ok table' =>
      rw [hstep] at step
      exact ih step

end

/-! ## What schemas declare -/

namespace Declarations

def namedTypes (d : Declarations) : List (String × TypeDecl) :=
  d.types.filterMap fun t => t.name.map (·, t)

def namedElements (d : Declarations) : List (String × ElementDecl) :=
  d.elements.map fun e => (e.name, e)

def namedAttributes (d : Declarations) : List (String × AttributeDecl) :=
  d.attributes.map fun a => (a.name, a)

def namedGroups (d : Declarations) : List (String × GroupDecl) :=
  d.groups.map fun g => (g.name, g)

def namedAttributeGroups (d : Declarations) : List (String × AttributeGroupDecl) :=
  d.attributeGroups.map fun g => (g.name, g)

end Declarations

/-- What some schemas declare of one kind, with qualified names. -/
def declaredIn {α : Type} (of : Declarations → List (String × α))
    (schemas : List (Locator × Declarations)) : List (QName × α) :=
  schemas.flatMap fun (_, d) => named d.targetNamespace (of d)

theorem declaredIn_append {α : Type} (of : Declarations → List (String × α))
    (schemas : List (Locator × Declarations)) (locator : Locator) (d : Declarations) :
    declaredIn of (schemas ++ [(locator, d)]) =
      declaredIn of schemas ++ named d.targetNamespace (of d) := by
  simp [declaredIn]

/-- Where a schema stands and where it comes from does not matter to what is declared. -/
theorem mem_declaredIn {α : Type} {of : Declarations → List (String × α)}
    {schemas : List (Locator × Declarations)} {e : QName × α} : e ∈ declaredIn of schemas ↔
      ∃ d ∈ schemas.map (·.2), e ∈ named d.targetNamespace (of d) := by
  rw [declaredIn, List.mem_flatMap]
  constructor
  · rintro ⟨⟨locator, d⟩, hd, he⟩
    exact ⟨d, List.mem_map.mpr ⟨(locator, d), hd, rfl⟩, he⟩
  · rintro ⟨_, hd, he⟩
    obtain ⟨declaring, hmem, rfl⟩ := List.mem_map.mp hd
    exact ⟨declaring, hmem, he⟩

namespace Symbols

open Declarations

variable {s : Symbols} {schemas schemas' : List (Locator × Declarations)}

/-- The tables hold what the schemas declare. -/
structure HoldsAll (s : Symbols) (schemas : List (Locator × Declarations)) : Prop where
  types : Holds s.types (declaredIn namedTypes schemas)
  elements : Holds s.elements (declaredIn namedElements schemas)
  attributes : Holds s.attributes (declaredIn namedAttributes schemas)
  groups : Holds s.groups (declaredIn namedGroups schemas)
  attributeGroups : Holds s.attributeGroups (declaredIn namedAttributeGroups schemas)

/-- Two declarations of one kind and name differ. -/
def DifferIn (schemas : List (Locator × Declarations)) (name : QName) : DeclarationKind → Prop
  | .type => Differ (declaredIn namedTypes schemas) name
  | .element => Differ (declaredIn namedElements schemas) name
  | .attr => Differ (declaredIn namedAttributes schemas) name
  | .group => Differ (declaredIn namedGroups schemas) name
  | .attributeGroup => Differ (declaredIn namedAttributeGroups schemas) name
  | .message | .binding | .portType => False

/-- All that the schemas declare is in the tables, or some of it differs. -/
def MergesAll (schemas : List (Locator × Declarations)) : Except Conflict Symbols → Prop
  | .ok s => s.HoldsAll schemas
  | .error c => DifferIn schemas c.name c.kind

theorem holdsAll_empty : empty.HoldsAll [] :=
  ⟨holds_empty, holds_empty, holds_empty, holds_empty, holds_empty⟩

theorem HoldsAll.not_differIn (h : s.HoldsAll schemas) (name : QName) (kind : DeclarationKind) :
    ¬ DifferIn schemas name kind := by
  cases kind with
  | type => exact h.types.not_differ name
  | element => exact h.elements.not_differ name
  | attr => exact h.attributes.not_differ name
  | group => exact h.groups.not_differ name
  | attributeGroup => exact h.attributeGroups.not_differ name
  | message | binding | portType => exact id

theorem DifferIn.mono {name : QName} {kind : DeclarationKind} (h : DifferIn schemas name kind)
    (sub : ∀ d ∈ schemas.map (·.2), d ∈ schemas'.map (·.2)) : DifferIn schemas' name kind := by
  have more {α : Type} (of : Declarations → List (String × α))
      (differ : Differ (declaredIn of schemas) name) : Differ (declaredIn of schemas') name := by
    have mem (e : QName × α) (he : e ∈ declaredIn of schemas) : e ∈ declaredIn of schemas' := by
      obtain ⟨d, hd, he⟩ := mem_declaredIn.mp he
      exact mem_declaredIn.mpr ⟨d, sub d hd, he⟩
    obtain ⟨a, b, ha, hb, hne⟩ := differ
    exact ⟨a, b, mem _ ha, mem _ hb, hne⟩
  cases kind with
  | type | element | attr | group | attributeGroup => exact more _ h
  | message | binding | portType => exact h

theorem mergesAll_add (h : s.HoldsAll schemas) (locator : Locator) (d : Declarations) :
    MergesAll (schemas ++ [(locator, d)]) (s.add locator d) := by
  have types := merges_registerAll h.types .type d.targetNamespace locator d.namedTypes
  have elements :=
    merges_registerAll h.elements .element d.targetNamespace locator d.namedElements
  have attributes :=
    merges_registerAll h.attributes .attr d.targetNamespace locator d.namedAttributes
  have groups := merges_registerAll h.groups .group d.targetNamespace locator d.namedGroups
  have attributeGroups := merges_registerAll h.attributeGroups .attributeGroup d.targetNamespace
    locator d.namedAttributeGroups
  rw [← declaredIn_append _ schemas locator d] at types elements attributes groups attributeGroups
  -- A refusal is passed on with its kind and its name.
  have refused {α : Type} {kind : DeclarationKind} {declared : List (QName × α)} {c : Conflict}
      (h : Merges kind declared (.error c))
      (differ : Differ declared c.name → DifferIn (schemas ++ [(locator, d)]) c.name kind) :
      DifferIn (schemas ++ [(locator, d)]) c.name c.kind := by
    rw [h.1]
    exact differ h.2
  have start : s.add locator d = (do
      let types ← registerAll .type d.targetNamespace locator s.types d.namedTypes
      let elements ← registerAll .element d.targetNamespace locator s.elements d.namedElements
      let attributes ← registerAll .attr d.targetNamespace locator s.attributes d.namedAttributes
      let groups ← registerAll .group d.targetNamespace locator s.groups d.namedGroups
      let attributeGroups ← registerAll .attributeGroup d.targetNamespace locator
        s.attributeGroups d.namedAttributeGroups
      return ⟨types, elements, attributes, groups, attributeGroups⟩) := rfl
  rw [start]
  cases htypes : registerAll .type d.targetNamespace locator s.types d.namedTypes with
  | error c => exact refused (htypes ▸ types) id
  | ok types' =>
  cases helements : registerAll .element d.targetNamespace locator s.elements d.namedElements with
  | error c => exact refused (helements ▸ elements) id
  | ok elements' =>
  cases hattributes : registerAll .attr d.targetNamespace locator s.attributes
    d.namedAttributes with
  | error c => exact refused (hattributes ▸ attributes) id
  | ok attributes' =>
  cases hgroups : registerAll .group d.targetNamespace locator s.groups d.namedGroups with
  | error c => exact refused (hgroups ▸ groups) id
  | ok groups' =>
  cases hattributeGroups : registerAll .attributeGroup d.targetNamespace locator s.attributeGroups
    d.namedAttributeGroups with
  | error c => exact refused (hattributeGroups ▸ attributeGroups) id
  | ok attributeGroups' =>
    rw [htypes] at types
    rw [helements] at elements
    rw [hattributes] at attributes
    rw [hgroups] at groups
    rw [hattributeGroups] at attributeGroups
    exact ⟨types, elements, attributes, groups, attributeGroups⟩

theorem mergesAll_foldlM (h : s.HoldsAll schemas) (more : List (Locator × Declarations)) :
    MergesAll (schemas ++ more) (more.foldlM (fun s (locator, d) => s.add locator d) s) := by
  induction more generalizing s schemas with
  | nil =>
    rw [List.append_nil]
    exact h
  | cons first more ih =>
    obtain ⟨locator, d⟩ := first
    have step := mergesAll_add h locator d
    rw [List.append_cons, List.foldlM_cons]
    dsimp only
    cases hstep : s.add locator d with
    | error c =>
      rw [hstep] at step
      refine step.mono fun d hd => ?_
      rw [List.map_append]
      exact List.mem_append_left _ hd
    | ok s' =>
      rw [hstep] at step
      exact ih step

theorem mergesAll_ofDocuments (ds : Documents) : MergesAll ds.schemas (ofDocuments ds) := by
  have h := mergesAll_foldlM holdsAll_empty ds.schemas
  rw [List.nil_append] at h
  exact h

theorem holdsAll_of_ok {ds : Documents} (h : ofDocuments ds = .ok s) : s.HoldsAll ds.schemas := by
  have merges := mergesAll_ofDocuments ds
  rw [h] at merges
  exact merges

/-- There are tables exactly if no two declarations of one kind and name differ. -/
theorem exists_ofDocuments_iff {ds : Documents} : (∃ s, ofDocuments ds = .ok s) ↔
    ∀ name kind, ¬ DifferIn ds.schemas name kind := by
  constructor
  · intro h
    obtain ⟨s, hs⟩ := h
    exact (holdsAll_of_ok hs).not_differIn
  · intro agree
    cases h : ofDocuments ds with
    | ok s => exact ⟨s, rfl⟩
    | error c =>
      have merges := mergesAll_ofDocuments ds
      rw [h] at merges
      exact absurd merges (agree c.name c.kind)

end Symbols

end SoapBindings.Schema
