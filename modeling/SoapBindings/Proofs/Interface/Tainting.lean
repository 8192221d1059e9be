import Mathlib
import SoapBindings.Proofs.Interface.Building

/-!
# Tainted types and what is missing

Which missing declarations keep operations from being generated: those of types, elements and
attributes do (`tainted_iff_missing`). A reference to a group of elements or of attributes that is
not declared is reported, but leaves nothing in the node of its type, so the type is not tainted by
it and operations that use the type stay valid.
-/

set_option autoImplicit false

namespace SoapBindings.Interface

open Relation Schema TypeGraph

/-- A type is tainted if and only if it reaches a type that asks in vain for a type, an element or
an attribute; no part of a valid operation reaches a tainted type. -/
theorem tainted_iff_missing {ds : Documents} {choices : Choices} {i : Interface}
    (h : ofDocuments ds choices = .ok i) : ∃ s, Symbols.ofDocuments ds = .ok s ∧
      (∀ id, id ∈ i.graph.tainted ↔ ∃ e ∈ allEntries s, ReflTransGen i.graph.Refers id e.id ∧
        ∃ r ∈ missingIn s e, r.kind ≠ .group ∧ r.kind ≠ .attributeGroup) ∧
      ∀ service ∈ i.services, ∀ op ∈ service.validOperations, ∀ root, .node root ∈ op.partTypes →
        ∀ id, ReflTransGen i.graph.Refers root id → id ∉ i.graph.tainted := by
  obtain ⟨s, stages⟩ := ofDocuments_eq_ok h
  refine ⟨s, stages.symbols, fun id => ?_, ?_⟩
  · obtain ⟨missed, hg⟩ := stages.graph
    rw [mem_tainted]
    constructor
    · rintro ⟨b, path, hb⟩
      obtain ⟨e, he, rfl, asked⟩ := (hasUnresolved_iff hg).mp hb
      exact ⟨e, he, path, asked⟩
    · rintro ⟨e, he, path, asked⟩
      exact ⟨e.id, path, (hasUnresolved_iff hg).mpr ⟨e, he, rfl, asked⟩⟩
  · intro service hs op hop root hroot id path tainted
    rcases stages.type_of_validOperation hs hop hroot with ⟨b, hb⟩ | ⟨root', hroot', untainted⟩
    · cases hb
    · cases hroot'
      exact untainted (mem_tainted_of_path path tainted)

/-! ## A group that is missing -/

def typeName : QName := ⟨"", "T"⟩

def groupName : QName := ⟨"", "M"⟩

def memberDecl : ElementDecl where
  name := "x"
  ns := none
  type := some (.named ⟨Namespaces.schema, "int"⟩)
  nillable := false
  isAbstract := false
  substitutionGroup := none
  default := none
  fixed := none
  documentation := none

/-- A type with one element, behind which stands a group that nothing declares. -/
def lackingType : TypeDecl := .complex {
  name := some "T"
  documentation := none
  isAbstract := false
  mixed := false
  content := .group ⟨.sequence, .once, [.element memberDecl .once, .groupRef groupName .once]⟩
  attributes := []
  anyAttribute := false
  arrayItem := none }

/-- A call that carries a value of the type. -/
def lackingOperation : Wsdl.Operation where
  name := "o"
  documentation := none
  input := some ⟨none, ⟨"", "Q"⟩⟩
  output := none
  faults := []
  pattern := .oneWay

def lackingMessage : Wsdl.Message := ⟨"Q", [⟨"p", .type typeName⟩]⟩

/-- One document with the type and an operation that uses it. -/
def lackingDocuments : Documents := ⟨[{
  locator := default
  kind := .wsdl
  targetNamespace := ""
  imports := []
  schemas := [{
    targetNamespace := ""
    elementForm := .unqualified
    attributeForm := .unqualified
    imports := []
    types := [lackingType]
    elements := []
    attributes := []
    groups := []
    attributeGroups := [] }]
  messages := [lackingMessage]
  portTypes := [⟨"P", [lackingOperation]⟩]
  bindings := []
  services := []
  skipped := [] }]⟩

def noChoices : Choices := ⟨none, ∅, false⟩

def lackingSymbols : Symbols :=
  { Symbols.empty with types := Symbols.empty.types.insert typeName ⟨lackingType, "", default⟩ }

def lackingGraph : TypeGraph := draft lackingSymbols (AnonymousPaths.ofSymbols lackingSymbols)

def lackingEntry : TypeEntry := ⟨.named typeName, lackingType, .top .type typeName, default⟩

theorem symbols_lackingDocuments : Symbols.ofDocuments lackingDocuments = .ok lackingSymbols := rfl

theorem ofSymbols_lackingSymbols : ofSymbols lackingSymbols =
    .ok (lackingGraph, missing lackingSymbols (AnonymousPaths.ofSymbols lackingSymbols)) := by
  -- Evaluated stage by stage; the whole graph is too large a term.
  have noCycle : lackingGraph.types.keys.findSome? (cycleOf? lackingGraph.types) = none := by cbv
  rw [lackingGraph] at noCycle
  simp only [ofSymbols, noCycle]
  rfl

theorem allEntries_lackingSymbols : allEntries lackingSymbols = [lackingEntry] := by cbv

theorem missingIn_lackingEntry :
    missingIn lackingSymbols lackingEntry = [⟨groupName, .group, "T"⟩] := by cbv

theorem lackingType_untainted : .named typeName ∉ lackingGraph.tainted := by
  intro h
  obtain ⟨b, _, hb⟩ := mem_tainted.mp h
  obtain ⟨e, he, _, r, hr, noGroup, _⟩ := (hasUnresolved_iff ofSymbols_lackingSymbols).mp hb
  rw [allEntries_lackingSymbols] at he
  obtain rfl := List.mem_singleton.mp he
  rw [missingIn_lackingEntry] at hr
  obtain rfl := List.mem_singleton.mp hr
  exact noGroup rfl

theorem mem_lackingGraph : .named typeName ∈ lackingGraph.types := by
  refine mem_draft.mpr ⟨lackingEntry, ?_, rfl⟩
  rw [← allEntries, allEntries_lackingSymbols]
  exact List.mem_cons_self

/-- What the names of the document are looked up in. -/
def lackingContext : BindingContext := .of lackingDocuments lackingGraph

def lackingService : BoundService where
  service := "P"
  port := "P"
  ns := ""
  portType := ⟨"", "P"⟩
  binding := none
  protocol := none
  address := none
  documentation := none
  operations := [(lackingContext.bindOperation none lackingOperation).value]

theorem lackingService_mem : lackingService ∈ lackingContext.bindWithoutServices.value := by
  have bindings : lackingContext.declared.bindings.toList = [] := by cbv
  have names : lackingContext.declared.portTypes.keys = [⟨"", "P"⟩] := by cbv
  have portType : lackingContext.declared.portTypes[(⟨"", "P"⟩ : QName)]? =
      some ⟨"P", [lackingOperation]⟩ := by cbv
  have bare : (lackingContext.bindBare ⟨"", "P"⟩).value = some lackingService := by
    simp only [BindingContext.bindBare, BindingContext.bindPortType, portType]
    rfl
  simp only [BindingContext.bindWithoutServices, bindings, names]
  exact List.mem_filterMap.mpr ⟨some lackingService, by simp [Bound.all, bare], rfl⟩

theorem partType_lackingContext :
    lackingContext.partType (.type typeName) = .node (.named typeName) := by
  have noBuiltin : Builtin.ofQName? typeName = none := by decide
  have declared : lackingContext.graph.types.contains (.named typeName) :=
    Std.ExtTreeMap.mem_iff_contains.mp mem_lackingGraph
  simp only [BindingContext.partType, noBuiltin, declared, if_true]

/-- The operation is valid and carries a value of the type. -/
theorem lackingOperation_valid : ∃ op ∈ lackingService.validOperations,
    .node (.named typeName) ∈ op.partTypes := by
  have message : lackingContext.declared.messages[(⟨"", "Q"⟩ : QName)]? = some lackingMessage := by
    cbv
  have part : lackingContext.bindPart ⟨"p", .type typeName⟩ =
      ⟨"p", none, .node (.named typeName)⟩ := by
    rw [BindingContext.bindPart, partType_lackingContext]
  have bound (context : String) : (lackingContext.bindMessage context ⟨none, ⟨"", "Q"⟩⟩).value =
      some ⟨⟨"", "Q"⟩, [⟨"p", none, .node (.named typeName)⟩]⟩ := by
    simp only [BindingContext.bindMessage, message, lackingMessage, List.map_cons, List.map_nil,
      part]
  have untainted : lackingContext.tainted.contains (.named typeName) = false := by
    rw [← Bool.not_eq_true, ← Std.ExtTreeSet.mem_iff_contains]
    exact lackingType_untainted
  have noProblem (context : String) :
      lackingContext.messageProblems context ⟨none, ⟨"", "Q"⟩⟩ = [] := by
    simp [BindingContext.messageProblems, bound, BindingContext.partProblem?, untainted]
  refine ⟨_, List.mem_filter.mpr ⟨List.mem_cons_self, ?_⟩, ?_⟩
  · simp [BoundOperation.isValid, BindingContext.bindOperation, BindingContext.patternProblems,
      BindingContext.messageUses, lackingOperation, noProblem]
  · refine BindingContext.mem_partTypes.mpr
      ⟨⟨⟨"", "Q"⟩, [⟨"p", none, .node (.named typeName)⟩]⟩, ?_, _, List.mem_cons_self, rfl⟩
    simp [BoundOperation.messages, BindingContext.bindOperation, lackingOperation, Bound.option,
      bound]

theorem ofDocuments_lackingDocuments : ∃ i, ofDocuments lackingDocuments noChoices = .ok i ∧
    i.graph = lackingGraph ∧ lackingService ∈ i.services := by
  have found : (BindingContext.of lackingDocuments lackingGraph).services noChoices.service =
      .ok lackingContext.bindWithoutServices := rfl
  obtain ⟨i, hi, graph, services⟩ :=
    ofDocuments_of_stages symbols_lackingDocuments ofSymbols_lackingSymbols found
  exact ⟨i, hi, graph, services ▸ lackingService_mem⟩

/-- A missing group is reported with the type that asks for it. The type is not tainted, and an
operation that carries it is valid. -/
theorem untainted_lackingType : ∃ i s, ofDocuments lackingDocuments noChoices = .ok i ∧
    Symbols.ofDocuments lackingDocuments = .ok s ∧ ∃ e ∈ allEntries s,
      (∃ r, r ∈ missingIn s e) ∧ e.id ∉ i.graph.tainted ∧ ∃ service ∈ i.services,
        ∃ op ∈ service.validOperations, .node e.id ∈ op.partTypes := by
  obtain ⟨i, hi, graph, hservice⟩ := ofDocuments_lackingDocuments
  refine ⟨i, lackingSymbols, hi, symbols_lackingDocuments, lackingEntry, ?_, ?_, ?_, ?_⟩
  · rw [allEntries_lackingSymbols]
    exact List.mem_cons_self
  · exact ⟨_, by rw [missingIn_lackingEntry]; exact List.mem_cons_self⟩
  · rw [graph]
    exact lackingType_untainted
  · exact ⟨lackingService, hservice, lackingOperation_valid⟩

/-- The same documents: nothing in them asks in vain for anything but the group. -/
theorem tainted_iff_missing_lackingDocuments : ∃ i, ofDocuments lackingDocuments noChoices = .ok i ∧
    ∃ s, Symbols.ofDocuments lackingDocuments = .ok s ∧
      (∀ id, id ∈ i.graph.tainted ↔ ∃ e ∈ allEntries s, ReflTransGen i.graph.Refers id e.id ∧
        ∃ r ∈ missingIn s e, r.kind ≠ .group ∧ r.kind ≠ .attributeGroup) ∧
      ∀ service ∈ i.services, ∀ op ∈ service.validOperations, ∀ root, .node root ∈ op.partTypes →
        ∀ id, ReflTransGen i.graph.Refers root id → id ∉ i.graph.tainted := by
  obtain ⟨i, hi, _⟩ := ofDocuments_lackingDocuments
  exact ⟨i, hi, tainted_iff_missing hi⟩

end SoapBindings.Interface
