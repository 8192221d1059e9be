import SoapBindings.Proofs.Graph.Used
import SoapBindings.Proofs.Interface.Conflicts

/-!
# Which operations are generated

An operation is generated if and only if the client speaks first, its messages are declared and
their parts have types that nothing is missing from (`Generable`); and whatever of that is missing
is reported (`operations_ofDocuments`). The problems of an operation are put together from those of
its messages and their parts, so that it has none is said piece by piece, up from
`partProblem?_eq_none_iff`. What is missing for a part is found while services are bound, or before
that while the graph is built: the type of an element is looked up there
(`mem_missed_of_element`).
-/

set_option autoImplicit false

namespace SoapBindings

open Relation Wsdl ServiceDeclarations

/-! ## What parts stand for -/

namespace TypeGraph

/-- What a part stands for: the type of an element, a type that is built in, or a declared one. -/
inductive StandsFor (g : TypeGraph) : PartContent → TypeRef → Prop
  | element {name : QName} {e : ElementNode} : g.elements[name]? = some e →
      StandsFor g (.element name) e.type
  | builtin {name : QName} {b : Builtin} : Builtin.ofQName? name = some b →
      StandsFor g (.type name) (.builtin b)
  | declared {name : QName} : Builtin.ofQName? name = none → .named name ∈ g.types →
      StandsFor g (.type name) (.node (.named name))

/-- The type is built in, or no type with an unresolved name can be reached from it. -/
def Whole (g : TypeGraph) : TypeRef → Prop
  | .builtin _ => True
  | .node id => ∀ other, ReflTransGen g.Refers id other → ¬ g.HasUnresolved other
  | .unresolved _ => False

/-- What is missing for a part: its element, the type of its element, or its type. -/
inductive LacksFor (g : TypeGraph) (context : String) : PartContent → Reference → Prop
  | element {name : QName} : name ∉ g.elements →
      LacksFor g context (.element name) ⟨name, .element, context⟩
  | typeOfElement {name t : QName} {e : ElementNode} : g.elements[name]? = some e →
      e.type = .unresolved t →
      LacksFor g context (.element name) ⟨t, .type, "element " ++ name.toText⟩
  | type {name : QName} : Builtin.ofQName? name = none → .named name ∉ g.types →
      LacksFor g context (.type name) ⟨name, .type, context⟩

end TypeGraph

/-- The message is the input, the output or a fault of the operation. -/
def Wsdl.Operation.Names (op : Operation) (u : MessageUse) : Prop :=
  op.input = some u ∨ op.output = some u ∨ u ∈ op.faults

/-- The operation can be generated: the client speaks first, every message is declared, and every
part of it stands for a type from which nothing is missing. -/
def Generable (ds : Documents) (g : TypeGraph) (op : Operation) : Prop :=
  (op.pattern = .oneWay ∨ op.pattern = .requestResponse) ∧
    ∀ u, op.Names u → ∃ m, firstNamed ds.messages u.message = some m ∧
      ∀ part ∈ m.parts, ∃ r, g.StandsFor part.content r ∧ g.Whole r

namespace BindingContext

variable {ds : Documents} {g : TypeGraph} {content : PartContent} {r : TypeRef}

theorem partType_of_standsFor (h : g.StandsFor content r) :
    (BindingContext.of ds g).partType content = r := by
  cases h with
  | element he => simp only [partType, BindingContext.of, he]
  | builtin hb => simp only [partType, hb]
  | declared noBuiltin mem =>
    have listed : g.types.contains _ = true := Std.ExtTreeMap.mem_iff_contains.mp mem
    simp only [partType, BindingContext.of, noBuiltin, listed, if_true]

/-- A part that stands for no type lacks something. -/
theorem standsFor_or_lacksFor (g : TypeGraph) (context : String) (content : PartContent) :
    (∃ r, g.StandsFor content r ∧ ∀ t, r ≠ .unresolved t) ∨
      ∃ missing, g.LacksFor context content missing := by
  cases content with
  | element name =>
    cases he : g.elements[name]? with
    | none => exact Or.inr ⟨_, .element (not_mem_of_getElem?_eq_none he)⟩
    | some e =>
      cases ht : e.type with
      | unresolved t => exact Or.inr ⟨_, .typeOfElement he ht⟩
      | node _ | builtin _ => exact Or.inl ⟨e.type, .element he, by simp [ht]⟩
  | type name =>
    cases hb : Builtin.ofQName? name with
    | some b => exact Or.inl ⟨_, .builtin hb, nofun⟩
    | none =>
      by_cases mem : .named name ∈ g.types
      · exact Or.inl ⟨_, .declared hb mem, nofun⟩
      · exact Or.inr ⟨_, .type hb mem⟩

/-- A part that lacks something is bound to no type. -/
theorem partType_of_lacksFor (ds : Documents) {context : String} {missing : Reference}
    (h : g.LacksFor context content missing) :
    ∃ t, (BindingContext.of ds g).partType content = .unresolved t := by
  cases h with
  | @element name absent =>
    have none : g.elements[name]? = none := Std.ExtTreeMap.getElem?_eq_none absent
    exact ⟨name, by simp only [partType, BindingContext.of, none]⟩
  | @typeOfElement name t e he ht => exact ⟨t, by simp only [partType, BindingContext.of, he, ht]⟩
  | @type name noBuiltin absent =>
    have unlisted : ¬ g.types.contains (.named name) = true :=
      fun h => absent (Std.ExtTreeMap.mem_iff_contains.mpr h)
    refine ⟨name, ?_⟩
    simp only [partType, noBuiltin]
    exact if_neg unlisted

/-! ## From parts to operations -/

theorem partProblem?_eq_none_iff {p : BoundPart} :
    (BindingContext.of ds g).partProblem? p = none ↔ g.Whole p.type := by
  rw [partProblem?]
  cases p.type with
  | unresolved t => exact iff_of_false (Option.some_ne_none _) id
  | builtin b => exact iff_of_true rfl trivial
  | node id =>
    have untainted : id ∉ g.tainted ↔ g.Whole (.node id) := by
      rw [TypeGraph.mem_tainted, TypeGraph.Whole, not_exists]
      simp only [not_and]
    rw [← untainted, Std.ExtTreeSet.mem_iff_contains]
    simp [BindingContext.of]

theorem partProblem?_bindPart_eq_none_iff {part : Part} :
    (BindingContext.of ds g).partProblem? ((BindingContext.of ds g).bindPart part) = none ↔
      ∃ r, g.StandsFor part.content r ∧ g.Whole r := by
  have bound : ((BindingContext.of ds g).bindPart part).type =
      (BindingContext.of ds g).partType part.content := rfl
  rw [partProblem?_eq_none_iff, bound]
  constructor
  · intro whole
    rcases standsFor_or_lacksFor g "" part.content with ⟨r, stands, _⟩ | ⟨missing, lacks⟩
    · exact ⟨r, stands, partType_of_standsFor stands ▸ whole⟩
    · obtain ⟨t, ht⟩ := partType_of_lacksFor ds lacks
      rw [ht] at whole
      exact whole.elim
  · rintro ⟨r, stands, whole⟩
    rwa [partType_of_standsFor stands]

theorem messageProblems_eq_nil_iff {context : String} {u : MessageUse} :
    (BindingContext.of ds g).messageProblems context u = [] ↔
      ∃ m, firstNamed ds.messages u.message = some m ∧
        ∀ part ∈ m.parts, ∃ r, g.StandsFor part.content r ∧ g.Whole r := by
  have found : (BindingContext.of ds g).declared.messages[u.message]? =
      firstNamed ds.messages u.message := getElem?_firstOf ..
  rw [messageProblems, bindMessage, found]
  cases firstNamed ds.messages u.message with
  | none => simp
  | some m =>
    simp only [List.filterMap_map, List.filterMap_eq_nil_iff, Function.comp_apply,
      partProblem?_bindPart_eq_none_iff, Option.some.injEq, exists_eq_left']

theorem patternProblems_eq_nil_iff {pattern : Pattern} :
    patternProblems pattern = [] ↔ pattern = .oneWay ∨ pattern = .requestResponse := by
  cases pattern <;> simp [patternProblems]

theorem mem_messageUses {op : Operation} {u : MessageUse} : u ∈ messageUses op ↔ op.Names u := by
  simp [messageUses, Operation.Names]

theorem isValid_bindOperation_iff {binding : Option Binding} {op : Operation} :
    ((BindingContext.of ds g).bindOperation binding op).value.isValid ↔ Generable ds g op := by
  rw [BoundOperation.isValid, List.isEmpty_iff]
  show patternProblems op.pattern ++ (messageUses op).flatMap
    ((BindingContext.of ds g).messageProblems ("operation " ++ op.name)) = [] ↔ Generable ds g op
  rw [List.append_eq_nil_iff, patternProblems_eq_nil_iff, List.flatMap_eq_nil_iff, Generable]
  simp only [mem_messageUses, messageProblems_eq_nil_iff]

/-! ## What is reported -/

end BindingContext

namespace TypeGraph

open Schema

variable {s : Symbols} {g : TypeGraph} {missed : References} {name t : QName}

/-- The graph reports the type of an element that it does not find. -/
theorem mem_missed_of_element (h : ofSymbols s = .ok (g, missed)) {e : ElementNode}
    (he : g.elements[name]? = some e) (ht : e.type = .unresolved t) :
    ⟨t, .type, "element " ++ name.toText⟩ ∈ missed := by
  obtain ⟨rfl, rfl⟩ := ofSymbols_eq_ok h
  simp only [draft, Std.ExtTreeMap.getElem?_map, Option.map_eq_some_iff] at he
  obtain ⟨d, hd, rfl⟩ := he
  have used : Used s (Symbols.elementUse name d.decl) := .byElement hd
  refine mem_missing.mpr ⟨_, used, ?_⟩
  simp only [elementNode, Symbols.elementUse] at ht used ⊢
  cases htype : d.decl.type with
  | none =>
    rw [htype] at ht
    cases ht
  | some use =>
    rw [htype] at ht used
    cases use with
    | named asked =>
      have unresolved : resolveType s asked = .unresolved t := ht
      obtain rfl := resolveType_eq_unresolved unresolved
      simp only [Use.ofTypeUse, unresolved?, unresolved]
    | anonymous decl =>
      -- A type that stands in place has an identity.
      obtain ⟨path, hpath⟩ := exists_getElem?_of_mem (mem_ofSymbols_of_used used)
      rw [Use.ofTypeUse, resolve, AnonymousPaths.typeId?, hpath] at ht
      cases ht

end TypeGraph

namespace BindingContext

variable {ds : Documents} {g : TypeGraph} {context : String} {u : MessageUse}

theorem mem_missing_bindMessage_of_undeclared (h : firstNamed ds.messages u.message = none) :
    ⟨u.message, .message, context⟩ ∈ ((BindingContext.of ds g).bindMessage context u).missing := by
  have found : (BindingContext.of ds g).declared.messages[u.message]? = none :=
    (getElem?_firstOf ..).trans h
  rw [bindMessage, found]
  exact List.mem_singleton_self _

theorem mem_missing_bindMessage_of_part {m : Message} {part : Part} {r : Reference}
    (h : firstNamed ds.messages u.message = some m) (hpart : part ∈ m.parts)
    (hr : r ∈ (BindingContext.of ds g).partMissing context part.content) :
    r ∈ ((BindingContext.of ds g).bindMessage context u).missing := by
  have found : (BindingContext.of ds g).declared.messages[u.message]? = some m :=
    (getElem?_firstOf ..).trans h
  rw [bindMessage, found]
  exact List.mem_flatMap.mpr ⟨part, hpart, hr⟩

/-- What is missing for a part is reported with the operation, or it was with the element. -/
theorem mem_partMissing_or_missed (ds : Documents) {s : Schema.Symbols} {missed : References}
    (h : TypeGraph.ofSymbols s = .ok (g, missed)) {content : PartContent} {r : Reference}
    (lacks : g.LacksFor context content r) :
    r ∈ (BindingContext.of ds g).partMissing context content ∨ r ∈ missed := by
  cases lacks with
  | @element name absent =>
    have unlisted : ¬ (BindingContext.of ds g).graph.elements.contains name = true :=
      fun h => absent (Std.ExtTreeMap.mem_iff_contains.mpr h)
    left
    simp only [partMissing]
    rw [if_neg unlisted]
    exact List.mem_singleton_self _
  | typeOfElement he ht => exact Or.inr (TypeGraph.mem_missed_of_element h he ht)
  | @type name noBuiltin absent =>
    have lacks : g.LacksFor context (.type name) ⟨name, .type, context⟩ := .type noBuiltin absent
    obtain ⟨t, ht⟩ := partType_of_lacksFor ds lacks
    left
    simp only [partMissing, ht]
    exact List.mem_singleton_self _

end BindingContext

namespace Interface

variable {ds : Documents} {choices : Choices} {i : Interface}

/-- What is reported of an operation: each message that is not declared and, for each part of the
others that stands for no type, what is missing for it. -/
structure Reported (ds : Documents) (i : Interface) (op : Operation) : Prop where
  message : ∀ u, op.Names u → firstNamed ds.messages u.message = none →
    ⟨u.message, .message, "operation " ++ op.name⟩ ∈ i.diagnostics.unresolved
  part : ∀ u m, op.Names u → firstNamed ds.messages u.message = some m → ∀ part ∈ m.parts,
    (∃ r, i.graph.StandsFor part.content r ∧ ∀ t, r ≠ .unresolved t) ∨
      ∃ missing, i.graph.LacksFor ("operation " ++ op.name) part.content missing ∧
        missing ∈ i.diagnostics.unresolved

/-- The operation of a port type as it is bound: it is valid if and only if it can be generated. -/
structure Settles (ds : Documents) (i : Interface) (op : Operation) (bound : BoundOperation) :
    Prop where
  name : bound.name = op.name
  pattern : bound.pattern = op.pattern
  valid : bound.isValid ↔ Generable ds i.graph op
  reported : Reported ds i op

theorem diagnostics_ofDocuments (h : ofDocuments ds choices = .ok i) : ∃ s missed bound,
    TypeGraph.ofSymbols s = .ok (i.graph, missed) ∧
    (BindingContext.of ds i.graph).services choices.service = .ok bound ∧
    i.services = bound.value ∧ i.diagnostics.unresolved = missed.insertMany bound.missing ∧
    i.diagnostics.invalidOperations = invalidOperations i.services := by
  obtain ⟨s, stages⟩ := ofDocuments_eq_ok h
  obtain ⟨missed, hg⟩ := stages.graph
  obtain ⟨bound, hb, hvalue⟩ := stages.services
  simp only [ofDocuments, stages.symbols, hg, hb, Except.mapError, bind, Except.bind] at h
  have diagnostics := congrArg Interface.diagnostics (Except.ok.inj h)
  refine ⟨s, missed, bound, hg, hb, hvalue, ?_, ?_⟩
  · rw [← diagnostics]
  · rw [← diagnostics, hvalue]

/-- All that binding an operation finds missing is reported in the end, and so is what was missing
while the graph was built. -/
theorem reported_of_missing {s : Schema.Symbols} {missed : References} {missing : List Reference}
    {binding : Option Binding} {op : Operation}
    (hg : TypeGraph.ofSymbols s = .ok (i.graph, missed))
    (unresolved : i.diagnostics.unresolved = missed.insertMany missing)
    (all : ∀ r ∈ ((BindingContext.of ds i.graph).bindOperation binding op).missing, r ∈ missing) :
    Reported ds i op := by
  have mem {r : Reference} : r ∈ i.diagnostics.unresolved ↔ r ∈ missed ∨ r ∈ missing := by
    rw [unresolved, Std.ExtTreeSet.mem_insertMany_list, List.contains_iff_mem]
  have ofMessage {u : MessageUse} (hu : op.Names u) {r : Reference}
      (hr : r ∈ ((BindingContext.of ds i.graph).bindMessage ("operation " ++ op.name) u).missing) :
      r ∈ i.diagnostics.unresolved := by
    have named := BindingContext.mem_messageUses.mpr hu
    exact mem.mpr (Or.inr (all r (BindingContext.mem_missing_bindOperation.mpr ⟨u, named, hr⟩)))
  refine ⟨fun u hu undeclared => ?_, fun u m hu hm part hpart => ?_⟩
  · exact ofMessage hu (BindingContext.mem_missing_bindMessage_of_undeclared undeclared)
  · refine (BindingContext.standsFor_or_lacksFor i.graph ("operation " ++ op.name)
      part.content).imp_right fun ⟨r, lacks⟩ => ⟨r, lacks, ?_⟩
    rcases BindingContext.mem_partMissing_or_missed ds hg lacks with hr | hr
    · exact ofMessage hu (BindingContext.mem_missing_bindMessage_of_part hm hpart hr)
    · exact mem.mpr (Or.inl hr)

/-- An operation is valid if and only if its pattern is one-way or request-response, its messages
are declared, and each part of them stands for a type that is built in or from which no unresolved
name can be reached. Messages that are not declared and parts that stand for no type are reported,
and the operations that are listed as invalid are those that are not valid. -/
theorem operations_ofDocuments (h : ofDocuments ds choices = .ok i) :
    (∀ service ∈ i.services, ∃ p, firstNamed ds.portTypes service.portType = some p ∧
      List.Forall₂ (Settles ds i) p.operations service.operations) ∧
    i.diagnostics.invalidOperations = i.services.flatMap fun service =>
      (service.operations.filter (!·.isValid)).map fun op =>
        ⟨service.service, op.name, op.problems⟩ := by
  obtain ⟨s, missed, bound, hg, hb, hvalue, unresolved, invalid⟩ := diagnostics_ofDocuments h
  refine ⟨fun service hs => ?_, invalid⟩
  rw [hvalue] at hs
  obtain ⟨name, made, _⟩ := BindingContext.exists_yields_of_mem_services hb hs
  obtain ⟨p, binding, hp, operations, missing⟩ := made.operations
  refine ⟨p, (getElem?_firstOf ..).symm.trans hp, ?_⟩
  rw [operations]
  refine List.forall₂_map_right_iff.mpr (List.forall₂_same.mpr fun op hop => ?_)
  exact ⟨rfl, rfl, BindingContext.isValid_bindOperation_iff,
    reported_of_missing hg unresolved (missing op hop)⟩

/-! ## One operation that can be generated and one that cannot -/

def asked (name : String) : QName := ⟨"urn:ask", name⟩

def askOperation : Operation where
  name := "ask"
  documentation := none
  input := some ⟨none, asked "Question"⟩
  output := some ⟨none, asked "Question"⟩
  faults := []
  pattern := .requestResponse

/-- Nothing declares the element in its message. -/
def loseOperation : Operation where
  name := "lose"
  documentation := none
  input := some ⟨none, asked "Loss"⟩
  output := none
  faults := []
  pattern := .oneWay

def askDocuments : Documents := ⟨[{
  locator := default
  kind := .wsdl
  targetNamespace := "urn:ask"
  imports := []
  schemas := []
  messages := [⟨"Question", [⟨"p", .type ⟨Namespaces.schema, "int"⟩⟩]⟩,
    ⟨"Loss", [⟨"p", .element (asked "nothing")⟩]⟩]
  portTypes := [⟨"P", [askOperation, loseOperation]⟩]
  bindings := []
  services := []
  skipped := [] }]⟩

theorem generable_askOperation : Generable askDocuments ⟨∅, ∅⟩ askOperation := by
  refine ⟨Or.inr rfl, fun u hu => ?_⟩
  have same : u = ⟨none, asked "Question"⟩ := by
    rcases hu with hu | hu | hu
    · exact (Option.some.inj hu).symm
    · exact (Option.some.inj hu).symm
    · cases hu
  subst same
  refine ⟨_, rfl, fun part hpart => ?_⟩
  obtain rfl := List.mem_singleton.mp hpart
  exact ⟨.builtin .int, .builtin rfl, trivial⟩

theorem not_generable_loseOperation : ¬ Generable askDocuments ⟨∅, ∅⟩ loseOperation := by
  rintro ⟨_, messages⟩
  obtain ⟨m, hm, parts⟩ := messages ⟨none, asked "Loss"⟩ (Or.inl rfl)
  cases hm
  obtain ⟨r, stands, _⟩ := parts _ List.mem_cons_self
  cases stands with
  | element he => cases he

theorem exists_ofDocuments_askDocuments : ∃ i, ofDocuments askDocuments ⟨none, ∅, false⟩ = .ok i ∧
    i.graph = ⟨∅, ∅⟩ ∧ ∃ service ∈ i.services, service.portType = asked "P" := by
  have symbols : Schema.Symbols.ofDocuments askDocuments = .ok .empty := rfl
  have services : (BindingContext.of askDocuments ⟨∅, ∅⟩).services
      (⟨none, ∅, false⟩ : Choices).service =
        .ok (BindingContext.of askDocuments ⟨∅, ∅⟩).bindWithoutServices := rfl
  -- Each table is evaluated on its own; that of the messages is too large.
  have bindings : (BindingContext.of askDocuments ⟨∅, ∅⟩).declared.bindings.toList = [] := by
    show (firstOf askDocuments.bindings).toList = []
    cbv
  have names : (BindingContext.of askDocuments ⟨∅, ∅⟩).declared.portTypes.keys = [asked "P"] := by
    show (firstOf askDocuments.portTypes).keys = [asked "P"]
    cbv
  have portType : (BindingContext.of askDocuments ⟨∅, ∅⟩).declared.portTypes[asked "P"]? =
      some ⟨"P", [askOperation, loseOperation]⟩ := getElem?_firstOf ..
  have bare : ∃ service, service.portType = asked "P" ∧
      ((BindingContext.of askDocuments ⟨∅, ∅⟩).bindBare (asked "P")).value = some service := by
    simp only [BindingContext.bindBare, BindingContext.bindPortType, portType]
    exact ⟨_, rfl, rfl⟩
  obtain ⟨service, named, bound⟩ := bare
  obtain ⟨i, hi, graph, hservices⟩ := ofDocuments_of_stages symbols ofSymbols_empty services
  refine ⟨i, hi, graph, service, ?_, named⟩
  rw [hservices]
  simp only [BindingContext.bindWithoutServices, bindings, names]
  exact List.mem_filterMap.mpr ⟨some service, by simp [Bound.all, bound], rfl⟩

/-- The element that is missing makes one of two operations invalid, and is reported. -/
theorem operations_ofDocuments_ask : ∃ i, ofDocuments askDocuments ⟨none, ∅, false⟩ = .ok i ∧
    (∃ service ∈ i.services, ∃ ask lose, service.operations = [ask, lose] ∧
      ask.isValid ∧ ¬ lose.isValid) ∧
    ⟨asked "nothing", .element, "operation lose"⟩ ∈ i.diagnostics.unresolved := by
  obtain ⟨i, hi, graph, service, hs, named⟩ := exists_ofDocuments_askDocuments
  obtain ⟨p, hp, settled⟩ := (operations_ofDocuments hi).1 service hs
  rw [named] at hp
  obtain rfl : (⟨"P", [askOperation, loseOperation]⟩ : PortType) = p := Option.some.inj hp
  obtain ⟨ask, _, askSettled, rest, hops⟩ := List.forall₂_cons_left_iff.mp settled
  obtain ⟨lose, _, loseSettled, nothing, rfl⟩ := List.forall₂_cons_left_iff.mp rest
  obtain rfl := List.forall₂_nil_left_iff.mp nothing
  refine ⟨i, hi, ⟨service, hs, ask, lose, hops, ?_, ?_⟩, ?_⟩
  · rw [askSettled.valid, graph]
    exact generable_askOperation
  · rw [loseSettled.valid, graph]
    exact not_generable_loseOperation
  · have lost := loseSettled.reported.part ⟨none, asked "Loss"⟩ _ (Or.inl rfl) rfl _
      List.mem_cons_self
    rw [graph] at lost
    rcases lost with ⟨r, stands, resolved⟩ | ⟨missing, lacks, reported⟩
    · cases stands with
      | element he => cases he
    · cases lacks with
      | element _ => exact reported
      | typeOfElement he _ => cases he

end Interface

end SoapBindings
