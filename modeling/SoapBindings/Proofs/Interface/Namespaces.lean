import SoapBindings.Cpp.TypeClasses
import SoapBindings.Proofs.Document.Namespaces
import SoapBindings.Proofs.Interface.Tainting
import SoapBindings.Proofs.NamespaceCodes
import SoapBindings.Proofs.Schema.Merging
import SoapBindings.Proofs.Services.Validity
import SoapBindings.Proofs.Text.Utf8

/-!
# The namespaces that have codes

Codes are given out for the namespaces of the documents and for those of types and elements. A
member may have its name from anywhere: from its own declaration, from an element, an attribute or
a group of another document, from a name that nothing declares, or from a built-in namespace. Only
the last two need not be namespaces of a document (`TypeGraph.named_of_mem_members`), so every
other name in an interface has a code (`Interface.covered_ofDocuments`).
-/

set_option autoImplicit false

namespace SoapBindings

open Schema

/-- All documents were read. -/
def Documents.AreRead (ds : Documents) : Prop :=
  ∀ d ∈ ds.inOrder, ∃ l including content, Document.read l including content = .ok d

theorem Documents.mem_namespaces {ds : Documents} {ns : String} : ns ∈ ds.namespaces ↔
    ∃ d ∈ ds.inOrder, ns = d.targetNamespace ∨ ∃ s ∈ d.schemas, ns = s.targetNamespace := by
  simp only [namespaces, Std.ExtTreeSet.mem_toList, Std.ExtTreeSet.mem_ofList,
    List.contains_iff_mem, List.mem_flatMap, List.mem_cons, List.mem_map, @eq_comm _ _ ns]

/-! ## Tables -/

namespace Schema

variable {ds : Documents}

/-- What all schemas declare is declared in the table. -/
theorem Holds.forall {α : Type} {table : NameTable (Declared α)}
    {of : Declarations → List (String × α)} (h : Holds table (declaredIn of ds.schemas))
    {q : String → α → Prop}
    (each : ∀ d ∈ ds.inOrder, ∀ s ∈ d.schemas, ∀ e ∈ of s, q s.targetNamespace e.2)
    {name : QName} {declared : Declared α} (found : table[name]? = some declared) :
    q name.ns declared.decl := by
  obtain ⟨_, listed, he⟩ := mem_declaredIn.mp ((h name declared.decl).mp ⟨declared, found, rfl⟩)
  obtain ⟨_, among, rfl⟩ := List.mem_map.mp listed
  obtain ⟨d, hd, located⟩ := List.mem_flatMap.mp among
  obtain ⟨s, hs, rfl⟩ := List.mem_map.mp located
  obtain ⟨e, he, same⟩ := List.mem_map.mp he
  rw [Prod.mk.injEq] at same
  rw [← same.1, ← same.2]
  exact each d hd s hs e he

/-- Names in the tables are declared in the namespaces of the documents. -/
theorem Symbols.declaresIn_ofDocuments (read : ds.AreRead) {s : Symbols}
    (h : Symbols.ofDocuments ds = .ok s) : s.DeclaresIn (· ∈ ds.namespaces) := by
  have holds := holdsAll_of_ok h
  have target : ∀ d ∈ ds.inOrder, ∀ s ∈ d.schemas, s.targetNamespace ∈ ds.namespaces :=
    fun d hd s hs => Documents.mem_namespaces.mpr ⟨d, hd, Or.inr ⟨s, hs, rfl⟩⟩
  have own : ∀ d ∈ ds.inOrder, ∀ s ∈ d.schemas, s.DeclaresIn (· ∈ ds.namespaces) := by
    intro d hd s hs
    obtain ⟨_, _, _, hread⟩ := read d hd
    exact (Document.isRead_of_read hread s hs).isOwn _ (target d hd s hs)
  refine ⟨fun name d hd => ?_, fun name d hd => ?_, fun name d hd => ?_, fun name d hd => ?_,
    fun name d hd => ?_⟩
  · refine holds.types.forall (q := fun _ t => t.DeclaresIn (· ∈ ds.namespaces)) ?_ hd
    intro d hd s hs e he
    obtain ⟨t, ht, he⟩ := List.mem_filterMap.mp he
    obtain ⟨name, _, rfl⟩ := Option.map_eq_some_iff.mp he
    exact (own d hd s hs).types t ht
  · refine holds.elements.forall (q := fun ns e => ns ∈ ds.namespaces ∧
      e.DeclaresIn (· ∈ ds.namespaces)) ?_ hd
    intro d hd s hs e he
    obtain ⟨element, helement, rfl⟩ := List.mem_map.mp he
    exact ⟨target d hd s hs, (own d hd s hs).elements element helement⟩
  · refine holds.attributes.forall (q := fun _ a => a.DeclaresIn (· ∈ ds.namespaces)) ?_ hd
    intro d hd s hs e he
    obtain ⟨a, ha, rfl⟩ := List.mem_map.mp he
    exact (own d hd s hs).attributes a ha
  · refine holds.groups.forall (q := fun _ g => g.group.DeclaresIn (· ∈ ds.namespaces)) ?_ hd
    intro d hd s hs e he
    obtain ⟨g, hg, rfl⟩ := List.mem_map.mp he
    exact (own d hd s hs).groups g hg
  · refine holds.attributeGroups.forall
      (q := fun _ g => AttributesDeclareIn (· ∈ ds.namespaces) g.attributes) ?_ hd
    intro d hd s hs e he
    obtain ⟨g, hg, rfl⟩ := List.mem_map.mp he
    exact (own d hd s hs).attributeGroups g hg

end Schema

/-! ## Members -/

/-- The member is an attribute of a built-in namespace that no document declares; such attributes
are known without a declaration. -/
def Particle.KnownUndeclared (ds : Documents) (m : Particle) : Prop :=
  m.kind = .attr ∧ m.type = .builtin .string ∧
    ∃ ns, m.ns = some ns ∧ Namespaces.isBuiltin ns ∧ ns ∉ ds.namespaces

namespace TypeGraph

variable {p : String → Prop} {s : Symbols} {paths : AnonymousPaths} {e : TypeEntry}

theorem declaresIn_of_mem_entries (h : s.DeclaresIn p) (he : e ∈ entries s paths) :
    e.decl.DeclaresIn p := by
  rcases List.mem_append.mp he with he | he
  · obtain ⟨name, d, hd, rfl⟩ := mem_namedEntries.mp he
    exact h.types name d hd
  · obtain ⟨site, path, decl, origin, _, hdecl, _, rfl⟩ := mem_anonymousEntries.mp he
    rw [Symbols.inlineTypes_eq] at hdecl
    exact h.listed (site, decl) (mem_of_getElem?_ofList hdecl)

/-- Where the name of a member comes from. -/
theorem named_of_mem_members (h : s.DeclaresIn p) (he : e ∈ entries s paths) {m : Particle}
    (hm : m ∈ (node s paths e).members) : (∀ ns, m.ns = some ns → p ns) ∨
      (∃ name, m.type = .unresolved name) ∨
      m.kind = .attr ∧ m.type = .builtin .string ∧
        ∃ ns, m.ns = some ns ∧ Namespaces.isBuiltin ns := by
  have own := declaresIn_of_mem_entries h he
  cases hdecl : e.decl with
  | simple t =>
    simp only [node, hdecl, simpleKind] at hm
    split at hm
    · split at hm
      · cases hm
      · cases hm
    · cases hm
    · cases hm
  | complex t =>
    rw [hdecl, TypeDecl.DeclaresIn] at own
    have named {l : Leaf} (hl : .leaf l ∈ s.piecesOf e.id.toText e.place t) :
        (∀ ns, l.ns = some ns → p ns) ∨ (∃ name, resolve s paths l.use = .unresolved name) ∨
          l.kind = .attr ∧ resolve s paths l.use = .builtin .string ∧
            ∃ ns, l.ns = some ns ∧ Namespaces.isBuiltin ns := by
      cases h.piecesOf own hl with
      | declared hns => exact Or.inl hns
      | missing r use => exact Or.inr (Or.inl ⟨r.name, by rw [use, resolve]⟩)
      | builtin ns hns known kind use =>
        exact Or.inr (Or.inr ⟨kind, by rw [use, resolve], ns, hns, known⟩)
    simp only [node, hdecl] at hm
    rcases List.mem_append.mp hm with hm | hm
    · rcases particles_contentOf hm with ⟨u, _, rfl⟩ | ⟨l, hl, rfl⟩
      · left
        intro ns hns
        cases hns
      · exact named (List.mem_append_left _ hl)
    · obtain ⟨l, hl, rfl⟩ := mem_particles.mp hm
      exact named (List.mem_append_right _ hl)

end TypeGraph

/-! ## Codes -/

/-- The namespace has a code, and classes are generated with this code and no other. -/
def NamespaceCodes.Covers (codes : NamespaceCodes) (ns : String) : Prop :=
  ∃ code, codes.code? ns = some code ∧
    ∀ c : Cpp.ClassContext, c.codes = codes → c.code ns = code

namespace Interface

variable {ds : Documents} {choices : Choices} {i : Interface}

/-- Whatever is in the interface has its namespace covered, but for members of which no declaration
is known. -/
structure Covered (ds : Documents) (i : Interface) : Prop where
  types : ∀ id ∈ i.graph.types, i.codes.Covers id.ns
  elements : ∀ name ∈ i.graph.elements, i.codes.Covers name.ns
  members : ∀ (id : TypeId) (n : TypeNode), i.graph.types[id]? = some n → ∀ m ∈ n.members,
    (∀ name, m.type ≠ .unresolved name) → ¬ m.KnownUndeclared ds →
      ∀ ns, m.ns = some ns → i.codes.Covers ns
  services : ∀ s ∈ i.services, i.codes.Covers s.ns

theorem covers_of_mem (h : ofDocuments ds choices = .ok i) {ns : String}
    (hns : ns ∈ namespaces ds i.graph) : i.codes.Covers ns := by
  rw [codes_ofDocuments h]
  obtain ⟨code, found⟩ := NamespaceCodes.exists_code?_iff.mpr hns
  refine ⟨code, found, fun c hc => ?_⟩
  rw [Cpp.ClassContext.code, hc, found, Option.getD_some]

theorem covers_of_document (h : ofDocuments ds choices = .ok i) {ns : String}
    (hns : ns ∈ ds.namespaces) : i.codes.Covers ns :=
  covers_of_mem h (by simp [namespaces, hns])

theorem covered_ofDocuments (read : ds.AreRead) (h : ofDocuments ds choices = .ok i) :
    i.Covered ds where
  types id hid := by
    have key := List.mem_map_of_mem (f := TypeId.ns) (Std.ExtTreeMap.mem_keys.mpr hid)
    exact covers_of_mem h (by simp [namespaces, key])
  elements name hname := by
    have key := List.mem_map_of_mem (f := QName.ns) (Std.ExtTreeMap.mem_keys.mpr hname)
    exact covers_of_mem h (by simp [namespaces, key])
  members id n hn m hm resolved declared ns hns := by
    obtain ⟨s, stages⟩ := ofDocuments_eq_ok h
    obtain ⟨missed, hg⟩ := stages.graph
    obtain ⟨hgraph, _⟩ := TypeGraph.ofSymbols_eq_ok hg
    rw [hgraph] at hn
    obtain ⟨e, he, _, rfl⟩ :=
      (TypeGraph.getElem?_draft (AnonymousPaths.named_ofSymbols s)).mp hn
    have own := Symbols.declaresIn_ofDocuments read stages.symbols
    rcases TypeGraph.named_of_mem_members own he hm with
      known | ⟨name, unresolved⟩ | ⟨kind, type, other, hother, builtin⟩
    · exact covers_of_document h (known ns hns)
    · exact absurd unresolved (resolved name)
    · by_cases among : ns ∈ ds.namespaces
      · exact covers_of_document h among
      · obtain rfl := Option.some.inj (hns.symm.trans hother)
        exact absurd ⟨kind, type, ns, hns, builtin, among⟩ declared
  services s hs := by
    obtain ⟨symbols, stages⟩ := ofDocuments_eq_ok h
    obtain ⟨bound, hb, hvalue⟩ := stages.services
    obtain ⟨d, hd, hns⟩ := BindingContext.qualified_of_mem_services hb (hvalue ▸ hs)
    exact covers_of_document h (Documents.mem_namespaces.mpr ⟨d, hd, Or.inl hns⟩)

/-! ## An element that nothing declares -/

section

open Xml

/-- A type with an attribute of its own and an element of a namespace that no document has. -/
def borrowingText : String :=
  "<schema xmlns=\"http://www.w3.org/2001/XMLSchema\" xmlns:u=\"urn:u\"" ++
    " targetNamespace=\"urn:t\">" ++
    "<complexType name=\"T\"><sequence><element ref=\"u:x\"/></sequence>" ++
    "<attribute name=\"a\" form=\"qualified\" type=\"string\"/></complexType></schema>"

/-- An element of the schema, in which two namespaces are bound. -/
def borrowingElement (name : String) (attributes : List Xml.Attribute) (children : List Element)
    (position : Nat) : Element :=
  ⟨some Namespaces.schema, name, attributes, children, "", position,
    [(some "u", "urn:u"), (none, Namespaces.schema)]⟩

def borrowedElement : Element := borrowingElement "element" [⟨none, "ref", "u:x"⟩] [] 121

def sequenceElement : Element := borrowingElement "sequence" [] [borrowedElement] 111

def ownAttributeElement : Element :=
  borrowingElement "attribute"
    [⟨none, "name", "a"⟩, ⟨none, "form", "qualified"⟩, ⟨none, "type", "string"⟩] [] 152

def borrowingTypeElement : Element :=
  borrowingElement "complexType" [⟨none, "name", "T"⟩] [sequenceElement, ownAttributeElement] 89

def borrowingRoot : Element :=
  borrowingElement "schema" [⟨none, "targetNamespace", "urn:t"⟩] [borrowingTypeElement] 0

def borrowedItem : GroupItem := .elementRef ⟨"urn:u", "x"⟩ .once

def ownAttribute : AttributeItem :=
  .own ⟨"a", some "urn:t", some (.named ⟨Namespaces.schema, "string"⟩), .optional, none, none⟩

def borrowingType (content : Content) (attributes : List AttributeItem) : ComplexType :=
  .mk (some "T") none false false content attributes false none

def borrowingGroup : ModelGroup := ⟨.sequence, .once, [borrowedItem]⟩

def borrowingWhole : ComplexType := borrowingType (.group borrowingGroup) [ownAttribute]

def borrowingSchema (type : ComplexType) : Declarations :=
  ⟨"urn:t", .unqualified, .unqualified, [], [.complex type], [], [], [], []⟩

def borrowingDocument (schema : Declarations) (skipped : List Skipped) : Document :=
  ⟨default, .schema, "urn:t", [], [schema], [], [], [], [], skipped⟩

def borrowingContext : Context := ⟨"urn:t", false, .unqualified, .unqualified⟩

theorem readModelGroup_borrowing :
    readModelGroup borrowingContext sequenceElement = pure borrowingGroup := by
  have element : readElementItem borrowingContext borrowedElement = pure borrowedItem := by
    rw [readElementItem]
    rfl
  have item : addItem borrowingContext borrowedElement [] = pure [borrowedItem] := by
    have unfolded : addItem borrowingContext borrowedElement [] =
        (readElementItem borrowingContext borrowedElement >>= fun item => pure [item]) := by
      rw [addItem]
      rfl
    rw [unfolded, element, pure_bind]
  have unfolded : readModelGroup borrowingContext sequenceElement =
      (addItem borrowingContext borrowedElement [] >>= pure) >>= fun items =>
        pure ⟨.sequence, .once, items⟩ := by
    rw [readModelGroup]
    rfl
  rw [unfolded, item, pure_bind, pure_bind, borrowingGroup]

theorem readComplexType_borrowing :
    readComplexType borrowingContext borrowingTypeElement true = pure borrowingWhole := by
  have content : addContent borrowingContext sequenceElement (borrowingType .empty []) =
      pure (borrowingType (.group borrowingGroup) []) := by
    have unfolded : addContent borrowingContext sequenceElement (borrowingType .empty []) =
        (readModelGroup borrowingContext sequenceElement >>= fun group =>
          pure (borrowingType (.group group) [])) := by
      rw [addContent]
      rfl
    rw [unfolded, readModelGroup_borrowing, pure_bind]
  have attributes : addContent borrowingContext ownAttributeElement
      (borrowingType (.group borrowingGroup) []) = pure borrowingWhole := by
    rw [addContent]
    rfl
  have unfolded : readComplexType borrowingContext borrowingTypeElement true =
      (addContent borrowingContext sequenceElement (borrowingType .empty []) >>= fun type =>
        addContent borrowingContext ownAttributeElement type >>= pure) := by
    rw [readComplexType]
    rfl
  rw [unfolded, content, pure_bind, attributes, pure_bind]

/-- The whole of the text. -/
def borrowingDocuments : Documents :=
  ⟨[borrowingDocument (borrowingSchema borrowingWhole) []]⟩

theorem areRead_borrowingDocuments : borrowingDocuments.AreRead := by
  intro d hd
  obtain rfl := List.mem_singleton.mp hd
  have parse : Element.ofText borrowingText = .ok borrowingRoot := by cbv
  refine ⟨default, none, borrowingText.toUTF8, Document.read_eq_ok_iff.mpr
    ⟨borrowingText, borrowingRoot, Text.Utf8.decode?_toUTF8 _, parse, ?_⟩⟩
  have unfolded : Document.ofRoot default none borrowingRoot =
      ((readComplexType borrowingContext borrowingTypeElement true >>= fun type =>
        pure (borrowingSchema type)) >>= pure).run [] >>= fun r =>
          pure (borrowingDocument r.1 r.2.reverse) :=
    rfl
  rw [unfolded, readComplexType_borrowing]
  rfl

def borrowingName : QName := ⟨"urn:t", "T"⟩

def borrowingSymbols : Symbols :=
  { Symbols.empty with
    types := Symbols.empty.types.insert borrowingName ⟨.complex borrowingWhole, "urn:t", default⟩ }

def borrowingGraph : TypeGraph :=
  TypeGraph.draft borrowingSymbols (AnonymousPaths.ofSymbols borrowingSymbols)

def borrowingEntry : TypeEntry :=
  ⟨.named borrowingName, .complex borrowingWhole, .top .type borrowingName, default⟩

def borrowedParticle : Particle :=
  ⟨"x", some "urn:u", .element, .unresolved ⟨"urn:u", "x"⟩, .once, false, .byValue, none⟩

def ownParticle : Particle :=
  ⟨"a", some "urn:t", .attr, .builtin .string, ⟨0, .bounded 1⟩, false, .byValue, none⟩

def borrowingNode : TypeNode where
  kind := .complex (.sequence [borrowedParticle]) [ownParticle] false false
  base := none
  isAbstract := false
  documentation := none
  origin := default

theorem getElem?_borrowingGraph {id : TypeId} {n : TypeNode} :
    borrowingGraph.types[id]? = some n ↔ id = .named borrowingName ∧ n = borrowingNode := by
  have entries : TypeGraph.allEntries borrowingSymbols = [borrowingEntry] := by cbv
  have node : TypeGraph.node borrowingSymbols (AnonymousPaths.ofSymbols borrowingSymbols)
      borrowingEntry = borrowingNode := by cbv
  rw [borrowingGraph, TypeGraph.getElem?_draft (AnonymousPaths.named_ofSymbols borrowingSymbols),
    ← TypeGraph.allEntries, entries]
  constructor
  · rintro ⟨e, he, rfl, rfl⟩
    obtain rfl := List.mem_singleton.mp he
    exact ⟨rfl, node⟩
  · rintro ⟨rfl, rfl⟩
    exact ⟨borrowingEntry, List.mem_cons_self, rfl, node⟩

theorem ofDocuments_borrowingDocuments :
    ∃ i, ofDocuments borrowingDocuments noChoices = .ok i ∧ i.graph = borrowingGraph := by
  have symbols : Symbols.ofDocuments borrowingDocuments = .ok borrowingSymbols := rfl
  have noCycle : borrowingGraph.types.keys.findSome?
      (TypeGraph.cycleOf? borrowingGraph.types) = none := by cbv
  have graph : TypeGraph.ofSymbols borrowingSymbols = .ok (borrowingGraph,
      TypeGraph.missing borrowingSymbols (AnonymousPaths.ofSymbols borrowingSymbols)) := by
    rw [borrowingGraph] at noCycle
    simp only [TypeGraph.ofSymbols, noCycle]
    rfl
  have none : (BindingContext.of borrowingDocuments borrowingGraph).services noChoices.service =
      .ok ⟨[], []⟩ := by cbv
  obtain ⟨i, hi, hgraph, _⟩ := ofDocuments_of_stages symbols graph none
  exact ⟨i, hi, hgraph⟩

/-- The type and its own attribute have a code. -/
theorem covered_ofDocuments_borrowing : ∃ i, borrowingDocuments.AreRead ∧
    ofDocuments borrowingDocuments noChoices = .ok i ∧ i.Covered borrowingDocuments ∧
      ∃ code, i.codes.code? "urn:t" = some code := by
  obtain ⟨i, hi, graph⟩ := ofDocuments_borrowingDocuments
  have covered := covered_ofDocuments areRead_borrowingDocuments hi
  have there : i.graph.types[TypeId.named borrowingName]? = some borrowingNode :=
    graph ▸ getElem?_borrowingGraph.mpr ⟨rfl, rfl⟩
  have declared : ¬ ownParticle.KnownUndeclared borrowingDocuments := by
    rintro ⟨_, _, ns, same, builtin, _⟩
    cases same
    exact absurd builtin (by decide)
  have resolved : ∀ name, ownParticle.type ≠ .unresolved name := by
    intro name same
    cases same
  have member : ownParticle ∈ borrowingNode.members := by simp [TypeNode.members, borrowingNode]
  obtain ⟨code, found, _⟩ :=
    covered.members _ _ there ownParticle member resolved declared "urn:t" rfl
  exact ⟨i, areRead_borrowingDocuments, hi, covered, code, found⟩

/-- The namespace of the element that it borrows is one of a member, and has no code. -/
theorem not_covers_borrowed : ∃ (i : Interface) (id : TypeId) (n : TypeNode) (m : Particle),
    borrowingDocuments.AreRead ∧ ofDocuments borrowingDocuments noChoices = .ok i ∧
      i.graph.types[id]? = some n ∧ m ∈ n.members ∧ m.ns = some "urn:u" ∧
        i.codes.code? "urn:u" = none := by
  obtain ⟨i, hi, graph⟩ := ofDocuments_borrowingDocuments
  refine ⟨i, .named borrowingName, borrowingNode, borrowedParticle, areRead_borrowingDocuments, hi,
    ?_, ?_, rfl, ?_⟩
  · exact graph ▸ getElem?_borrowingGraph.mpr ⟨rfl, rfl⟩
  · simp [TypeNode.members, TypeContent.particles, borrowingNode]
  · have listed : namespaces borrowingDocuments borrowingGraph =
        ["urn:t", "urn:t", Namespaces.schema] := by cbv
    rw [Option.eq_none_iff_forall_ne_some]
    intro code found
    rw [codes_ofDocuments hi, graph, listed] at found
    have mem := NamespaceCodes.exists_code?_iff.mp ⟨code, found⟩
    exact absurd mem (by decide)

end

end Interface

end SoapBindings
