import SoapBindings.Proofs.Document.Bounds
import SoapBindings.Proofs.Interface.Namespaces

/-!
# The bounds of members

Bounds are checked where they are read, one declaration at a time; what a member has in the end is
a product of many. It is a range all the same: what the tables hold was read
(`Symbols.inRange_ofDocuments`), products of ranges are ranges, and the few bounds that no document
writes, those of attributes and of the items of an array, are (`isRange_of_mem_members`).
-/

set_option autoImplicit false

namespace SoapBindings

open Schema

/-- All bounds in the tables of documents that were read are ranges. -/
theorem Schema.Symbols.inRange_ofDocuments {ds : Documents} (read : ds.AreRead) {s : Symbols}
    (h : Symbols.ofDocuments ds = .ok s) : s.InRange := by
  have holds := holdsAll_of_ok h
  have own : ∀ d ∈ ds.inOrder, ∀ s ∈ d.schemas, s.InRange := by
    intro d hd s hs
    obtain ⟨_, _, _, hread⟩ := read d hd
    exact (Document.isRead_of_read hread s hs).inRange
  refine ⟨fun name d hd => ?_, fun name d hd => ?_, fun name d hd => ?_, fun name d hd => ?_,
    fun name d hd => ?_⟩
  · refine holds.types.forall (q := fun _ t => Schema.InRange t.bounds) ?_ hd
    intro d hd s hs e he
    obtain ⟨t, ht, he⟩ := List.mem_filterMap.mp he
    obtain ⟨name, _, rfl⟩ := Option.map_eq_some_iff.mp he
    exact (own d hd s hs).types t ht
  · refine holds.elements.forall (q := fun _ e => Schema.InRange e.bounds) ?_ hd
    intro d hd s hs e he
    obtain ⟨element, helement, rfl⟩ := List.mem_map.mp he
    exact (own d hd s hs).elements element helement
  · refine holds.attributes.forall (q := fun _ a => Schema.InRange a.bounds) ?_ hd
    intro d hd s hs e he
    obtain ⟨a, ha, rfl⟩ := List.mem_map.mp he
    exact (own d hd s hs).attributes a ha
  · refine holds.groups.forall (q := fun _ g => Schema.InRange g.group.bounds) ?_ hd
    intro d hd s hs e he
    obtain ⟨g, hg, rfl⟩ := List.mem_map.mp he
    exact (own d hd s hs).groups g hg
  · refine holds.attributeGroups.forall
      (q := fun _ g => Schema.InRange (attributesBounds g.attributes)) ?_ hd
    intro d hd s hs e he
    obtain ⟨g, hg, rfl⟩ := List.mem_map.mp he
    exact (own d hd s hs).attributeGroups g hg

namespace TypeGraph

variable {s : Symbols} {paths : AnonymousPaths} {e : TypeEntry} {p : Particle}

theorem inRange_of_mem_entries (h : s.InRange) (he : e ∈ entries s paths) :
    InRange e.decl.bounds := by
  rcases List.mem_append.mp he with he | he
  · obtain ⟨name, d, hd, rfl⟩ := mem_namedEntries.mp he
    exact h.types name d hd
  · obtain ⟨site, path, decl, origin, _, hdecl, _, rfl⟩ := mem_anonymousEntries.mp he
    rw [Symbols.inlineTypes_eq] at hdecl
    exact h.listed (site, decl) (mem_of_getElem?_ofList hdecl)

theorem isRange_of_mem_node (h : s.InRange) (he : e ∈ entries s paths)
    (hp : p ∈ (node s paths e).members) : p.occurs.IsRange := by
  have own := inRange_of_mem_entries h he
  cases hdecl : e.decl with
  | simple t =>
    simp only [node, hdecl, simpleKind] at hp
    split at hp
    · split at hp
      · cases hp
      · cases hp
    · cases hp
    · cases hp
  | complex t =>
    rw [hdecl, TypeDecl.bounds] at own
    simp only [node, hdecl] at hp
    rcases List.mem_append.mp hp with hp | hp
    · rcases particles_contentOf hp with ⟨u, _, rfl⟩ | ⟨l, hl, rfl⟩
      · trivial
      · exact h.piecesOf own (List.mem_append_left _ hl)
    · obtain ⟨l, hl, rfl⟩ := mem_particles.mp hp
      exact h.piecesOf own (List.mem_append_right _ hl)

/-- If documents were read and a graph is made of them, the least count of every member of every
type in it is not above the largest. -/
theorem isRange_of_mem_members {ds : Documents} {g : TypeGraph} {missed : References}
    (read : ds.AreRead) (symbols : Symbols.ofDocuments ds = .ok s)
    (graph : ofSymbols s = .ok (g, missed)) :
    ∀ (id : TypeId) (n : TypeNode), g.types[id]? = some n → ∀ p ∈ n.members, p.occurs.IsRange := by
  intro id n hn p hp
  rw [(ofSymbols_eq_ok graph).1] at hn
  obtain ⟨e, he, _, rfl⟩ := (getElem?_draft (AnonymousPaths.named_ofSymbols s)).mp hn
  exact isRange_of_mem_node (Symbols.inRange_ofDocuments read symbols) he hp

end TypeGraph

/-! ## A group that occurs as often as can be counted -/

namespace Interface

open Xml

/-- A type with any elements, at least two and at most three, in such a group. -/
def crowdedText : String :=
  "<schema xmlns=\"http://www.w3.org/2001/XMLSchema\" targetNamespace=\"urn:t\">" ++
    "<complexType name=\"T\"><sequence minOccurs=\"4294967295\" maxOccurs=\"4294967295\">" ++
    "<any minOccurs=\"2\" maxOccurs=\"3\"/></sequence></complexType></schema>"

def crowdedElement (name : String) (attributes : List Xml.Attribute) (children : List Element)
    (position : Nat) : Element :=
  ⟨some Namespaces.schema, name, attributes, children, "", position,
    [(none, Namespaces.schema)]⟩

def anyElement : Element :=
  crowdedElement "any" [⟨none, "minOccurs", "2"⟩, ⟨none, "maxOccurs", "3"⟩] [] 151

def crowdElement : Element :=
  crowdedElement "sequence"
    [⟨none, "minOccurs", "4294967295"⟩, ⟨none, "maxOccurs", "4294967295"⟩] [anyElement] 95

def crowdedTypeElement : Element :=
  crowdedElement "complexType" [⟨none, "name", "T"⟩] [crowdElement] 73

def crowdedRoot : Element :=
  crowdedElement "schema" [⟨none, "targetNamespace", "urn:t"⟩] [crowdedTypeElement] 0

def crowd : ModelGroup := ⟨.sequence, ⟨maxCount, .bounded maxCount⟩, [.any ⟨2, .bounded 3⟩]⟩

def crowdedType (content : Content) : ComplexType :=
  .mk (some "T") none false false content [] false none

theorem readModelGroup_crowd : readModelGroup borrowingContext crowdElement = pure crowd := by
  have item : addItem borrowingContext anyElement [] = pure [.any ⟨2, .bounded 3⟩] := by
    rw [addItem]
    rfl
  have unfolded : readModelGroup borrowingContext crowdElement =
      (addItem borrowingContext anyElement [] >>= pure) >>= fun items =>
        pure ⟨.sequence, ⟨maxCount, .bounded maxCount⟩, items⟩ := by
    rw [readModelGroup]
    rfl
  rw [unfolded, item, pure_bind, pure_bind, crowd]

theorem readComplexType_crowded :
    readComplexType borrowingContext crowdedTypeElement true =
      pure (crowdedType (.group crowd)) := by
  have content : addContent borrowingContext crowdElement (crowdedType .empty) =
      pure (crowdedType (.group crowd)) := by
    have unfolded : addContent borrowingContext crowdElement (crowdedType .empty) =
        (readModelGroup borrowingContext crowdElement >>= fun group =>
          pure (crowdedType (.group group))) := by
      rw [addContent]
      rfl
    rw [unfolded, readModelGroup_crowd, pure_bind]
  have unfolded : readComplexType borrowingContext crowdedTypeElement true =
      (addContent borrowingContext crowdElement (crowdedType .empty) >>= pure) := by
    rw [readComplexType]
    rfl
  rw [unfolded, content, pure_bind]

def crowdedDocuments : Documents :=
  ⟨[borrowingDocument (borrowingSchema (crowdedType (.group crowd))) []]⟩

theorem areRead_crowdedDocuments : crowdedDocuments.AreRead := by
  intro d hd
  obtain rfl := List.mem_singleton.mp hd
  have parse : Element.ofText crowdedText = .ok crowdedRoot := by cbv
  refine ⟨default, none, crowdedText.toUTF8, Document.read_eq_ok_iff.mpr
    ⟨crowdedText, crowdedRoot, Text.Utf8.decode?_toUTF8 _, parse, ?_⟩⟩
  have unfolded : Document.ofRoot default none crowdedRoot =
      ((readComplexType borrowingContext crowdedTypeElement true >>= fun type =>
        pure (borrowingSchema type)) >>= pure).run [] >>= fun r =>
          pure (borrowingDocument r.1 r.2.reverse) :=
    rfl
  rw [unfolded, readComplexType_crowded]
  rfl

def crowdedSymbols : Symbols :=
  let declared : Declared TypeDecl := ⟨.complex (crowdedType (.group crowd)), "urn:t", default⟩
  { Symbols.empty with types := Symbols.empty.types.insert borrowingName declared }

def crowdedGraph : TypeGraph :=
  TypeGraph.draft crowdedSymbols (AnonymousPaths.ofSymbols crowdedSymbols)

def crowdedParticle : Particle :=
  ⟨"any", none, .element, .builtin .anyType, ⟨maxCount, .bounded maxCount⟩, false, .byValue, none⟩

def crowdedNode : TypeNode where
  kind := .complex (.sequence [crowdedParticle]) [] false false
  base := none
  isAbstract := false
  documentation := none
  origin := default

def crowdedEntry : TypeEntry :=
  ⟨.named borrowingName, .complex (crowdedType (.group crowd)), .top .type borrowingName, default⟩

theorem getElem?_crowdedGraph :
    crowdedGraph.types[TypeId.named borrowingName]? = some crowdedNode := by
  have entries : TypeGraph.allEntries crowdedSymbols = [crowdedEntry] := by cbv
  have node : TypeGraph.node crowdedSymbols (AnonymousPaths.ofSymbols crowdedSymbols)
      crowdedEntry = crowdedNode := by cbv
  rw [crowdedGraph, TypeGraph.getElem?_draft (AnonymousPaths.named_ofSymbols crowdedSymbols),
    ← TypeGraph.allEntries, entries]
  exact ⟨crowdedEntry, List.mem_cons_self, rfl, node⟩

theorem ofSymbols_crowdedSymbols : TypeGraph.ofSymbols crowdedSymbols = .ok (crowdedGraph,
    TypeGraph.missing crowdedSymbols (AnonymousPaths.ofSymbols crowdedSymbols)) := by
  have noCycle : crowdedGraph.types.keys.findSome?
      (TypeGraph.cycleOf? crowdedGraph.types) = none := by cbv
  rw [crowdedGraph] at noCycle
  simp only [TypeGraph.ofSymbols, noCycle]
  rfl

/-- Both bounds of the element are products above the largest count, and both are that count. -/
theorem isRange_of_mem_members_crowded : ∃ s g missed, crowdedDocuments.AreRead ∧
    Symbols.ofDocuments crowdedDocuments = .ok s ∧ TypeGraph.ofSymbols s = .ok (g, missed) ∧
      ∃ (id : TypeId) (n : TypeNode), g.types[id]? = some n ∧ ∃ p ∈ n.members,
        p.occurs = ⟨maxCount, .bounded maxCount⟩ ∧ p.occurs.IsRange := by
  have symbols : Symbols.ofDocuments crowdedDocuments = .ok crowdedSymbols := rfl
  have all := TypeGraph.isRange_of_mem_members areRead_crowdedDocuments symbols
    ofSymbols_crowdedSymbols
  have member : crowdedParticle ∈ crowdedNode.members := by
    simp [TypeNode.members, TypeContent.particles, crowdedNode]
  exact ⟨crowdedSymbols, crowdedGraph, _, areRead_crowdedDocuments, symbols,
    ofSymbols_crowdedSymbols, .named borrowingName, crowdedNode, getElem?_crowdedGraph,
    crowdedParticle, member, rfl, all _ _ getElem?_crowdedGraph _ member⟩

end Interface

end SoapBindings
