import Mathlib
import SoapBindings.Proofs.Graph.Unlocated
import SoapBindings.Proofs.Interface.Tainting

/-!
# The order of documents

Of several equal declarations the first is kept, so the tables depend on the order of the documents,
but only in the places that they name. No type is found and no path is made from a place: what the
documents declare decides whether there is a graph and what is in it, but for the origins of its
nodes (`Builds.of_same`). Documents in another order declare the same (`builds_of_perm`).
-/

set_option autoImplicit false

namespace SoapBindings.Interface

open Schema TypeGraph

/-- The documents give the graph, and this is what it refers to in vain. -/
def Builds (ds : Documents) (g : TypeGraph) (missed : References) : Prop :=
  ∃ s, Symbols.ofDocuments ds = .ok s ∧ TypeGraph.ofSymbols s = .ok (g, missed)

/-- The documents have the same schemas, in whatever order and wherever they are. -/
def SameSchemas (ds ds' : Documents) : Prop :=
  ∀ d, d ∈ ds.schemas.map (·.2) ↔ d ∈ ds'.schemas.map (·.2)

variable {ds ds' : Documents} {g g' : TypeGraph} {missed missed' : References} {s s' : Symbols}

theorem sameSchemas_of_perm (perm : ds.inOrder.Perm ds'.inOrder) : SameSchemas ds ds' := by
  have schemas : ds.schemas.Perm ds'.schemas := perm.flatMap_right _
  exact fun d => (schemas.map _).mem_iff

theorem SameSchemas.symm (same : SameSchemas ds ds') : SameSchemas ds' ds := fun d => (same d).symm

/-- Whether there are tables is decided by the declarations alone, and so is what is in them. -/
theorem exists_symbols_of_same (same : SameSchemas ds ds') (h : Symbols.ofDocuments ds = .ok s) :
    ∃ s', Symbols.ofDocuments ds' = .ok s' ∧ s.unlocated = s'.unlocated := by
  have agree := Symbols.exists_ofDocuments_iff.mp ⟨s, h⟩
  have agree' : ∀ name kind, ¬ Symbols.DifferIn ds'.schemas name kind :=
    fun name kind differ => agree name kind (.mono differ fun d => (same d).mpr)
  obtain ⟨s', h'⟩ := Symbols.exists_ofDocuments_iff.mpr agree'
  exact ⟨s', h', (Symbols.holdsAll_of_ok h).unlocated_eq (Symbols.holdsAll_of_ok h') same⟩

theorem Builds.of_same (same : SameSchemas ds ds') (h : Builds ds g missed) :
    ∃ g', Builds ds' g' missed ∧ g.unlocated = g'.unlocated := by
  obtain ⟨s, hs, hg⟩ := h
  obtain ⟨s', hs', unlocated⟩ := exists_symbols_of_same same hs
  have graphs : (TypeGraph.ofSymbols s).map (Prod.map TypeGraph.unlocated id) =
      (TypeGraph.ofSymbols s').map (Prod.map TypeGraph.unlocated id) := by
    rw [← ofSymbols_unlocated, ← ofSymbols_unlocated, unlocated]
  rw [hg] at graphs
  cases hg' : TypeGraph.ofSymbols s' with
  | error cycle =>
    rw [hg'] at graphs
    cases graphs
  | ok built =>
    obtain ⟨g', missed'⟩ := built
    rw [hg'] at graphs
    obtain ⟨same, rfl⟩ := Prod.mk.inj (Except.ok.inj graphs)
    exact ⟨g', ⟨s', hs', hg'⟩, same⟩

theorem Builds.unique (h : Builds ds g missed) (h' : Builds ds g' missed') :
    g = g' ∧ missed = missed' := by
  obtain ⟨s, hs, hg⟩ := h
  obtain ⟨s', hs', hg'⟩ := h'
  rw [hs] at hs'
  cases hs'
  rw [hg] at hg'
  exact Prod.mk.inj (Except.ok.inj hg')

/-- Nodes that are the same without their origins differ in nothing else. -/
theorem eq_of_unlocated {n n' : TypeNode} (h : n.unlocated = n'.unlocated) :
    n' = { n with origin := n'.origin } := by
  obtain ⟨kind, base, isAbstract, documentation, origin⟩ := n
  obtain ⟨kind', base', isAbstract', documentation', origin'⟩ := n'
  unfold TypeNode.unlocated at h
  cases h
  rfl

theorem keys_of_unlocated (h : g.unlocated = g'.unlocated) : g.types.keys = g'.types.keys := by
  have keys := congrArg (·.types.keys) h
  simp only [TypeGraph.unlocated, Std.ExtTreeMap.keys_map] at keys
  exact keys

/-- Documents in another order give tables or not as before, and a graph or not as before; the graph
has the same types, whose nodes differ at most in their origins, the same elements, and refers to
the same in vain. -/
theorem builds_of_perm (perm : ds.inOrder.Perm ds'.inOrder) :
    ((∃ s, Symbols.ofDocuments ds = .ok s) ↔ ∃ s, Symbols.ofDocuments ds' = .ok s) ∧
    ((∃ g missed, Builds ds g missed) ↔ ∃ g missed, Builds ds' g missed) ∧
    ∀ g missed g' missed', Builds ds g missed → Builds ds' g' missed' →
      g'.types.keys = g.types.keys ∧
      (∀ (id : TypeId) (n n' : TypeNode), g.types[id]? = some n → g'.types[id]? = some n' →
        n' = { n with origin := n'.origin }) ∧
      g'.elements = g.elements ∧ missed' = missed := by
  have same := sameSchemas_of_perm perm
  refine ⟨⟨?_, ?_⟩, ⟨?_, ?_⟩, ?_⟩
  · rintro ⟨s, h⟩
    obtain ⟨s', h', _⟩ := exists_symbols_of_same same h
    exact ⟨s', h'⟩
  · rintro ⟨s, h⟩
    obtain ⟨s', h', _⟩ := exists_symbols_of_same same.symm h
    exact ⟨s', h'⟩
  · rintro ⟨g, missed, h⟩
    obtain ⟨g', h', _⟩ := h.of_same same
    exact ⟨g', missed, h'⟩
  · rintro ⟨g, missed, h⟩
    obtain ⟨g', h', _⟩ := h.of_same same.symm
    exact ⟨g', missed, h'⟩
  · intro g missed g' missed' h h'
    obtain ⟨g'', h'', unlocated⟩ := h.of_same same
    obtain ⟨rfl, rfl⟩ := h''.unique h'
    have types : (g.types.map fun _ n => n.unlocated) = g''.types.map fun _ n => n.unlocated :=
      congrArg TypeGraph.types unlocated
    refine ⟨(keys_of_unlocated unlocated).symm, ?_, (congrArg TypeGraph.elements unlocated).symm,
      rfl⟩
    intro id n n' hn hn'
    have found := congrArg (·[id]?) types
    simp only [Std.ExtTreeMap.getElem?_map, hn, hn', Option.map_some] at found
    exact eq_of_unlocated (Option.some.inj found)

/-! ## Two documents with one schema -/

/-- The documents, and once more each of them from elsewhere. -/
def repeated (ds : Documents) (elsewhere : Locator) : Documents :=
  ⟨ds.inOrder ++ ds.inOrder.map fun d => { d with locator := elsewhere }⟩

theorem sameSchemas_repeated (ds : Documents) (elsewhere : Locator) :
    SameSchemas ds (repeated ds elsewhere) := by
  intro d
  simp only [Documents.schemas, repeated, List.mem_map, List.mem_flatMap, List.mem_append]
  constructor
  · rintro ⟨x, ⟨doc, hdoc, hx⟩, rfl⟩
    exact ⟨x, ⟨doc, Or.inl hdoc, hx⟩, rfl⟩
  · rintro ⟨_, ⟨_, hdoc | ⟨doc, hdoc, rfl⟩, schema, hschema, rfl⟩, rfl⟩
    · exact ⟨_, ⟨_, hdoc, schema, hschema, rfl⟩, rfl⟩
    · exact ⟨_, ⟨doc, hdoc, schema, hschema, rfl⟩, rfl⟩

/-- A document at another place. -/
def elsewhere : Locator := ⟨⟨"http", some ⟨"", .name "h", none⟩, .segments ["other"], none⟩⟩

/-- Whichever of the two documents is read first, the type that both declare is there. -/
theorem builds_of_perm_repeated : ∃ g missed,
    Builds ⟨(repeated lackingDocuments elsewhere).inOrder.reverse⟩ g missed ∧
      .named typeName ∈ g.types.keys := by
  have first : Builds lackingDocuments lackingGraph _ :=
    ⟨lackingSymbols, symbols_lackingDocuments, ofSymbols_lackingSymbols⟩
  obtain ⟨g, h, unlocated⟩ := first.of_same (sameSchemas_repeated lackingDocuments elsewhere)
  have perm : (repeated lackingDocuments elsewhere).inOrder.Perm
      (Documents.mk (repeated lackingDocuments elsewhere).inOrder.reverse).inOrder :=
    (List.reverse_perm _).symm
  obtain ⟨_, both, agree⟩ := builds_of_perm perm
  obtain ⟨g', missed', h'⟩ := both.mp ⟨g, _, h⟩
  refine ⟨g', missed', h', ?_⟩
  rw [(agree _ _ _ _ h h').1, ← keys_of_unlocated unlocated]
  exact Std.ExtTreeMap.mem_keys.mpr mem_lackingGraph

end SoapBindings.Interface
