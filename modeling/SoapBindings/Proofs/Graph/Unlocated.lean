import SoapBindings.Graph.Building
import SoapBindings.Proofs.Schema.Unlocated

/-!
# Graphs without places

Declarations without their places give the graph that they gave with them, except that the nodes do
not know where they come from, and they refer to the same in vain (`ofSymbols_unlocated`). So two
sets of documents that declare the same have graphs that differ in nothing else.
-/

set_option autoImplicit false

namespace SoapBindings

open Schema

variable {s : Symbols} {paths : AnonymousPaths}

/-- The node without the document that it comes from. -/
def TypeNode.unlocated (n : TypeNode) : TypeNode := { n with origin := default }

def TypeEntry.unlocated (e : TypeEntry) : TypeEntry := { e with origin := default }

def TypeGraph.unlocated (g : TypeGraph) : TypeGraph :=
  { g with types := g.types.map fun _ n => n.unlocated }

namespace AnonymousPaths

@[simp] theorem starts_unlocated : starts s.unlocated = starts s := by
  unfold starts
  simp only [Symbols.types_unlocated, Symbols.elements_unlocated, toList_unlocatedTable,
    List.flatMap_map, List.map_map, Symbols.uses_unlocated, Declared.decl_unlocated,
    Function.comp_def]

theorem walk_unlocated (unnamed : Std.ExtTreeMap Site TypeDecl) (paths : AnonymousPaths)
    (todo : List Enclosure) :
    walk s.unlocated unnamed paths todo = walk s unnamed paths todo := by
  fun_induction walk s unnamed paths todo with
  | case1 unnamed paths => rw [walk]
  | case2 unnamed paths site wish rest absent ih =>
    rw [walk]
    split
    · exact ih
    · next decl here =>
      rw [absent] at here
      cases here
  | case3 unnamed paths site wish rest decl here _ path ih =>
    rw [walk]
    split
    · next absent =>
      rw [here] at absent
      cases absent
    · next decl' here' =>
      rw [here] at here'
      cases here'
      simp only [Symbols.uses_unlocated]
      exact ih

@[simp] theorem ofSymbols_unlocated : ofSymbols s.unlocated = ofSymbols s := by
  unfold ofSymbols
  rw [walk_unlocated, starts_unlocated, Symbols.inlineTypes_unlocated]

end AnonymousPaths

namespace TypeGraph

/-! ## What names refer to -/

@[simp] theorem resolveType_unlocated (name : QName) :
    resolveType s.unlocated name = resolveType s name := by
  unfold resolveType
  rw [Symbols.types_unlocated, contains_unlocatedTable]

@[simp] theorem resolve_unlocated (u : Use) : resolve s.unlocated paths u = resolve s paths u := by
  cases u with
  | named r => exact resolveType_unlocated r.name
  | builtin _ | missing _ | inline _ _ => rfl

@[simp] theorem unresolved?_unlocated (u : Use) : unresolved? s.unlocated u = unresolved? s u := by
  cases u with
  | named r => simp only [unresolved?, resolveType_unlocated]
  | builtin _ | missing _ | inline _ _ => rfl

@[simp] theorem isComplexName_unlocated (name : QName) :
    isComplexName s.unlocated name = isComplexName s name := by
  unfold isComplexName
  rw [resolveType_unlocated, Symbols.types_unlocated, getElem?_unlocatedTable]
  cases s.types[name]? with
  | none => rfl
  | some d =>
    obtain ⟨decl, ns, locator⟩ := d
    rw [Option.map_some]
    cases decl with
    | simple t | complex t => cases resolveType s name <;> rfl

/-! ## Nodes -/

@[simp] theorem particles_unlocated (pieces : List Piece) :
    particles s.unlocated paths pieces = particles s paths pieces := by
  have same : particle s.unlocated paths = particle s paths := by
    funext l
    unfold particle
    rw [resolve_unlocated]
  unfold particles
  rw [same]

theorem baseOf_unlocated (t : ComplexType) : baseOf s.unlocated t = baseOf s t := by
  simp only [baseOf, baseType, resolveType_unlocated, isComplexName_unlocated]

theorem contentOf_unlocated (e : TypeEntry) (t : ComplexType) :
    contentOf s.unlocated paths e.unlocated t = contentOf s paths e t := by
  have same : resolve s.unlocated paths = resolve s paths := funext resolve_unlocated
  simp only [contentOf, TypeEntry.unlocated, isComplexName_unlocated, resolveType_unlocated, same,
    particles_unlocated, Symbols.elementsOf_unlocated]

theorem simpleKind_unlocated (e : TypeEntry) (t : SimpleType) :
    simpleKind s.unlocated paths e.unlocated t = simpleKind s paths e t := by
  simp only [simpleKind, TypeEntry.unlocated, resolve_unlocated]

theorem node_unlocated (e : TypeEntry) :
    node s.unlocated paths e.unlocated = (node s paths e).unlocated := by
  have decl : e.unlocated.decl = e.decl := rfl
  unfold node
  rw [decl]
  cases hdecl : e.decl with
  | simple t =>
    dsimp only
    rw [simpleKind_unlocated]
    rfl
  | complex t =>
    dsimp only
    rw [contentOf_unlocated, baseOf_unlocated, Symbols.attributesOf_unlocated, particles_unlocated]
    rfl

theorem missingIn_unlocated (e : TypeEntry) :
    missingIn s.unlocated e.unlocated = missingIn s e := by
  have same : unresolved? s.unlocated = unresolved? s := funext unresolved?_unlocated
  unfold missingIn
  rw [same]
  exact congrArg (List.filterMap (unresolved? s)) (Symbols.uses_unlocated ..)

/-! ## Graphs -/

theorem entries_unlocated :
    entries s.unlocated paths = (entries s paths).map (·.unlocated) := by
  have named : namedEntries s.unlocated = (namedEntries s).map (·.unlocated) := by
    unfold namedEntries
    rw [Symbols.types_unlocated, toList_unlocatedTable, List.map_map, List.map_map]
    rfl
  have anonymous :
      anonymousEntries s.unlocated paths = (anonymousEntries s paths).map (·.unlocated) := by
    unfold anonymousEntries
    rw [List.map_filterMap, Symbols.inlineTypes_unlocated]
    dsimp only
    congr 1
    funext ⟨site, path⟩
    rw [Symbols.locator?_unlocated]
    cases s.inlineTypes[site]? with
    | none => rfl
    | some decl =>
      cases s.locator? site with
      | none => rfl
      | some origin => rfl
  unfold entries
  rw [named, anonymous, List.map_append]

theorem ofList_map {α β : Type} (entries : List (TypeId × α)) (f : α → β) :
    Std.ExtTreeMap.ofList (entries.map fun e => (e.1, f e.2)) =
      (Std.ExtTreeMap.ofList entries).map fun _ a => f a := by
  -- Said for any table that has been filled before, as the fold hands it on.
  have more : ∀ table : Std.ExtTreeMap TypeId α,
      (entries.map fun e => (e.1, f e.2)).foldl (fun table e => table.insert e.1 e.2)
        (table.map fun _ a => f a) =
      (entries.foldl (fun table e => table.insert e.1 e.2) table).map fun _ a => f a := by
    induction entries with
    | nil => exact fun table => rfl
    | cons e entries ih =>
      intro table
      rw [List.map_cons, List.foldl_cons, List.foldl_cons, insert_map]
      exact ih (table.insert e.1 e.2)
  rw [Std.ExtTreeMap.ofList_eq_foldl, Std.ExtTreeMap.ofList_eq_foldl, ← more ∅]
  rfl

theorem draft_unlocated : draft s.unlocated paths = (draft s paths).unlocated := by
  have types : (entries s.unlocated paths).map (fun e => (e.id, node s.unlocated paths e)) =
      ((entries s paths).map fun e => (e.id, node s paths e)).map fun e => (e.1, e.2.unlocated) := by
    rw [entries_unlocated, List.map_map, List.map_map]
    refine List.map_congr_left fun e _ => ?_
    exact congrArg (e.id, ·) (node_unlocated e)
  have elements : (s.unlocated.elements.map fun name d =>
      elementNode s.unlocated paths name d.decl) =
      s.elements.map fun name d => elementNode s paths name d.decl := by
    rw [Symbols.elements_unlocated, unlocatedTable, Std.ExtTreeMap.map_map]
    congr 1
    funext name d
    unfold elementNode
    rw [resolve_unlocated]
    rfl
  unfold draft TypeGraph.unlocated
  rw [types, elements, ofList_map]

theorem missing_unlocated : missing s.unlocated paths = missing s paths := by
  have inTypes : (entries s.unlocated paths).flatMap (missingIn s.unlocated) =
      (entries s paths).flatMap (missingIn s) := by
    rw [entries_unlocated, List.flatMap_map]
    congr 1
    exact funext missingIn_unlocated
  unfold missing
  rw [inTypes, Symbols.elements_unlocated, toList_unlocatedTable, List.filterMap_map]
  congr 3
  funext e
  exact unresolved?_unlocated _

/-- Bases are followed in the same way where places are forgotten. -/
theorem cycleThrough_unlocated (start : TypeId) (remaining : TypeTable) (chain : List TypeId)
    (current : TypeId) :
    cycleThrough start (remaining.map fun _ n => n.unlocated) chain current =
      cycleThrough start remaining chain current := by
  fun_induction cycleThrough start remaining chain current with
  | case1 remaining chain => rw [cycleThrough, if_pos rfl]
  | case2 remaining chain current other absent =>
    rw [cycleThrough, if_neg other]
    split
    · rfl
    · next n hn =>
      rw [Std.ExtTreeMap.getElem?_map, absent] at hn
      cases hn
  | case3 remaining chain current other n hn _ noBase =>
    rw [cycleThrough, if_neg other]
    split
    · rfl
    · next n' hn' =>
      rw [Std.ExtTreeMap.getElem?_map, hn] at hn'
      cases hn'
      have noBase : baseId? n.unlocated = none := noBase
      simp only [noBase]
  | case4 remaining chain current other n hn _ base hbase ih =>
    rw [cycleThrough, if_neg other]
    split
    · next absent =>
      rw [Std.ExtTreeMap.getElem?_map, hn] at absent
      cases absent
    · next n' hn' =>
      rw [Std.ExtTreeMap.getElem?_map, hn] at hn'
      cases hn'
      have hbase : baseId? n.unlocated = some base := hbase
      simp only [hbase, erase_map]
      exact ih

theorem cycleOf?_unlocated (types : TypeTable) (id : TypeId) :
    cycleOf? (types.map fun _ n => n.unlocated) id = cycleOf? types id := by
  unfold cycleOf?
  rw [Std.ExtTreeMap.getElem?_map]
  cases types[id]? with
  | none => rfl
  | some n =>
    have same : cycleThrough id (types.map fun _ n => n.unlocated) [id] =
        cycleThrough id types [id] := funext fun current => cycleThrough_unlocated ..
    rw [same]
    rfl

/-- The graph is the same, or the same bases form a cycle. -/
theorem ofSymbols_unlocated : ofSymbols s.unlocated =
    (ofSymbols s).map (Prod.map TypeGraph.unlocated id) := by
  unfold ofSymbols
  have cycles : (draft s (AnonymousPaths.ofSymbols s)).unlocated.types.keys.findSome?
      (cycleOf? (draft s (AnonymousPaths.ofSymbols s)).unlocated.types) =
      (draft s (AnonymousPaths.ofSymbols s)).types.keys.findSome?
        (cycleOf? (draft s (AnonymousPaths.ofSymbols s)).types) := by
    unfold TypeGraph.unlocated
    dsimp only
    rw [Std.ExtTreeMap.keys_map]
    congr 1
    exact funext fun id => cycleOf?_unlocated ..
  rw [AnonymousPaths.ofSymbols_unlocated]
  dsimp only
  rw [draft_unlocated, missing_unlocated, cycles]
  split
  · rfl
  · rfl

end TypeGraph

end SoapBindings
