import SoapBindings.Interface
import SoapBindings.Proofs.Graph.References
import SoapBindings.Proofs.Services.Validity

/-!
# Interfaces of documents

`Interface.ofDocuments` in its three stages (`ofDocuments_eq_ok`), and what they give together: the
graph is closed, and a part of a valid operation has a built-in type or one of the graph from which
no unresolved name can be reached (`type_of_validOperation`).

Without unused types what is kept are the types that parts of valid operations reach (`mem_pruned`).
None of these is tainted, so nothing that they refer to is missing, and what they refer to is kept
with them (`complete_pruned`).
-/

set_option autoImplicit false

namespace SoapBindings.Interface

open Relation Schema

variable {ds : Documents} {choices : Choices} {i : Interface}

/-- The stages behind an interface. -/
structure Stages (ds : Documents) (choices : Choices) (i : Interface) (s : Symbols) : Prop where
  symbols : Symbols.ofDocuments ds = .ok s
  graph : ∃ missed, TypeGraph.ofSymbols s = .ok (i.graph, missed)
  services : ∃ bound, (BindingContext.of ds i.graph).services choices.service = .ok bound ∧
    i.services = bound.value

theorem ofDocuments_eq_ok (h : ofDocuments ds choices = .ok i) : ∃ s, Stages ds choices i s := by
  rw [ofDocuments] at h
  cases hs : Symbols.ofDocuments ds with
  | error conflict =>
    rw [hs] at h
    cases h
  | ok s =>
    cases hg : TypeGraph.ofSymbols s with
    | error cycle =>
      simp only [hs, hg, Except.mapError, bind, Except.bind] at h
      cases h
    | ok built =>
      obtain ⟨graph, missed⟩ := built
      cases hb : (BindingContext.of ds graph).services choices.service with
      | error e =>
        simp only [hs, hg, hb, Except.mapError, bind, Except.bind] at h
        cases h
      | ok bound =>
        simp only [hs, hg, hb, Except.mapError, bind, Except.bind] at h
        cases h
        exact ⟨s, hs, ⟨missed, hg⟩, ⟨bound, hb, rfl⟩⟩

theorem codes_ofDocuments (h : ofDocuments ds choices = .ok i) :
    i.codes = .ofNamespaces (namespaces ds i.graph) choices.wishes := by
  obtain ⟨s, stages⟩ := ofDocuments_eq_ok h
  obtain ⟨missed, hg⟩ := stages.graph
  obtain ⟨bound, hb, _⟩ := stages.services
  simp only [ofDocuments, stages.symbols, hg, hb, Except.mapError, bind, Except.bind] at h
  exact (congrArg Interface.codes (Except.ok.inj h)).symm

/-- The stages make an interface. -/
theorem ofDocuments_of_stages {s : Symbols} {g : TypeGraph} {missed : References}
    {bound : Bound (List BoundService)} (hs : Symbols.ofDocuments ds = .ok s)
    (hg : TypeGraph.ofSymbols s = .ok (g, missed))
    (hb : (BindingContext.of ds g).services choices.service = .ok bound) :
    ∃ i, ofDocuments ds choices = .ok i ∧ i.graph = g ∧ i.services = bound.value := by
  simp only [ofDocuments, hs, hg, hb, Except.mapError, bind, Except.bind]
  exact ⟨_, rfl, rfl, rfl⟩

namespace Stages

variable {s : Symbols}

theorem closed (stages : Stages ds choices i s) : i.graph.Closed := by
  obtain ⟨missed, hg⟩ := stages.graph
  exact TypeGraph.closed_ofSymbols hg

theorem isBound (stages : Stages ds choices i s) {service : BoundService}
    (hs : service ∈ i.services) {op : BoundOperation} (hop : op ∈ service.operations) :
    (BindingContext.of ds i.graph).IsBound op := by
  obtain ⟨bound, hb, hvalue⟩ := stages.services
  rw [hvalue] at hs
  exact BindingContext.binds_of_mem_services hb hs op hop

/-- Every type of a part is a type of the graph, or built in, or unresolved. -/
theorem mem_of_part (stages : Stages ds choices i s) {service : BoundService}
    (hs : service ∈ i.services) {op : BoundOperation} (hop : op ∈ service.operations)
    {id : TypeId} (hid : .node id ∈ op.partTypes) : id ∈ i.graph.types := by
  obtain ⟨m, hm, p, hp, htype⟩ := BindingContext.mem_partTypes.mp hid
  obtain ⟨part, rfl⟩ := BindingContext.exists_part (stages.isBound hs hop) hm hp
  obtain ⟨missed, hg⟩ := stages.graph
  exact BindingContext.mem_of_partType
    (fun name e he id hid => TypeGraph.mem_of_elements hg he hid) htype

/-- A part of a valid operation has a built-in type or an untainted one. -/
theorem type_of_validOperation (stages : Stages ds choices i s) {service : BoundService}
    (hs : service ∈ i.services) {op : BoundOperation} (hop : op ∈ service.validOperations)
    {r : TypeRef} (hr : r ∈ op.partTypes) :
    (∃ b, r = .builtin b) ∨ ∃ id, r = .node id ∧ id ∉ i.graph.tainted := by
  obtain ⟨hop, valid⟩ := List.mem_filter.mp hop
  obtain ⟨m, hm, p, hp, rfl⟩ := BindingContext.mem_partTypes.mp hr
  exact BindingContext.type_of_isValid (stages.isBound hs hop) valid hm hp

end Stages

/-! ## Without unused types -/

variable {id : TypeId}

theorem mem_roots : id ∈ i.roots ↔
    ∃ service ∈ i.services, ∃ op ∈ service.validOperations, .node id ∈ op.partTypes := by
  rw [roots, Std.ExtTreeSet.mem_toList, Std.ExtTreeSet.mem_ofList, List.contains_iff_mem,
    TypeGraph.mem_filterMap_node?]
  simp only [List.mem_flatMap]

theorem getElem?_pruned {n : TypeNode} : i.pruned.graph.types[id]? = some n ↔
    i.graph.types[id]? = some n ∧ ∃ root ∈ i.roots, ReflTransGen i.graph.Refers root id := by
  rw [← TypeGraph.mem_reachable, pruned, Std.ExtTreeMap.getElem?_filter', Option.filter_eq_some_iff,
    Std.ExtTreeSet.contains_iff_mem]

theorem mem_pruned : id ∈ i.pruned.graph.types ↔
    id ∈ i.graph.types ∧ ∃ root ∈ i.roots, ReflTransGen i.graph.Refers root id := by
  constructor
  · intro h
    obtain ⟨n, hn⟩ := exists_getElem?_of_mem h
    obtain ⟨hn, path⟩ := getElem?_pruned.mp hn
    exact ⟨mem_of_getElem? hn, path⟩
  · rintro ⟨h, path⟩
    obtain ⟨n, hn⟩ := exists_getElem?_of_mem h
    exact mem_of_getElem? (getElem?_pruned.mpr ⟨hn, path⟩)

namespace Stages

variable {s : Symbols}

/-- The types that parts of valid operations reach are not tainted. -/
theorem untainted_of_path (stages : Stages ds choices i s) {root : TypeId} (hroot : root ∈ i.roots)
    (path : ReflTransGen i.graph.Refers root id) : id ∉ i.graph.tainted := by
  intro tainted
  obtain ⟨service, hs, op, hop, hpart⟩ := mem_roots.mp hroot
  rcases stages.type_of_validOperation hs hop hpart with ⟨b, hb⟩ | ⟨root, heq, untainted⟩
  · cases hb
  · cases heq
    exact untainted (TypeGraph.mem_tainted_of_path path tainted)

theorem complete_pruned (stages : Stages ds choices i s) : i.pruned.graph.Complete := by
  intro a n ha r hr
  obtain ⟨hn, root, hroot, path⟩ := getElem?_pruned.mp ha
  -- An unresolved name in `a` would taint the root that leads to `a`.
  have resolved : ¬ i.graph.HasUnresolved a := fun h =>
    stages.untainted_of_path hroot path (TypeGraph.mem_tainted.mpr ⟨a, .refl, h⟩)
  have provided := stages.closed.provides hn resolved hr
  cases r with
  | node b => exact mem_pruned.mpr ⟨provided, root, hroot, path.tail ⟨n, hn, hr⟩⟩
  | builtin _ | unresolved _ => exact provided

/-- The types of all parts of valid operations are kept. -/
theorem provides_pruned (stages : Stages ds choices i s) {service : BoundService}
    (hs : service ∈ i.services) {op : BoundOperation} (hop : op ∈ service.validOperations)
    {r : TypeRef} (hr : r ∈ op.partTypes) : i.pruned.graph.Provides r := by
  rcases stages.type_of_validOperation hs hop hr with ⟨b, rfl⟩ | ⟨root, rfl, _⟩
  · trivial
  · exact mem_pruned.mpr ⟨stages.mem_of_part hs (List.mem_filter.mp hop).1 hr,
      root, mem_roots.mpr ⟨service, hs, op, hop, hr⟩, .refl⟩

end Stages

end SoapBindings.Interface
