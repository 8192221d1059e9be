import Mathlib
import SoapBindings.Proofs.Compilation

/-!
# No reference leads nowhere

A type is referred to by its identity alone, and nothing in the data makes that identity one of the
graph. That it is one holds from the declarations to the generator: what the graph of all
declarations refers to is in it, a part of an operation is bound to a type of it, and what is kept
after unused types are dropped refers to nothing that was dropped (`closed_ofDocuments`).
-/

set_option autoImplicit false

namespace SoapBindings

open Relation Schema

/-- The types that types refer to, and those that parts of the operations have, are in the graph. -/
structure TypeGraph.Links (g : TypeGraph) (operations : List BoundOperation) : Prop where
  types : g.Closed
  parts : ∀ op ∈ operations, ∀ id, .node id ∈ op.partTypes → id ∈ g.types

namespace Interface

variable {ds : Documents} {choices : Choices} {i : Interface}

/-- All operations, valid or not. -/
def operations (i : Interface) : List BoundOperation := i.services.flatMap (·.operations)

def validOperations (i : Interface) : List BoundOperation :=
  i.services.flatMap (·.validOperations)

theorem mem_operations_of_valid {op : BoundOperation} (h : op ∈ i.validOperations) :
    op ∈ i.operations := by
  obtain ⟨service, hs, hop⟩ := List.mem_flatMap.mp h
  exact List.mem_flatMap.mpr ⟨service, hs, (List.mem_filter.mp hop).1⟩

/-- Whatever a type that is kept refers to is kept. -/
theorem closed_pruned (closed : i.graph.Closed) : i.pruned.graph.Closed := by
  rintro a b ⟨n, hn, hb⟩
  obtain ⟨hn, root, hroot, path⟩ := getElem?_pruned.mp hn
  have refers : i.graph.Refers a b := ⟨n, hn, hb⟩
  exact mem_pruned.mpr ⟨closed a b refers, root, hroot, path.tail refers⟩

/-- Parts of operations that are not valid do not keep their types. -/
theorem links_pruned (h : i.graph.Links i.operations) :
    i.pruned.graph.Links i.pruned.validOperations := by
  refine ⟨closed_pruned h.types, ?_⟩
  intro op hop id hid
  obtain ⟨service, hs, hvalid⟩ := List.mem_flatMap.mp hop
  refine mem_pruned.mpr ⟨h.parts op (mem_operations_of_valid hop) id hid, id, ?_, .refl⟩
  exact mem_roots.mpr ⟨service, hs, op, hvalid, hid⟩

namespace Stages

variable {s : Symbols}

theorem links (stages : Stages ds choices i s) : i.graph.Links i.operations := by
  refine ⟨stages.closed, ?_⟩
  intro op hop id hid
  obtain ⟨service, hs, hop⟩ := List.mem_flatMap.mp hop
  exact stages.mem_of_part hs hop hid

/-- A node stands under the identity of the declaration that it was made of. -/
theorem getElem?_types (stages : Stages ds choices i s) {id : TypeId} {n : TypeNode} :
    i.graph.types[id]? = some n ↔ ∃ e ∈ TypeGraph.allEntries s,
      e.id = id ∧ TypeGraph.node s (AnonymousPaths.ofSymbols s) e = n := by
  obtain ⟨missed, hg⟩ := stages.graph
  obtain ⟨graph, _⟩ := TypeGraph.ofSymbols_eq_ok hg
  rw [graph]
  exact TypeGraph.getElem?_draft (AnonymousPaths.named_ofSymbols s)

end Stages

/-- Every node stands under its identity, and whatever a type, an element or a part of an operation
refers to is in the graph. Of the types that bindings are generated for, whether unused ones are
kept or not, and of the parts of valid operations the same is true, and their nodes are the same. -/
theorem closed_ofDocuments (h : ofDocuments ds choices = .ok i) :
    (∃ s, Symbols.ofDocuments ds = .ok s ∧ ∀ id n, i.graph.types[id]? = some n ↔
      ∃ e ∈ TypeGraph.allEntries s,
        e.id = id ∧ TypeGraph.node s (AnonymousPaths.ofSymbols s) e = n) ∧
    (∀ (name : QName) (e : ElementNode), i.graph.elements[name]? = some e →
      ∀ id, e.type = .node id → id ∈ i.graph.types) ∧
    i.graph.Links i.operations ∧
    ∀ settings : Settings, let kept := Compilation.keptOf settings i
      kept.graph.Links kept.validOperations ∧ kept.services = i.services ∧
        ∀ (id : TypeId) (n : TypeNode), kept.graph.types[id]? = some n →
          i.graph.types[id]? = some n := by
  obtain ⟨s, stages⟩ := ofDocuments_eq_ok h
  refine ⟨⟨s, stages.symbols, fun id n => stages.getElem?_types⟩, ?_, stages.links, ?_⟩
  · intro name e he id hid
    obtain ⟨missed, hg⟩ := stages.graph
    exact TypeGraph.mem_of_elements hg he hid
  · intro settings
    unfold Compilation.keptOf
    split
    · refine ⟨⟨stages.closed, ?_⟩, rfl, fun _ _ hn => hn⟩
      exact fun op hop => stages.links.parts op (mem_operations_of_valid hop)
    · exact ⟨links_pruned stages.links, rfl, fun id n hn => (getElem?_pruned.mp hn).1⟩

/-- The type that the only operation carries is kept. -/
theorem closed_ofDocuments_lackingDocuments :
    ∃ i, ofDocuments lackingDocuments noChoices = .ok i ∧
      .named typeName ∈ (Compilation.keptOf Compilation.plainSettings i).graph.types := by
  obtain ⟨i, hi, _, hservice⟩ := ofDocuments_lackingDocuments
  obtain ⟨_, _, _, kept⟩ := closed_ofDocuments hi
  obtain ⟨links, services, _⟩ := kept Compilation.plainSettings
  obtain ⟨op, hop, hpart⟩ := lackingOperation_valid
  refine ⟨i, hi, links.parts op ?_ _ hpart⟩
  exact List.mem_flatMap.mpr ⟨lackingService, services ▸ hservice, hop⟩

end Interface

end SoapBindings
