import Mathlib.Order.Bounds.Basic
import SoapBindings.Proofs.Graph.Reachability
import SoapBindings.Proofs.Interface.Ordering

/-!
# What is kept of an interface

A set of types suffices for an interface if it holds the types of all parts that valid operations
carry and, with each type, every type that this one refers to (`Interface.Suffices`). Of all sets
that suffice, the types that are left when unused ones are dropped are the least
(`isLeast_pruned`). Nothing else of the interface is touched, and to drop unused types once more
drops nothing.
-/

set_option autoImplicit false

namespace SoapBindings

open Relation

/-- The input, the output or one of the faults. -/
def BoundOperation.Carries (op : BoundOperation) (m : BoundMessage) : Prop :=
  op.input = some m ∨ op.output = some m ∨ m ∈ op.faults

theorem BoundOperation.mem_messages {op : BoundOperation} {m : BoundMessage} :
    m ∈ op.messages ↔ op.Carries m := by
  simp [messages, Carries, Option.mem_toList]

namespace Interface

variable {i : Interface} {a b id : TypeId}

/-- The part has the type, which is one of the graph, and a valid operation carries the part. -/
structure UsedByPart (i : Interface) (id : TypeId) : Prop where
  mem : id ∈ i.graph.types
  part : ∃ service ∈ i.services, ∃ op ∈ service.operations, op.isValid ∧
    ∃ m, op.Carries m ∧ ∃ p ∈ m.parts, p.type = .node id

/-- Bindings for the valid operations can do with these types. -/
structure Suffices (i : Interface) (kept : Set TypeId) : Prop where
  parts : ∀ id, i.UsedByPart id → id ∈ kept
  /-- It does not matter how the other type is referred to. -/
  closed : ∀ a ∈ kept, ∀ n, i.graph.types[a]? = some n → ∀ b, n.RefersTo (.node b) → b ∈ kept

/-- The roots are the types of parts of valid operations. -/
theorem usedByPart_iff : i.UsedByPart id ↔ id ∈ i.graph.types ∧ id ∈ i.roots := by
  have roots : id ∈ i.roots ↔ ∃ service ∈ i.services, ∃ op ∈ service.operations, op.isValid ∧
      ∃ m, op.Carries m ∧ ∃ p ∈ m.parts, p.type = .node id := by
    rw [mem_roots]
    simp only [BoundService.validOperations, List.mem_filter, BindingContext.mem_partTypes,
      BoundOperation.mem_messages, and_assoc]
  rw [roots]
  exact ⟨fun h => ⟨h.mem, h.part⟩, fun ⟨mem, part⟩ => ⟨mem, part⟩⟩

/-- A path that starts in the graph and ends in it never leaves it: only types of the graph refer
to others. -/
theorem root_mem_of_path (path : ReflTransGen i.graph.Refers a b) (hb : b ∈ i.graph.types) :
    a ∈ i.graph.types := by
  cases path using ReflTransGen.head_induction_on with
  | refl => exact hb
  | head step _ =>
    obtain ⟨n, hn, _⟩ := step
    exact mem_of_getElem? hn

theorem suffices_pruned (closed : i.graph.Closed) :
    i.Suffices {id | id ∈ i.pruned.graph.types} := by
  constructor
  · intro id used
    obtain ⟨mem, root⟩ := usedByPart_iff.mp used
    exact mem_pruned.mpr ⟨mem, id, root, .refl⟩
  · intro a ha n hn b hb
    obtain ⟨_, root, hroot, path⟩ := mem_pruned.mp ha
    have step : i.graph.Refers a b := TypeGraph.refers_iff_refersTo.mpr ⟨n, hn, hb⟩
    exact mem_pruned.mpr ⟨closed a b step, root, hroot, path.tail step⟩

/-- Whatever a root reaches is in every set that suffices. -/
theorem Suffices.mem_of_path {kept : Set TypeId} (h : i.Suffices kept)
    (start : i.UsedByPart a) (path : ReflTransGen i.graph.Refers a b) : b ∈ kept := by
  induction path with
  | refl => exact h.parts a start
  | tail _ step ih =>
    obtain ⟨n, hn, refers⟩ := TypeGraph.refers_iff_refersTo.mp step
    exact h.closed _ ih n hn _ refers

/-- All types on a path from a root keep their nodes, so the path is still there afterwards. -/
theorem path_pruned (hroot : a ∈ i.roots) (path : ReflTransGen i.graph.Refers a b) :
    ReflTransGen i.pruned.graph.Refers a b := by
  induction path with
  | refl => exact .refl
  | tail before step ih =>
    obtain ⟨n, hn, refers⟩ := step
    exact ih.tail ⟨n, getElem?_pruned.mpr ⟨hn, a, hroot, before⟩, refers⟩

theorem pruned_pruned (i : Interface) : i.pruned.pruned = i.pruned := by
  have types : i.pruned.pruned.graph.types = i.pruned.graph.types := by
    apply Std.ExtTreeMap.ext_getElem?
    intro id
    apply Option.ext
    intro n
    rw [getElem?_pruned]
    refine and_iff_left_of_imp fun hn => ?_
    -- The services are the same, hence the roots are.
    obtain ⟨_, root, hroot, path⟩ := getElem?_pruned.mp hn
    exact ⟨root, hroot, path_pruned hroot path⟩
  rw [pruned, pruned] at types ⊢
  simp only at types ⊢
  rw [types]

/-- What is left when unused types are dropped is the least that suffices. What is kept keeps its
node, everything but types stays, and to do it twice is to do it once. -/
theorem isLeast_pruned (closed : i.graph.Closed) :
    IsLeast {kept | i.Suffices kept} {id | id ∈ i.pruned.graph.types} ∧
      (∀ (id : TypeId) (n : TypeNode), i.pruned.graph.types[id]? = some n →
        i.graph.types[id]? = some n) ∧
      i.pruned.graph.elements = i.graph.elements ∧ i.pruned.codes = i.codes ∧
      i.pruned.services = i.services ∧ i.pruned.diagnostics = i.diagnostics ∧
      i.pruned.pruned = i.pruned := by
  refine ⟨⟨suffices_pruned closed, ?_⟩, ?_, rfl, rfl, rfl, rfl, pruned_pruned i⟩
  · intro kept suffice id hid
    obtain ⟨mem, root, hroot, path⟩ := mem_pruned.mp hid
    exact suffice.mem_of_path (usedByPart_iff.mpr ⟨root_mem_of_path path mem, hroot⟩) path
  · exact fun id n hn => (getElem?_pruned.mp hn).1

/-! ## Two types that an operation needs and one that it does not -/

open OrderedGraph

theorem refers_threeHolders (h : threeHolders.Refers a b) :
    (a = idA ∧ b = idB) ∨ (a = idB ∧ b = idA) ∨ (a = idC ∧ b = idC) := by
  obtain ⟨n, hn, hb⟩ := h
  rcases holder_of_getElem? hn with ⟨rfl, rfl⟩ | ⟨rfl, rfl⟩ | ⟨rfl, rfl⟩
  · exact Or.inl ⟨rfl, TypeRef.node.inj (List.mem_singleton.mp hb)⟩
  · exact Or.inr (Or.inl ⟨rfl, TypeRef.node.inj (List.mem_singleton.mp hb)⟩)
  · exact Or.inr (Or.inr ⟨rfl, TypeRef.node.inj (List.mem_singleton.mp hb)⟩)

theorem closed_threeHolders : threeHolders.Closed := by
  intro a b h
  rcases refers_threeHolders h with ⟨_, rfl⟩ | ⟨_, rfl⟩ | ⟨_, rfl⟩
  · exact Std.ExtTreeMap.mem_iff_contains.mpr (by cbv)
  · exact Std.ExtTreeMap.mem_iff_contains.mpr (by cbv)
  · exact Std.ExtTreeMap.mem_iff_contains.mpr (by cbv)

/-- `A`, which the operation carries, and `B`, which `A` holds, suffice. -/
theorem suffices_usingA : usingA.Suffices {idA, idB} := by
  constructor
  · intro id used
    obtain ⟨_, root⟩ := usedByPart_iff.mp used
    rw [roots_usingA] at root
    exact Or.inl (List.mem_singleton.mp root)
  · intro a ha n hn b hb
    have step : threeHolders.Refers a b := TypeGraph.refers_iff_refersTo.mpr ⟨n, hn, hb⟩
    rcases refers_threeHolders step with ⟨_, rfl⟩ | ⟨_, rfl⟩ | ⟨rfl, _⟩
    · exact Or.inr rfl
    · exact Or.inl rfl
    · exact absurd ha (by decide)

/-- `C` is dropped and its node with it. -/
theorem isLeast_pruned_usingA : usingA.graph.Closed ∧ idC ∈ usingA.graph.types ∧
    {id | id ∈ usingA.pruned.graph.types} ⊆ ({idA, idB} : Set TypeId) ∧
    usingA.pruned.pruned = usingA.pruned := by
  obtain ⟨least, _, _, _, _, _, again⟩ := isLeast_pruned (i := usingA) closed_threeHolders
  exact ⟨closed_threeHolders, Std.ExtTreeMap.mem_iff_contains.mpr (by cbv),
    least.2 suffices_usingA, again⟩

end Interface

end SoapBindings
