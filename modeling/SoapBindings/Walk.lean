import SoapBindings.Tables

/-!
# Walks along arrows

A finite set of nodes, each with the nodes that its arrows lead to, in order. Two questions are
asked of it: which nodes can be reached from some start, and in which order a depth-first walk over
all nodes leaves them. Both walks take a node out of the arrows when they come to it, so the arrows
left over bound what remains to be done.
-/

set_option autoImplicit false

namespace SoapBindings

/-- The nodes that the arrows of each node lead to. -/
abbrev Arrows (α : Type) [Ord α] := Std.ExtTreeMap α (List α)

namespace Arrows

variable {α : Type} [Ord α] [Std.TransOrd α]

/-- Adds to `found` the pending nodes and all nodes that arrows lead to from there. -/
def reachFrom (arrows : Arrows α) (found : Std.ExtTreeSet α) : List α → Std.ExtTreeSet α
  | [] => found
  | a :: pending =>
    match h : arrows[a]? with
    | some next =>
      have : (arrows.erase a).size < arrows.size := size_erase_lt_of_getElem? h
      reachFrom (arrows.erase a) (found.insert a) (next ++ pending)
    | none => reachFrom arrows (found.insert a) pending
termination_by pending => (arrows.size, pending.length)

/-- The nodes that can be reached from some starts, which are among them. -/
def reach (arrows : Arrows α) (starts : List α) : Std.ExtTreeSet α :=
  reachFrom arrows ∅ starts

/-- A step of a depth-first walk. -/
inductive Step (α : Type) where
  | enter (a : α)
  | leave (a : α)

/-- The nodes that are left while some steps are taken. -/
def leaving (arrows : Arrows α) : List (Step α) → List α
  | [] => []
  | .leave a :: steps => a :: leaving arrows steps
  | .enter a :: steps =>
    match h : arrows[a]? with
    | some next =>
      have : (arrows.erase a).size < arrows.size := size_erase_lt_of_getElem? h
      leaving (arrows.erase a) (next.map .enter ++ .leave a :: steps)
    | none => leaving arrows steps
termination_by steps => (arrows.size, steps.length)

/-- All nodes in the order in which a depth-first walk leaves them. The walk starts with the
smallest node and goes on with the smallest that it has not come to. -/
def leavingOrder (arrows : Arrows α) : List α := leaving arrows (arrows.keys.map .enter)

end Arrows

end SoapBindings
