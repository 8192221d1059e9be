import SoapBindings.Graph.Basic
import SoapBindings.Walk

/-!
# Reachable and tainted types

A type reaches the types that it refers to, those that they refer to, and so on. A type from which a
name can be reached that no document declares is tainted: nothing useful can be generated for it.
-/

set_option autoImplicit false

namespace SoapBindings.TypeGraph

/-- From each type to the types that it refers to. -/
def uses (g : TypeGraph) : Arrows TypeId :=
  g.types.map fun _ node => node.references.filterMap (·.node?)

/-- The types that can be reached from some roots, the roots among them. -/
def reachable (g : TypeGraph) (roots : List TypeId) : Std.ExtTreeSet TypeId := g.uses.reach roots

/-- From each type to the types that refer to it. -/
def usedBy (g : TypeGraph) : Arrows TypeId :=
  g.types.foldl (fun arrows user node =>
    (node.references.filterMap (·.node?)).foldl (fun arrows used =>
      arrows.insert used (user :: arrows.getD used [])) arrows) ∅

/-- The types from which an unresolved name can be reached. -/
def tainted (g : TypeGraph) : Std.ExtTreeSet TypeId :=
  g.usedBy.reach ((g.types.toList.filter fun (_, node) => !node.unresolved.isEmpty).map (·.1))

end SoapBindings.TypeGraph
