import SoapBindings.Diagnostics
import SoapBindings.Graph.Building
import SoapBindings.NamespaceCodes
import SoapBindings.Services.Binding

/-!
# Interfaces

What a set of documents describes: its types, its services, and a code for each namespace.
Conflicting declarations, cycles of bases and a wanted service that does not exist are errors;
everything else that is wrong is only reported.

Types that no valid operation uses may be dropped before bindings are generated.
-/

set_option autoImplicit false

namespace SoapBindings

structure Interface where
  graph : TypeGraph
  codes : NamespaceCodes
  services : List BoundService
  diagnostics : Diagnostics

namespace Interface

inductive Error where
  | conflict (conflict : Schema.Conflict)
  | inheritanceCycle (cycle : InheritanceCycle)
  | serviceNotFound (error : ServiceNotFound)
  deriving DecidableEq, Repr

def Error.message : Error → String
  | conflict e => e.message
  | inheritanceCycle e => e.message
  | serviceNotFound e => e.message

/-- What the user decides about an interface. -/
structure Choices where
  /-- The only service that is wanted. -/
  service : Option String
  /-- Codes for namespaces. -/
  wishes : NamespaceCodes.Wishes
  /-- Known types are to be listed if names are missing. -/
  helpOnMissing : Bool

/-- The namespaces that get a code. -/
def namespaces (ds : Documents) (graph : TypeGraph) : List String :=
  ds.namespaces ++ graph.types.keys.map (·.ns) ++ graph.elements.keys.map (·.ns) ++
    [Namespaces.schema]

/-- The operations that are left out. -/
def invalidOperations (services : List BoundService) : List InvalidOperation :=
  services.flatMap fun s =>
    (s.operations.filter (!·.isValid)).map fun op => ⟨s.service, op.name, op.problems⟩

def ofDocuments (ds : Documents) (choices : Choices) : Except Error Interface := do
  let symbols ← (Schema.Symbols.ofDocuments ds).mapError .conflict
  let (graph, missing) ← (TypeGraph.ofSymbols symbols).mapError .inheritanceCycle
  let bound ← ((BindingContext.of ds graph).services choices.service).mapError .serviceNotFound
  return {
    graph := graph
    codes := .ofNamespaces (namespaces ds graph) choices.wishes
    services := bound.value
    diagnostics := {
      unresolved := missing.insertMany bound.missing
      invalidOperations := invalidOperations bound.value
      knownTypes := if choices.helpOnMissing then some ds.knownTypes else none } }

/-- The types that parts of valid operations have, each once and in order. -/
def roots (i : Interface) : List TypeId :=
  (Std.ExtTreeSet.ofList ((i.services.flatMap fun s =>
    s.validOperations.flatMap (·.partTypes)).filterMap (·.node?))).toList

/-- Drops all types that the roots do not reach. -/
def pruned (i : Interface) : Interface :=
  let reachable := i.graph.reachable i.roots
  { i with graph.types := i.graph.types.filter fun id _ => reachable.contains id }

end Interface

end SoapBindings
