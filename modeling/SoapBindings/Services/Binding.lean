import SoapBindings.Documents
import SoapBindings.Graph.Reach
import SoapBindings.Reference
import SoapBindings.Services.Basic

/-!
# Binding services

From a service to its ports, from a port to its binding, from there to the port type and the
messages of its operations, and from each part of a message to a type. Every name is looked up
among the declarations of all documents; of several declarations of one name the first counts. A
name that is not found is reported, and the port or the operation goes without what it stands for.

A service binds each port type once, at the first of its ports that does so through SOAP. Documents
without services are bound by their bindings, and those without SOAP bindings by their port types.
-/

set_option autoImplicit false

namespace SoapBindings

open Wsdl

/-- No service has the name that the user asked for. -/
structure ServiceNotFound where
  name : String
  available : List String
  deriving DecidableEq, Repr

def ServiceNotFound.message (e : ServiceNotFound) : String :=
  "service not found: " ++ e.name ++
    if e.available.isEmpty then " (document declares no services)"
    else " (available: " ++ ", ".intercalate e.available ++ ")"

/-- The service declarations of all documents by name. -/
structure ServiceDeclarations where
  messages : NameTable Message
  portTypes : NameTable PortType
  bindings : NameTable Binding
  /-- The services in the order of the documents. -/
  services : List (QName × Service)

namespace ServiceDeclarations

/-- Of several declarations of one name the first. -/
def firstOf {α : Type} (declared : List (QName × α)) : NameTable α :=
  declared.foldl (fun table (name, a) => table.insertIfNew name a) ∅

/-- Drops declarations of a name that stands before. -/
def distinct {α : Type} (declared : List (QName × α)) : List (QName × α) :=
  declared.foldl (fun kept (name, a) =>
    if kept.any (·.1 == name) then kept else kept ++ [(name, a)]) []

def ofDocuments (ds : Documents) : ServiceDeclarations where
  messages := firstOf (ds.inOrder.flatMap fun d => d.messages.map fun m => (d.qualify m.name, m))
  portTypes := firstOf (ds.inOrder.flatMap fun d => d.portTypes.map fun p => (d.qualify p.name, p))
  bindings := firstOf (ds.inOrder.flatMap fun d => d.bindings.map fun b => (d.qualify b.name, b))
  services := distinct (ds.inOrder.flatMap fun d => d.services.map fun s => (d.qualify s.name, s))

end ServiceDeclarations

/-- What names are looked up in. -/
structure BindingContext where
  declared : ServiceDeclarations
  graph : TypeGraph
  tainted : Std.ExtTreeSet TypeId

/-- What binding gives: a value and the references that found nothing. -/
structure Bound (α : Type) where
  value : α
  missing : List Reference

namespace Bound

/-- Binds each of a list. -/
def all {α β : Type} (f : α → Bound β) (as : List α) : Bound (List β) :=
  let bound := as.map f
  ⟨bound.map (·.value), bound.flatMap (·.missing)⟩

/-- Binds what is there. -/
def option {α β : Type} (f : α → Bound (Option β)) : Option α → Bound (Option β)
  | none => ⟨none, []⟩
  | some a => f a

end Bound

namespace BindingContext

/-- The type of what a part carries. -/
def partType (c : BindingContext) : PartContent → TypeRef
  | .element name =>
    match c.graph.elements[name]? with
    | some e => e.type
    | none => .unresolved name
  | .type name =>
    match Builtin.ofQName? name with
    | some b => .builtin b
    | none => if c.graph.types.contains (.named name) then .node (.named name) else .unresolved name

/-- The reference of a part that finds nothing. An element that is found may have a type that is
not; that is reported with the element. -/
def partMissing (c : BindingContext) (context : String) : PartContent → List Reference
  | .element name => if c.graph.elements.contains name then [] else [⟨name, .element, context⟩]
  | .type name =>
    match c.partType (.type name) with
    | .unresolved _ => [⟨name, .type, context⟩]
    | _ => []

def bindPart (c : BindingContext) (p : Part) : BoundPart where
  name := p.name
  element := match p.content with
    | .element name => some name
    | .type _ => none
  type := c.partType p.content

/-- What keeps a part from being generated. -/
def partProblem? (c : BindingContext) (p : BoundPart) : Option Problem :=
  match p.type with
  | .unresolved name => some (.unresolvedPart p.name name)
  | .node id => if c.tainted.contains id then some (.taintedPart p.name id) else none
  | .builtin _ => none

def bindMessage (c : BindingContext) (context : String) (u : MessageUse) :
    Bound (Option BoundMessage) :=
  match c.declared.messages[u.message]? with
  | none => ⟨none, [⟨u.message, .message, context⟩]⟩
  | some m =>
    ⟨some ⟨u.message, m.parts.map c.bindPart⟩,
      m.parts.flatMap fun p => c.partMissing context p.content⟩

/-- What keeps a message from being generated. -/
def messageProblems (c : BindingContext) (context : String) (u : MessageUse) : List Problem :=
  match (c.bindMessage context u).value with
  | none => [.noMessage u.message]
  | some m => m.parts.filterMap c.partProblem?

/-- Who speaks first has to be the client. -/
def patternProblems : Pattern → List Problem
  | .oneWay | .requestResponse => []
  | p => [.pattern p]

/-- The messages of an operation in the order in which they are bound. -/
def messageUses (op : Operation) : List MessageUse :=
  op.input.toList ++ op.output.toList ++ op.faults

def bindOperation (c : BindingContext) (binding : Option Binding) (op : Operation) :
    Bound BoundOperation :=
  let context := "operation " ++ op.name
  let bound := binding.bind fun b => b.operations.find? (·.name == op.name)
  let input := Bound.option (c.bindMessage context) op.input
  let output := Bound.option (c.bindMessage context) op.output
  let faults := Bound.all (c.bindMessage context) op.faults
  { value := {
      name := op.name
      documentation := op.documentation
      pattern := op.pattern
      soapAction := bound.bind (·.soapAction)
      style := ((bound.bind (·.style)).or (binding.bind (·.style))).getD .document
      bodyUse := (bound.bind (·.input)).getD .literal
      input := input.value
      output := output.value
      faults := faults.value.filterMap id
      problems := patternProblems op.pattern ++
        (messageUses op).flatMap (c.messageProblems context) }
    missing := input.missing ++ output.missing ++ faults.missing }

/-- Binds a port type; `start` says everything about the service but its operations. -/
def bindPortType (c : BindingContext) (binding : Option Binding) (context : String)
    (start : BoundService) : Bound (Option BoundService) :=
  match c.declared.portTypes[start.portType]? with
  | none => ⟨none, [⟨start.portType, .portType, context⟩]⟩
  | some p =>
    let operations := Bound.all (c.bindOperation binding) p.operations
    ⟨some { start with operations := operations.value }, operations.missing⟩

/-- The binding is one of SOAP. -/
def isSoap (b : Binding) : Bool :=
  match b.protocol with
  | .soap11 | .soap12 => true
  | .other _ => false

/-- Binds the ports of a service in order. `bound` holds the port types that are bound already. -/
def bindPorts (c : BindingContext) (name : QName) (s : Service) (bound : List QName) :
    List Port → Bound (List BoundService)
  | [] => ⟨[], []⟩
  | port :: ports =>
    let context := "port " ++ port.name ++ " of service " ++ s.name
    match c.declared.bindings[port.binding]? with
    | none =>
      let rest := bindPorts c name s bound ports
      { rest with missing := ⟨port.binding, .binding, context⟩ :: rest.missing }
    | some b =>
      if !isSoap b || bound.contains b.portType then bindPorts c name s bound ports
      else
        let here := c.bindPortType (some b) context {
          service := s.name
          port := port.name
          ns := name.ns
          portType := b.portType
          binding := some port.binding
          protocol := some b.protocol
          address := port.address
          documentation := s.documentation
          operations := [] }
        let rest := bindPorts c name s (b.portType :: bound) ports
        ⟨here.value.toList ++ rest.value, here.missing ++ rest.missing⟩

def bindService (c : BindingContext) (s : QName × Service) : Bound (List BoundService) :=
  c.bindPorts s.1 s.2 [] s.2.ports

/-- Binds a binding that no service is needed for. -/
def bindBinding (c : BindingContext) (b : QName × Binding) : Bound (Option BoundService) :=
  c.bindPortType (some b.2) ("binding " ++ b.1.toText) {
    service := b.1.localName
    port := b.1.localName
    ns := b.1.ns
    portType := b.2.portType
    binding := some b.1
    protocol := some b.2.protocol
    address := none
    documentation := none
    operations := [] }

/-- Binds a port type that has no binding. -/
def bindBare (c : BindingContext) (name : QName) : Bound (Option BoundService) :=
  c.bindPortType none "" {
    service := name.localName
    port := name.localName
    ns := name.ns
    portType := name
    binding := none
    protocol := none
    address := none
    documentation := none
    operations := [] }

/-- Binds what there is besides services: the SOAP bindings or else the port types. -/
def bindWithoutServices (c : BindingContext) : Bound (List BoundService) :=
  let bindings := c.declared.bindings.toList.filter (isSoap ·.2)
  let bound := if bindings.isEmpty then Bound.all c.bindBare c.declared.portTypes.keys
    else Bound.all c.bindBinding bindings
  ⟨bound.value.filterMap id, bound.missing⟩

/-- The services that the user wants: all, or the first of a name. -/
def selected (d : ServiceDeclarations) :
    Option String → Except ServiceNotFound (List (QName × Service))
  | none => .ok d.services
  | some name =>
    match d.services.find? (·.1.localName == name) with
    | some s => .ok [s]
    | none => .error ⟨name, d.services.map (·.1.localName)⟩

/-- Binds the services of some documents. -/
def services (c : BindingContext) (wanted : Option String) :
    Except ServiceNotFound (Bound (List BoundService)) := do
  let services ← selected c.declared wanted
  if services.isEmpty then return c.bindWithoutServices
  let bound := Bound.all c.bindService services
  return ⟨bound.value.flatten, bound.missing⟩

end BindingContext

/-- What the names in some documents are looked up in. -/
def BindingContext.of (ds : Documents) (graph : TypeGraph) : BindingContext where
  declared := .ofDocuments ds
  graph := graph
  tainted := graph.tainted

end SoapBindings
