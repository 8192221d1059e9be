import SoapBindings.Graph.Basic
import SoapBindings.Wsdl.Declaration

/-!
# Bound services

What a service offers at one of its ports, with every part of every message bound to a type of the
graph. An operation that cannot be bound is kept with the reasons; only valid operations, which have
none, are generated.
-/

set_option autoImplicit false

namespace SoapBindings

structure BoundPart where
  name : String
  /-- The element that the part is, if it is one. -/
  element : Option QName
  type : TypeRef
  deriving DecidableEq, Repr

structure BoundMessage where
  name : QName
  /-- The parts in the order of the document. -/
  parts : List BoundPart
  deriving DecidableEq, Repr

/-- Why an operation cannot be generated. -/
inductive Problem where
  | pattern (pattern : Wsdl.Pattern)
  | noMessage (name : QName)
  | unresolvedPart (part : String) (name : QName)
  /-- The type of the part is declared, but something that it contains is not. -/
  | taintedPart (part : String) (type : TypeId)
  deriving DecidableEq, Repr

/-- The pattern of an operation as it is named in messages. -/
def Wsdl.Pattern.label : Wsdl.Pattern → String
  | .oneWay => "OneWay"
  | .requestResponse => "RequestResponse"
  | .solicitResponse => "SolicitResponse"
  | .notification => "Notification"

def Problem.message : Problem → String
  | pattern p => "unsupported operation pattern " ++ p.label
  | noMessage name => "message not found: " ++ name.toText
  | unresolvedPart part name => "part " ++ part ++ ": unresolved " ++ name.toText
  | taintedPart part type =>
    "part " ++ part ++ ": type " ++ type.toText ++ " references unresolved declarations"

structure BoundOperation where
  name : String
  documentation : Option String
  pattern : Wsdl.Pattern
  soapAction : Option String
  /-- The style of the operation or, if it has none of its own, of its binding. -/
  style : Wsdl.Style
  /-- How the body of the input is written. -/
  bodyUse : Wsdl.BodyUse
  input : Option BoundMessage
  output : Option BoundMessage
  faults : List BoundMessage
  problems : List Problem
  deriving DecidableEq, Repr

namespace BoundOperation

/-- The operation can be generated. -/
def isValid (op : BoundOperation) : Bool := op.problems.isEmpty

/-- There is no response. -/
def isOneWay (op : BoundOperation) : Bool := op.pattern == .oneWay

def messages (op : BoundOperation) : List BoundMessage :=
  op.input.toList ++ op.output.toList ++ op.faults

/-- The types of all parts of all messages. -/
def partTypes (op : BoundOperation) : List TypeRef :=
  op.messages.flatMap fun m => m.parts.map (·.type)

end BoundOperation

/-- The operations that one port gives access to. -/
structure BoundService where
  /-- The name of the service; without services that of the binding or of the port type. -/
  service : String
  port : String
  /-- The namespace of the definitions that the service stands in. -/
  ns : String
  portType : QName
  binding : Option QName
  protocol : Option Wsdl.Protocol
  address : Option String
  documentation : Option String
  /-- The operations in the order of the port type. -/
  operations : List BoundOperation
  deriving DecidableEq, Repr

def BoundService.validOperations (s : BoundService) : List BoundOperation :=
  s.operations.filter (·.isValid)

end SoapBindings
