import SoapBindings.QName

/-!
# Service declarations

Messages, port types, bindings and services as a WSDL document declares them. A port names a
binding, a binding a port type, an operation its messages; each name is looked up later.
-/

set_option autoImplicit false

namespace SoapBindings.Wsdl

/-- What a part of a message carries. -/
inductive PartContent where
  | element (name : QName)
  | type (name : QName)
  deriving DecidableEq, Repr

structure Part where
  name : String
  content : PartContent
  deriving DecidableEq, Repr

structure Message where
  name : String
  parts : List Part
  deriving DecidableEq, Repr

/-- Who speaks, and who speaks first. -/
inductive Pattern where
  | oneWay
  | requestResponse
  | solicitResponse
  | notification
  deriving DecidableEq, Repr, Inhabited

/-- The input, the output or a fault of an operation. -/
structure MessageUse where
  name : Option String
  message : QName
  deriving DecidableEq, Repr

structure Operation where
  name : String
  documentation : Option String
  input : Option MessageUse
  output : Option MessageUse
  faults : List MessageUse
  pattern : Pattern
  deriving DecidableEq, Repr

structure PortType where
  name : String
  operations : List Operation
  deriving DecidableEq, Repr

inductive Protocol where
  | soap11
  | soap12
  /-- A binding of another kind, with its namespace. -/
  | other (ns : String)
  deriving DecidableEq, Repr, Inhabited

inductive Style where
  | document
  | rpc
  deriving DecidableEq, Repr, Inhabited

/-- How the body of a message is written. -/
inductive BodyUse where
  | literal
  | encoded
  deriving DecidableEq, Repr, Inhabited

structure BindingOperation where
  name : String
  soapAction : Option String
  /-- The style of this operation alone. -/
  style : Option Style
  input : Option BodyUse
  output : Option BodyUse
  deriving DecidableEq, Repr

structure Binding where
  name : String
  portType : QName
  protocol : Protocol
  style : Option Style
  transport : Option String
  operations : List BindingOperation
  deriving DecidableEq, Repr

structure Port where
  name : String
  binding : QName
  address : Option String
  deriving DecidableEq, Repr

structure Service where
  name : String
  documentation : Option String
  ports : List Port
  deriving DecidableEq, Repr

end SoapBindings.Wsdl
