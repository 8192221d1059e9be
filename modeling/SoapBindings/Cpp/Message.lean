import SoapBindings.Cpp.Value
import SoapBindings.Wsdl.Declaration

/-!
# Calls

What a generated method sends and receives: the parts of the request and of the response, each with
the type of its value. A part is passed to a method as an argument, whose name is chosen so that no
two arguments of a method have one name.
-/

set_option autoImplicit false

namespace SoapBindings.Cpp

/-- The name of an element, an attribute or a type. -/
structure XmlName where
  name : String
  /-- The namespace; local names may have none. -/
  ns : Option String
  deriving DecidableEq, Repr

/-- The type of a value, and what reading and writing it rests on. -/
structure ValueType where
  text : String
  kind : ValueKind
  deriving DecidableEq, Repr

/-- The type of a parameter that is only read. -/
def ValueType.input (v : ValueType) : String := inputType v.text v.kind.isScalar

/-- A part of a message. -/
structure PartValue where
  xml : XmlName
  value : ValueType
  deriving DecidableEq, Repr

/-- A part under the name that it has in a method. -/
structure Argument where
  name : String
  part : PartValue
  deriving DecidableEq, Repr

/-- What is sent and received when an operation is called. -/
structure Call where
  operation : String
  soapAction : Option String
  /-- The namespace of the definitions. -/
  ns : String
  style : Wsdl.Style
  encoded : Bool
  /-- There is no response. -/
  oneWay : Bool
  request : List PartValue
  response : List PartValue
  deriving DecidableEq, Repr

/-- What a call gives back: a single part is returned, several are stored by the caller. -/
def Call.returnType (c : Call) : String :=
  match c.response with
  | [part] => part.value.text
  | _ => "void"

inductive SoapVersion where
  | soap11
  | soap12
  deriving DecidableEq, Repr

/-- Where a service is found. -/
structure Endpoint where
  service : String
  port : String
  address : Option String
  soapVersion : SoapVersion
  /-- The namespace of the definitions. -/
  ns : String
  deriving DecidableEq, Repr

end SoapBindings.Cpp
