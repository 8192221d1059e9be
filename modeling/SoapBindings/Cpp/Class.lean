import SoapBindings.Cpp.Message

/-!
# Generated classes

What is generated, before any of it is text: a class for each type, and for each service a client
with its jobs or a base class for servers. How an optional member is written is not decided here; a
member says only that it may be absent.
-/

set_option autoImplicit false

namespace SoapBindings.Cpp

inductive MemberRole where
  | element
  | attr
  /-- The text of the element. -/
  | content
  deriving DecidableEq, Repr

/-- A member with its accessors. -/
structure Member where
  /-- The name, which is that of the getter as well. -/
  name : String
  setter : String
  xml : XmlName
  role : MemberRole
  value : ValueType
  storage : Storage
  documentation : Option String
  deriving DecidableEq, Repr

namespace Member

/-- The type in which the member is stored. -/
def type (style : OptionalStyle) (m : Member) : String := memberType style m.value.text m.storage

/-- The field behind the accessors. -/
def field (m : Member) : String := "m_" ++ m.name

/-- The member owns what a plain pointer points to. -/
def ownsPointer (style : OptionalStyle) (m : Member) : Bool :=
  m.storage == .optional && style == .rawPointer

/-- The type of the parameter of the setter. -/
def setterType (style : OptionalStyle) (m : Member) : String :=
  match m.storage with
  | .value => inputType (m.type style) m.value.kind.isScalar
  | _ => if m.ownsPointer style then m.type style else inputType (m.type style) false

/-- The member is stored through a pointer to a class that may be declared later. -/
def isShared (m : Member) : Bool := m.storage == .shared || m.storage == .sharedList

/-- The member holds any number of values. -/
def isList (m : Member) : Bool := m.storage == .list || m.storage == .sharedList

end Member

inductive ObjectKind where
  | complex
  /-- A value of a restricted simple type. -/
  | wrapper
  /-- Values of a simple type. -/
  | list
  deriving DecidableEq, Repr

/-- The class of a type whose values have members. -/
structure ObjectClass where
  name : String
  kind : ObjectKind
  /-- The name of the type, if it has one. -/
  xml : Option XmlName
  base : Option String
  members : List Member
  documentation : Option String
  deriving DecidableEq, Repr

namespace ObjectClass

/-- The classes that have to be declared ahead. -/
def forwardDeclarations (c : ObjectClass) : List String :=
  (Std.ExtTreeSet.ofList ((c.members.filter (·.isShared)).map (·.value.text))).toList

/-- The member that holds the text of the element. -/
def content? (c : ObjectClass) : Option Member := c.members.find? (·.role == .content)

def elements (c : ObjectClass) : List Member := c.members.filter (·.role == .element)

def attributes (c : ObjectClass) : List Member := c.members.filter (·.role == .attr)

end ObjectClass

/-- An enumerator and the text that it stands for. -/
structure Enumerator where
  name : String
  literal : String
  deriving DecidableEq, Repr

structure EnumerationClass where
  name : String
  xml : Option XmlName
  values : List Enumerator
  documentation : Option String
  deriving DecidableEq, Repr

/-- A method that makes a call and waits for the answer, or that answers one. -/
structure CallMethod where
  name : String
  call : Call
  inputs : List Argument
  /-- The parts of a response that has several. -/
  outputs : List Argument
  documentation : Option String
  deriving DecidableEq, Repr

/-- The signals that tell of the answer to a call. -/
structure AnswerSignals where
  done : String
  /-- The parts of the response. -/
  arguments : List Argument
  error : String
  deriving DecidableEq, Repr

/-- A method that makes a call and does not wait. -/
structure AsyncMethod where
  name : String
  call : Call
  inputs : List Argument
  /-- Calls without a response have none. -/
  signals : Option AnswerSignals
  documentation : Option String
  deriving DecidableEq, Repr

/-- The ways in which a client offers an operation. -/
structure ClientOperation where
  sync : Option CallMethod
  async : Option AsyncMethod
  deriving DecidableEq, Repr

structure ClientClass where
  name : String
  endpoint : Endpoint
  operations : List ClientOperation
  documentation : Option String
  deriving DecidableEq, Repr

/-- A call as an object of its own. -/
structure JobClass where
  name : String
  /-- The client that the job calls through. -/
  client : String
  call : Call
  /-- One member for each part of the request. -/
  request : List Member
  /-- One member for each part of the response. -/
  response : List Member
  documentation : Option String
  deriving DecidableEq, Repr

def JobClass.members (c : JobClass) : List Member := c.request ++ c.response

/-- A base class for servers, which implement its operations. -/
structure ServerClass where
  name : String
  endpoint : Endpoint
  operations : List CallMethod
  documentation : Option String
  deriving DecidableEq, Repr

inductive Class where
  | object (c : ObjectClass)
  | enumeration (c : EnumerationClass)
  | client (c : ClientClass)
  | job (c : JobClass)
  | server (c : ServerClass)
  deriving DecidableEq, Repr

namespace Class

def name : Class → String
  | object c => c.name
  | enumeration c => c.name
  | client c => c.name
  | job c => c.name
  | server c => c.name

/-- The kind as it is named in descriptions. -/
def kindLabel : Class → String
  | object c => match c.kind with
    | .complex => "complex"
    | .wrapper => "simple-wrapper"
    | .list => "list"
  | enumeration _ => "enumeration"
  | client _ => "client-service"
  | job _ => "job"
  | server _ => "server-base"

def xml : Class → Option XmlName
  | object c => c.xml
  | enumeration c => c.xml
  | _ => none

def base : Class → Option String
  | object c => c.base
  | _ => none

def members : Class → List Member
  | object c => c.members
  | job c => c.members
  | _ => []

def enumerators : Class → List Enumerator
  | enumeration c => c.values
  | _ => []

def endpoint : Class → Option Endpoint
  | client c => some c.endpoint
  | server c => some c.endpoint
  | _ => none

def forwardDeclarations : Class → List String
  | object c => c.forwardDeclarations
  | _ => []

def documentation : Class → Option String
  | object c => c.documentation
  | enumeration c => c.documentation
  | client c => c.documentation
  | job c => c.documentation
  | server c => c.documentation

end Class

end SoapBindings.Cpp
