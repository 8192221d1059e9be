import SoapBindings.Cpp.Class

/-!
# Methods

The methods that a class declares, in their order, whatever kind of class it is. They are a view of
the class: which methods there are follows from its kind and, for services, from its operations.
-/

set_option autoImplicit false

namespace SoapBindings.Cpp

inductive MethodKind where
  | constructor
  | serialize
  | deserialize
  | toString
  | fromString
  /-- Endpoint and errors of a client. -/
  | utility
  | sync
  | async
  | signal
  /-- The start of a job. -/
  | start
  /-- An operation that a server implements. -/
  | pureVirtual
  /-- The choice of the operation that a request is for. -/
  | dispatch
  deriving DecidableEq, Repr

/-- The kind as it is named in descriptions. -/
def MethodKind.label : MethodKind → String
  | constructor => "constructor"
  | serialize => "serialize"
  | deserialize => "deserialize"
  | toString => "to-string"
  | fromString => "from-string"
  | utility => "utility"
  | sync => "sync"
  | async => "async"
  | signal => "signal"
  | start => "start"
  | pureVirtual => "pure-virtual"
  | dispatch => "dispatch"

structure Parameter where
  name : String
  type : String
  /-- The method stores a part of the response in it. -/
  isOutput : Bool
  /-- The part of a message that it carries. -/
  part : Option PartValue
  deriving DecidableEq, Repr

namespace Parameter

/-- A parameter that carries no part of a message. -/
def plain (type name : String) : Parameter := ⟨name, type, false, none⟩

def input (a : Argument) : Parameter := ⟨a.name, a.part.value.input, false, some a.part⟩

def output (a : Argument) : Parameter := ⟨a.name, a.part.value.text ++ "&", true, some a.part⟩

/-- The parameter as it is written in a definition. -/
def toText (p : Parameter) : String := p.type ++ " " ++ p.name

end Parameter

structure Method where
  name : String
  kind : MethodKind
  /-- The type of the value; constructors have none. -/
  returnType : String
  parameters : List Parameter
  isConst : Bool
  /-- The call that the method makes or answers. -/
  call : Option Call
  documentation : Option String
  deriving DecidableEq, Repr

namespace Method

/-- A method that has to do with no call. -/
def plain (kind : MethodKind) (returnType name : String) (parameters : List Parameter)
    (isConst : Bool) : Method :=
  ⟨name, kind, returnType, parameters, isConst, none, none⟩

/-- The parameters as they are written in a definition. -/
def parameterList (m : Method) : String := ", ".intercalate (m.parameters.map (·.toText))

end Method

/-- What every class of a type has. -/
def codecMethods : List Method := [
  .plain .serialize "KDSoapValue" "serialize" [.plain "const QString&" "valueName"] true,
  .plain .deserialize "void" "deserialize" [.plain "const KDSoapValue&" "mainValue"] false]

def enumerationMethods : List Method := [
  .plain .toString "QString" "toString" [] true,
  .plain .fromString "bool" "fromString" [.plain "const QString&" "text"] false] ++ codecMethods

namespace CallMethod

/-- The method as a kind of call. -/
def method (kind : MethodKind) (m : CallMethod) : Method where
  name := m.name
  kind := kind
  returnType := m.call.returnType
  parameters := m.inputs.map .input ++ m.outputs.map .output
  isConst := false
  call := some m.call
  documentation := m.documentation

end CallMethod

namespace AsyncMethod

def method (m : AsyncMethod) : Method where
  name := m.name
  kind := .async
  returnType := "void"
  parameters := m.inputs.map .input
  isConst := false
  call := some m.call
  documentation := m.documentation

/-- The signals as methods. -/
def signalMethods (m : AsyncMethod) : List Method :=
  match m.signals with
  | none => []
  | some s => [
    .plain .signal "void" s.done (s.arguments.map .input) false,
    .plain .signal "void" s.error [.plain "const KDSoapMessage&" "fault"] false]

end AsyncMethod

namespace ClientOperation

def methods (o : ClientOperation) : List Method :=
  o.sync.toList.map (·.method .sync) ++
    o.async.toList.flatMap fun m => m.method :: m.signalMethods

end ClientOperation

def ClientClass.methods (c : ClientClass) : List Method := [
  .plain .constructor "" c.name [.plain "QObject*" "parent"] false,
  .plain .utility "void" "setEndPoint" [.plain "const QString&" "endPoint"] false,
  .plain .utility "QString" "endPoint" [] true,
  .plain .utility "QString" "lastError" [] true] ++ c.operations.flatMap (·.methods)

/-- The constructor of a job. -/
def JobClass.constructor (c : JobClass) : Method :=
  .plain .constructor "" c.name [.plain (c.client ++ "*") "service", .plain "QObject*" "parent"]
    false

def JobClass.methods (c : JobClass) : List Method := [
  c.constructor,
  { Method.plain .start "void" "start" [] false with call := some c.call },
  .plain .signal "void" "finished" [.plain (c.name ++ "*") "job"] false]

def ServerClass.methods (c : ServerClass) : List Method :=
  .plain .constructor "" c.name [] false :: c.operations.map (·.method .pureVirtual) ++ [
    .plain .dispatch "void" "processRequest" [.plain "const KDSoapMessage&" "request",
      .plain "KDSoapMessage&" "response", .plain "const QByteArray&" "soapAction"] false]

def Class.methods : Class → List Method
  | .object _ => codecMethods
  | .enumeration _ => enumerationMethods
  | .client c => c.methods
  | .job c => c.methods
  | .server c => c.methods

end SoapBindings.Cpp
