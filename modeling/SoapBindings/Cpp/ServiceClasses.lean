import SoapBindings.Cpp.TypeClasses
import SoapBindings.Services.Basic

/-!
# Classes of services

For each bound service a client with a method for each valid operation, in as many forms as the user
wants, and a job class for each operation; or instead of all these one base class for servers.

Arguments of a method get different names. A response of one part is the value of the method; one of
several parts is stored in outputs, whose names differ from those of the inputs as well.
-/

set_option autoImplicit false

namespace SoapBindings.Cpp

/-- What is generated for a service. -/
structure ServiceForms where
  /-- Base classes for servers instead of clients. -/
  server : Bool
  /-- Methods that wait for the answer. -/
  sync : Bool
  /-- Methods that do not. -/
  async : Bool
  jobs : Bool
  deriving DecidableEq, Repr

/-- Names for the parts of a message. -/
def argumentsOf (code : String) (parts : List PartValue) : Naming (List Argument) :=
  parts.mapM fun part => do return ⟨← takeName (lowerCamel part.xml.name) code, part⟩

namespace Call

/-- The arguments for the request. -/
def inputs (call : Call) (code : String) : List Argument :=
  (argumentsOf code call.request (.reserving [])).1

/-- The arguments for the response. -/
def answers (call : Call) (code : String) : List Argument :=
  (argumentsOf code call.response (.reserving [])).1

/-- The outputs of a method with the inputs of the call. -/
def outputs (call : Call) (code : String) : List Argument :=
  match call.response with
  | [] | [_] => []
  | _ =>
    let rename (a : Argument) : Naming Argument := do
      return { a with name := ← takeName a.name code }
    ((call.answers code).mapM rename (.reserving ((call.inputs code).map (·.name)))).1

end Call

namespace ClassContext

/-- The parts of a message; one whose type is not resolved is none. -/
def partValues (c : ClassContext) (m : Option BoundMessage) : List PartValue :=
  (m.toList.flatMap (·.parts)).filterMap fun p =>
    (c.valueType? p.type).map fun value =>
      ⟨match p.element with
        | some e => ⟨e.localName, some e.ns⟩
        | none => ⟨p.name, none⟩, value⟩

def call (c : ClassContext) (s : BoundService) (op : BoundOperation) : Call where
  operation := op.name
  soapAction := op.soapAction
  ns := s.ns
  style := op.style
  encoded := op.bodyUse == .encoded
  oneWay := op.isOneWay
  request := c.partValues op.input
  response := c.partValues op.output

def endpoint (s : BoundService) : Endpoint where
  service := s.service
  port := s.port
  address := s.address
  soapVersion := match s.protocol with
    | some .soap12 => .soap12
    | _ => .soap11
  ns := s.ns

/-- The name that the class of a service would like to have. The port counts only if the service is
bound more than once. -/
def serviceCandidate (all : List BoundService) (s : BoundService) : String :=
  let shared := (all.filter (·.service == s.service)).length > 1
  upperCamel s.service ++ if shared then upperCamel s.port else ""

def callMethod (call : Call) (code name : String) (documentation : Option String) : CallMethod :=
  ⟨name, call, call.inputs code, call.outputs code, documentation⟩

/-- The signals of a call that has a response. -/
def answerSignals (call : Call) (code base : String) : Naming (Option AnswerSignals) :=
  if call.oneWay then return none
  else do
    let done ← takeName (base ++ "Done") code
    let error ← takeName (base ++ "Error") code
    return some ⟨done, call.answers code, error⟩

/-- The methods of a client for one operation. -/
def clientOperation (c : ClassContext) (forms : ServiceForms) (code : String) (s : BoundService)
    (op : BoundOperation) : Naming ClientOperation := do
  let call := c.call s op
  let base := lowerCamel op.name
  let sync ← if forms.sync then do
      let name ← takeName base code
      pure (some (callMethod call code name op.documentation))
    else pure none
  let async ← if forms.async then do
      let name ← takeName ("async" ++ upperCamel op.name) code
      let signals ← answerSignals call code base
      pure (some ⟨name, call, call.inputs code, signals, op.documentation⟩)
    else pure none
  return ⟨sync, async⟩

/-- The names that every client uses itself. -/
def clientNames : List String := ["setEndPoint", "endPoint", "lastError", "clientInterface"]

def serverNames : List String := ["processRequest"]

def jobNames : List String := ["start", "finished", "service"]

/-- The members of a job for some parts; `candidate` makes a name from that of a part. -/
def jobMembers (code : String) (candidate : String → String) (parts : List PartValue) :
    Naming (List Member) :=
  parts.mapM fun part => do
    let name ← takeName (candidate part.xml.name) code
    let setter ← takeName ("set" ++ upperCamel name) code
    return ⟨name, setter, part.xml, .element, part.value, .value, none⟩

def jobClass (c : ClassContext) (code client : String) (s : BoundService) (op : BoundOperation)
    (name : String) : JobClass :=
  let call := c.call s op
  let members : Naming (List Member × List Member) := do
    let request ← jobMembers code lowerCamel call.request
    let response ← jobMembers code (fun part => "result" ++ upperCamel part) call.response
    return (request, response)
  let (request, response) := (members (memberScope jobNames name code)).1
  ⟨name, client, call, request, response, op.documentation⟩

/-- The client of a service and the jobs of its operations. -/
def clientClasses (c : ClassContext) (forms : ServiceForms) (all : List BoundService)
    (s : BoundService) : Naming (List Class) := do
  let code := c.code s.ns
  let name ← takeName (serviceCandidate all s) code
  let operations := (s.validOperations.mapM (c.clientOperation forms code s)
    (memberScope clientNames name code)).1
  let jobs ← if forms.jobs then s.validOperations.mapM fun op => do
        let job ← takeName (upperCamel op.name ++ "Job") code
        return .job (c.jobClass code name s op job)
    else pure []
  return .client ⟨name, endpoint s, operations, s.documentation⟩ :: jobs

def serverClass (c : ClassContext) (all : List BoundService) (s : BoundService) :
    Naming Class := do
  let code := c.code s.ns
  let name ← takeName (serviceCandidate all s ++ "ServerBase") code
  let method (op : BoundOperation) : Naming CallMethod := do
    let method ← takeName (lowerCamel op.name) code
    return callMethod (c.call s op) code method op.documentation
  let operations := (s.validOperations.mapM method (memberScope serverNames name code)).1
  return .server ⟨name, endpoint s, operations, s.documentation⟩

/-- The classes of a service. -/
def serviceClasses (c : ClassContext) (forms : ServiceForms) (all : List BoundService)
    (s : BoundService) : Naming (List Class) :=
  if forms.server then return [← c.serverClass all s] else c.clientClasses forms all s

end ClassContext

/-- All classes: those of the types in their order, then those of the services. -/
def classes (forms : ServiceForms) (ordered : OrderedGraph) (services : List BoundService)
    (codes : NamespaceCodes) : List Class :=
  let run : Naming (List Class) := do
    let names ← takeClassNames codes ordered.order
    let c : ClassContext := ⟨ordered.graph.types, codes, names⟩
    let ofServices ← services.mapM (c.serviceClasses forms services)
    return ordered.order.filterMap c.typeClass? ++ ofServices.flatten
  (run (.reserving [])).1

end SoapBindings.Cpp
