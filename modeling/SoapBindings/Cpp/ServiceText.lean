import SoapBindings.Cpp.CallText

/-!
# Definitions of clients, jobs and servers

A client keeps the interface that it calls through and the last reply to a call it waited for. Calls
that it does not wait for, and jobs, end in a signal. A server takes the operation that a request is
for from the name of its message.
-/

set_option autoImplicit false

namespace SoapBindings.Cpp

namespace Call

/-- The statements that begin every call. -/
def prepare (c : Call) (parts : List HeldPart) : List String :=
  let action := stringOf (c.soapAction.getD "")
  [s!"const QString action = {action};", "KDSoapMessage message;"] ++ writeParts "message" c parts

/-- A call of a method of the interface. -/
def invoke (c : Call) (client function : String) : String :=
  s!"{client}clientInterface()->{function}({stringOf c.operation}, message, action)"

/-- The statements that begin a call whose reply comes later, and those that follow on the reply. -/
def invokeLater (c : Call) (client : String) (onReply : List String) : List String := [
  "KDSoapPendingCall pendingCall = " ++ c.invoke client "asyncCall" ++ ";",
  "auto* watcher = new KDSoapPendingCallWatcher(pendingCall, this);"] ++
  block ("QObject::connect(watcher, &KDSoapPendingCallWatcher::finished, this, " ++
      "[this](KDSoapPendingCallWatcher* watcher) \x7b")
    (["const KDSoapMessage reply = watcher->returnMessage();", "watcher->deleteLater();"] ++
      onReply)
    "\x7d);"

end Call

/-- The declaration of a variable for a part. -/
def declareVariable (a : Argument) : String := s!"{a.part.value.text} {a.name};"

namespace CallMethod

/-- What a method gives the message. -/
def sent (m : CallMethod) : List HeldPart := m.inputs.map (·.held)

/-- Where the parts of the response go: to the outputs, or to `result` if there is only one part. -/
def received (m : CallMethod) : List HeldPart :=
  match m.call.response with
  | [part] => [⟨part, "result"⟩]
  | _ => m.outputs.map (·.held)

/-- The statements after a call that has a response. -/
def afterReply (m : CallMethod) : List String :=
  let read := readParts "m_lastReply" m.call.style m.received
  match m.call.response with
  | [part] =>
    ifThen "m_lastReply.isFault()" [s!"return {part.value.text}();"] ++
      [s!"{part.value.text} result;"] ++ read ++ ["return result;"]
  | _ => ifThen "m_lastReply.isFault()" ["return;"] ++ read

/-- The definition of a method that waits for the answer. -/
def syncDefinition (className : String) (m : CallMethod) : List String :=
  let method := m.method .sync
  definition s!"{method.returnType} {className}::{m.name}({method.parameterList})"
    (m.call.prepare m.sent ++
      if m.call.oneWay then [m.call.invoke "" "callNoReply" ++ ";"]
      else ("m_lastReply = " ++ m.call.invoke "" "call" ++ ";") :: m.afterReply)

end CallMethod

namespace AsyncMethod

/-- The statements on the reply to a call. -/
def onReply (m : AsyncMethod) (s : AnswerSignals) : List String :=
  let names := ", ".intercalate (s.arguments.map (·.name))
  ifThen "reply.isFault()" [s!"Q_EMIT {s.error}(reply);", "return;"] ++
    s.arguments.map declareVariable ++
    readParts "reply" m.call.style (s.arguments.map (·.held)) ++
    [s!"Q_EMIT {s.done}({names});"]

/-- The definition of a method that does not wait for the answer. -/
def asyncDefinition (className : String) (m : AsyncMethod) : List String :=
  definition s!"void {className}::{m.name}({m.method.parameterList})"
    (m.call.prepare (m.inputs.map (·.held)) ++
      match m.signals with
      | none => [m.call.invoke "" "callNoReply" ++ ";"]
      | some s => m.call.invokeLater "" (m.onReply s))

end AsyncMethod

namespace ClientClass

def operationDefinitions (c : ClientClass) (o : ClientOperation) : List String :=
  o.sync.toList.flatMap (·.syncDefinition c.name) ++
    o.async.toList.flatMap (·.asyncDefinition c.name)

/-- What the interface is told beyond the endpoint. -/
def interfaceVersion (c : ClientClass) : List String :=
  match c.endpoint.soapVersion with
  | .soap11 => []
  | .soap12 => ["m_clientInterface->setSoapVersion(KDSoapClientInterface::SOAP1_2);"]

def definitions (c : ClientClass) : List String :=
  let n := c.name
  let address := stringOf (c.endpoint.address.getD "")
  [s!"{n}::{n}(QObject* parent)", "    : QObject(parent)", s!"    , m_endPoint({address})"] ++
    braces [] ++ [""] ++
    definition s!"{n}::~{n}()" ["delete m_clientInterface;"] ++
    definition s!"void {n}::setEndPoint(const QString& endPoint)"
      ("m_endPoint = endPoint;" ::
        ifThen "m_clientInterface" ["m_clientInterface->setEndPoint(endPoint);"]) ++
    definition s!"QString {n}::endPoint() const" ["return m_endPoint;"] ++
    definition s!"QString {n}::lastError() const"
      ["return m_lastReply.isFault() ? m_lastReply.faultAsString() : QString();"] ++
    definition s!"KDSoapClientInterface* {n}::clientInterface()"
      (ifThen "!m_clientInterface"
        (s!"m_clientInterface = new KDSoapClientInterface(m_endPoint, {stringOf c.endpoint.ns});" ::
          c.interfaceVersion) ++
        ["return m_clientInterface;"]) ++
    c.operations.flatMap c.operationDefinitions

end ClientClass

namespace JobClass

/-- The statements on the reply to the call of a job. -/
def onReply (c : JobClass) : List String :=
  ifThen "!reply.isFault()" (readParts "reply" c.call.style (c.response.map (·.held))) ++
    ["Q_EMIT finished(this);"]

def start (c : JobClass) : List String :=
  c.call.prepare (c.request.map (·.held)) ++
    if c.call.oneWay then
      [c.call.invoke "m_service->" "callNoReply" ++ ";", "Q_EMIT finished(this);"]
    else c.call.invokeLater "m_service->" c.onReply

def definitions (style : OptionalStyle) (c : JobClass) : List String :=
  [s!"{c.name}::{c.name}({c.constructor.parameterList})", "    : QObject(parent)",
    "    , m_service(service)"] ++ braces [] ++ [""] ++
    c.members.flatMap (·.accessors style c.name) ++
    definition s!"void {c.name}::start()" c.start

end JobClass

namespace ServerClass

/-- The name of the message of a request for an operation. -/
def dispatchName (call : Call) : String :=
  match call.style, call.request with
  | .document, [part] => part.xml.name
  | _, _ => call.operation

/-- The statements that write the response of an operation. -/
def respond (m : CallMethod) : List String :=
  if m.call.oneWay then []
  else
    let name := stringOf (m.call.operation ++ "Response")
    (match m.call.style with
      | .rpc => [s!"response.setName({name});"]
      | .document => []) ++
      writeParts "response" m.call m.received

/-- The call of an operation that the server implements. -/
def implementationCall (m : CallMethod) : String :=
  let names := ", ".intercalate ((m.inputs ++ m.outputs).map (·.name))
  match m.call.response with
  | [part] => s!"const {part.value.text} result = {m.name}({names});"
  | _ => s!"{m.name}({names});"

/-- The branch for an operation. -/
def dispatch (m : CallMethod) : List String :=
  ifThen s!"method == {comparedName (dispatchName m.call)}"
    (m.inputs.map declareVariable ++ readParts "request" m.call.style m.sent ++
      m.outputs.map declareVariable ++ [implementationCall m] ++ respond m ++ ["return;"])

def definitions (c : ServerClass) : List String :=
  let n := c.name
  [s!"{n}::{n}() = default;", ""] ++
    definition (s!"void {n}::processRequest(const KDSoapMessage& request, " ++
        "KDSoapMessage& response, const QByteArray& soapAction)")
      ("const QString method = request.name();" :: c.operations.flatMap dispatch ++
        ["KDSoapServerObjectInterface::processRequest(request, response, soapAction);"])

end ServerClass

end SoapBindings.Cpp
