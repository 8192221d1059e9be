import SoapBindings.Proofs.Cpp.Carrying

/-!
# Definitions by position

The methods of a class are a flat list, and so are their parameters and the members of a job. From
these lists alone the definitions of calls can be found again, going by position: parts are paired
with what stands at the same place, the signals of a method are the two methods behind it, and the
members of a job begin with those of the request. Pairing ends with the shorter list, so this goes
wrong without a word where the lists do not match. Those of carried calls do match, and then the
definitions by position are the definitions (`syncDefinition_eq`, `asyncDefinition_eq`,
`start_eq`, `dispatch_eq`).
-/

set_option autoImplicit false

namespace SoapBindings.Cpp

/-- The parameters that a method is given. -/
def Method.inputs (m : Method) : List Parameter := m.parameters.filter (!·.isOutput)

/-- The parameters that a method stores parts of the response in. -/
def Method.outputs (m : Method) : List Parameter := m.parameters.filter (·.isOutput)

/-- There is a parameter for each part, in their order. -/
def StandFor (parameters : List Parameter) (parts : List PartValue) : Prop :=
  parameters.map (·.part) = parts.map some

namespace ByPosition

/-- Each part with the name at its place. -/
def held (parts : List PartValue) (names : List String) : List HeldPart :=
  List.zipWith HeldPart.mk parts names

/-- The statements that fill a message. -/
def write (message : String) (call : Call) (parts : List PartValue) (names : List String) :
    List String :=
  (held parts names).flatMap (writePart message (partTarget call.style parts)) ++
    if call.encoded then [s!"{message}.setUse(KDSoapMessage::EncodedUse);"] else []

/-- The statements that take the parts out of a message. -/
def read (message : String) (style : Wsdl.Style) (parts : List PartValue) (names : List String) :
    List String :=
  (held parts names).flatMap (readPart message style parts)

/-- The statements that declare a variable for each part. -/
def declare (parts : List PartValue) (names : List String) : List String :=
  (held parts names).map fun h => s!"{h.part.value.text} {h.holder};"

/-- The statements that begin every call. -/
def prepare (call : Call) (names : List String) : List String :=
  let action := stringOf (call.soapAction.getD "")
  [s!"const QString action = {action};", "KDSoapMessage message;"] ++
    write "message" call call.request names

def syncDefinition (className : String) (call : Call) (m : Method) : List String :=
  definition s!"{m.returnType} {className}::{m.name}({m.parameterList})"
    (prepare call (m.inputs.map (·.name)) ++
      if call.oneWay then [call.invoke "" "callNoReply" ++ ";"]
      else ("m_lastReply = " ++ call.invoke "" "call" ++ ";") ::
        if m.returnType = "void" then
          ifThen "m_lastReply.isFault()" ["return;"] ++
            read "m_lastReply" call.style call.response (m.outputs.map (·.name))
        else
          ifThen "m_lastReply.isFault()" [s!"return {m.returnType}();"] ++
            [s!"{m.returnType} result;"] ++
            read "m_lastReply" call.style call.response ["result"] ++ ["return result;"])

/-- The next two methods, if they are signals. -/
def signalsBehind : List Method → Option (Method × Method)
  | done :: error :: _ =>
    if done.kind == .signal && error.kind == .signal then some (done, error) else none
  | _ => none

def onReply (call : Call) (done error : Method) : List String :=
  let names := done.parameters.map (·.name)
  let arguments := ", ".intercalate names
  ifThen "reply.isFault()" [s!"Q_EMIT {error.name}(reply);", "return;"] ++
    declare call.response names ++ read "reply" call.style call.response names ++
    [s!"Q_EMIT {done.name}({arguments});"]

def asyncDefinition (className : String) (call : Call) (m : Method)
    (signals : Option (Method × Method)) : List String :=
  definition s!"void {className}::{m.name}({m.parameterList})"
    (prepare call (m.inputs.map (·.name)) ++
      match signals with
      | none => [call.invoke "" "callNoReply" ++ ";"]
      | some (done, error) => call.invokeLater "" (onReply call done error))

/-- A method that makes a call, and the signals behind it if there is a response to tell of. -/
structure Called where
  call : Call
  method : Method
  signals : Option (Method × Method)

/-- The methods that make calls. -/
def called : List Method → List Called
  | [] => []
  | m :: rest =>
    m.call.toList.map (fun call => ⟨call, m, if call.oneWay then none else signalsBehind rest⟩) ++
      called rest

def Called.definition (className : String) (c : Called) : List String :=
  match c.method.kind with
  | .sync => syncDefinition className c.call c.method
  | .async => asyncDefinition className c.call c.method c.signals
  | _ => []

/-- The fields of the first members hold the request, those of the others the response. -/
def jobStart (methods : List Method) (members : List Member) : List String :=
  match (methods.find? (·.kind == .start)).bind (·.call) with
  | none => []
  | some call =>
    let fields := members.map (·.field)
    prepare call (fields.take call.request.length) ++
      if call.oneWay then
        [call.invoke "m_service->" "callNoReply" ++ ";", "Q_EMIT finished(this);"]
      else call.invokeLater "m_service->"
        (ifThen "!reply.isFault()"
          (read "reply" call.style call.response (fields.drop call.request.length)) ++
          ["Q_EMIT finished(this);"])

/-- The branch for an operation of a server. -/
def dispatch (m : Method) : List String :=
  match m.call with
  | none => []
  | some call =>
    let inputs := m.inputs.map (·.name)
    let outputs := m.outputs.map (·.name)
    let arguments := ", ".intercalate (m.parameters.map (·.name))
    let response := stringOf (call.operation ++ "Response")
    ifThen s!"method == {comparedName (ServerClass.dispatchName call)}"
      (declare call.request inputs ++ read "request" call.style call.request inputs ++
        declare call.response outputs ++
        [if m.returnType = "void" then s!"{m.name}({arguments});"
          else s!"const {m.returnType} result = {m.name}({arguments});"] ++
        (if call.oneWay then []
          else (match call.style with
              | .rpc => [s!"response.setName({response});"]
              | .document => []) ++
            write "response" call call.response
              (if m.returnType = "void" then outputs else ["result"])) ++
        ["return;"])

/-! ## Lists that match -/

/-- What is held is found again from the parts and the names. -/
theorem held_eq {parts : List PartValue} {hs : List HeldPart} (h : hs.map (·.part) = parts) :
    held parts (hs.map (·.holder)) = hs := by
  subst h
  rw [held, List.zipWith_map, List.zipWith_self, List.map_id']

theorem write_eq (message : String) (call : Call) {parts : List PartValue} {hs : List HeldPart}
    (h : hs.map (·.part) = parts) :
    write message call parts (hs.map (·.holder)) = writeParts message call hs := by
  rw [write, held_eq h, writeParts, h]

theorem read_eq (message : String) (style : Wsdl.Style) {parts : List PartValue}
    {hs : List HeldPart} (h : hs.map (·.part) = parts) :
    read message style parts (hs.map (·.holder)) = readParts message style hs := by
  rw [read, held_eq h, readParts, h]

/-- Arguments hold their parts under their names. -/
theorem holders_held (arguments : List Argument) :
    (arguments.map (·.held)).map (·.holder) = arguments.map (·.name) := by
  rw [List.map_map]
  rfl

theorem parts_held (arguments : List Argument) :
    (arguments.map (·.held)).map (·.part) = arguments.map (·.part) := by
  rw [List.map_map]
  rfl

theorem declare_eq {parts : List PartValue} {arguments : List Argument}
    (h : arguments.map (·.part) = parts) :
    declare parts (arguments.map (·.name)) = arguments.map declareVariable := by
  rw [declare, ← holders_held, held_eq ((parts_held arguments).trans h), List.map_map]
  rfl

theorem prepare_eq {call : Call} {hs : List HeldPart} (h : hs.map (·.part) = call.request) :
    prepare call (hs.map (·.holder)) = call.prepare hs := by
  rw [prepare, write_eq _ _ h, Call.prepare]

end ByPosition

/-! ## Methods that wait -/

namespace CallMethod

variable {m : CallMethod} {call : Call}

theorem inputs_method (kind : MethodKind) : (m.method kind).inputs = m.inputs.map .input := by
  simp [Method.inputs, method, List.filter_map, Function.comp_def, Parameter.input,
    Parameter.output]

theorem outputs_method (kind : MethodKind) : (m.method kind).outputs = m.outputs.map .output := by
  simp [Method.outputs, method, List.filter_map, Function.comp_def, Parameter.input,
    Parameter.output]

theorem names_inputs (kind : MethodKind) :
    (m.method kind).inputs.map (·.name) = m.sent.map (·.holder) := by
  rw [inputs_method, List.map_map, sent, List.map_map]
  rfl

theorem names_outputs (kind : MethodKind) :
    (m.method kind).outputs.map (·.name) = m.outputs.map (·.name) := by
  rw [outputs_method, List.map_map]
  rfl

theorem Carries.sent (h : m.Carries call) : m.sent.map (·.part) = call.request :=
  (ByPosition.parts_held m.inputs).trans h.inputs.parts

/-- The only part of a response is received as the value that is returned. -/
theorem received_single {part : PartValue} (single : m.call.response = [part]) :
    m.received = [⟨part, "result"⟩] := by
  rw [received, single]

theorem received_many (many : ∀ part, m.call.response ≠ [part]) :
    m.received = m.outputs.map (·.held) := by
  unfold received
  split
  · next part single => exact absurd single (many part)
  · rfl

theorem Carries.received (h : m.Carries call) : m.received.map (·.part) = call.response := by
  have outputs := h.outputs.parts
  obtain rfl := h.ofCall
  unfold Call.stored at outputs
  split at outputs
  · next part single =>
    rw [received_single single, single]
    rfl
  · next many => rw [received_many many, ByPosition.parts_held, outputs]

theorem returnType_single {part : PartValue} (single : m.call.response = [part]) :
    m.call.returnType = part.value.text := by
  rw [Call.returnType, single]

theorem returnType_many (many : ∀ part, m.call.response ≠ [part]) : m.call.returnType = "void" := by
  unfold Call.returnType
  split
  · next part single => exact absurd single (many part)
  · rfl

theorem syncDefinition_eq (h : m.Carries call)
    (valued : ∀ part ∈ call.response, part.value.text ≠ "void") (className : String) :
    ByPosition.syncDefinition className call (m.method .sync) = m.syncDefinition className := by
  have read := ByPosition.read_eq "m_lastReply" call.style h.received
  have prepare := ByPosition.prepare_eq h.sent
  obtain rfl := h.ofCall
  have returnType : (m.method .sync).returnType = m.call.returnType := rfl
  simp only [ByPosition.syncDefinition, names_inputs, names_outputs, prepare, returnType,
    syncDefinition, afterReply]
  -- Whether a value is returned is told by the type alone, which is `void` for no part.
  by_cases returned : ∃ part, m.call.response = [part]
  · obtain ⟨part, single⟩ := returned
    have value : part.value.text ≠ "void" := valued part (by simp [single])
    rw [received_single single] at read ⊢
    rw [returnType_single single, if_neg value, single]
    rw [single] at read
    rw [← read]
    rfl
  · have many := not_exists.mp returned
    rw [received_many many, ByPosition.holders_held] at read
    rw [returnType_many many, if_pos rfl, read, received_many many]
    split
    · rfl
    · split
      · next part single => exact absurd single (many part)
      · rfl

theorem implementationCall_many (many : ∀ part, m.call.response ≠ [part]) :
    ServerClass.implementationCall m =
      m.name ++ "(" ++ ", ".intercalate ((m.inputs ++ m.outputs).map (·.name)) ++ ");" := by
  unfold ServerClass.implementationCall
  split
  · next part single => exact absurd single (many part)
  · rfl

/-- The branch of a server for the operation. -/
theorem dispatch_eq (h : m.Carries call)
    (valued : ∀ part ∈ call.response, part.value.text ≠ "void") :
    ByPosition.dispatch (m.method .pureVirtual) = ServerClass.dispatch m := by
  have read := ByPosition.read_eq "request" call.style h.sent
  have write := ByPosition.write_eq "response" call h.received
  have declareInputs := ByPosition.declare_eq h.inputs.parts
  rw [← ByPosition.holders_held, ← CallMethod.sent] at declareInputs
  have outputs := h.outputs.parts
  obtain rfl := h.ofCall
  have returnType : (m.method .pureVirtual).returnType = m.call.returnType := rfl
  have arguments : (m.method .pureVirtual).parameters.map (·.name) =
      (m.inputs ++ m.outputs).map (·.name) := by
    rw [method, List.map_append, List.map_map, List.map_map, List.map_append]
    rfl
  rw [ByPosition.dispatch, show (m.method .pureVirtual).call = some m.call from rfl]
  simp only [names_inputs, names_outputs, read, declareInputs, arguments, returnType]
  rw [ServerClass.dispatch, ServerClass.respond]
  by_cases returned : ∃ part, m.call.response = [part]
  · obtain ⟨part, single⟩ := returned
    have value : part.value.text ≠ "void" := valued part (by simp [single])
    have none : m.outputs = [] := by
      rw [Call.stored, single] at outputs
      exact List.map_eq_nil_iff.mp outputs
    have receivers : m.received.map (·.holder) = ["result"] := by rw [received_single single]; rfl
    rw [receivers] at write
    rw [none, returnType_single single, if_neg value, if_neg value, write,
      ServerClass.implementationCall, single, none]
    rfl
  · have many := not_exists.mp returned
    have stored : m.outputs.map (·.part) = m.call.response := by
      rw [outputs]
      unfold Call.stored
      split
      · next part single => exact absurd single (many part)
      · rfl
    have receivers : m.received.map (·.holder) = m.outputs.map (·.name) := by
      rw [received_many many, ByPosition.holders_held]
    rw [receivers] at write
    rw [returnType_many many, if_pos rfl, if_pos rfl, ByPosition.declare_eq stored, write,
      implementationCall_many many]
    rfl

end CallMethod

/-! ## Methods that do not wait -/

namespace AsyncMethod

variable {m : AsyncMethod} {call : Call}

/-- The signals of the method as methods. -/
def signalPair (m : AsyncMethod) : Option (Method × Method) :=
  m.signals.map fun s =>
    (.plain .signal "void" s.done (s.arguments.map .input) false,
      .plain .signal "void" s.error [.plain "const KDSoapMessage&" "fault"] false)

theorem inputs_method : m.method.inputs = m.inputs.map .input := by
  simp [Method.inputs, method, List.filter_map, Function.comp_def, Parameter.input]

theorem onReply_eq {s : AnswerSignals} (h : s.Carries m.call) :
    ByPosition.onReply m.call (.plain .signal "void" s.done (s.arguments.map .input) false)
      (.plain .signal "void" s.error [.plain "const KDSoapMessage&" "fault"] false) =
        m.onReply s := by
  have names : (s.arguments.map Parameter.input).map (·.name) = s.arguments.map (·.name) := by
    rw [List.map_map]
    rfl
  have parts := (ByPosition.parts_held s.arguments).trans h.arguments.parts
  have read := ByPosition.read_eq "reply" m.call.style parts
  rw [ByPosition.holders_held] at read
  simp only [ByPosition.onReply, Method.plain, names, ByPosition.declare_eq h.arguments.parts,
    read, onReply]

theorem asyncDefinition_eq (h : m.Carries call) (className : String) :
    ByPosition.asyncDefinition className call m.method m.signalPair =
      m.asyncDefinition className := by
  have parts := (ByPosition.parts_held m.inputs).trans h.inputs.parts
  have prepare := ByPosition.prepare_eq parts
  have signals := h.signals
  obtain rfl := h.ofCall
  have inputs : m.method.inputs.map (·.name) = (m.inputs.map (·.held)).map (·.holder) := by
    rw [ByPosition.holders_held, inputs_method, List.map_map]
    rfl
  split at signals
  · simp only [ByPosition.asyncDefinition, inputs, prepare, asyncDefinition, signalPair, signals,
      Option.map_none]
    rfl
  · obtain ⟨s, hs, carries⟩ := signals
    simp only [ByPosition.asyncDefinition, inputs, prepare, asyncDefinition, signalPair, hs,
      Option.map_some, onReply_eq carries]
    rfl

end AsyncMethod

/-! ## Methods of a client -/

namespace ByPosition

/-- Signals are told from what does not begin with one. -/
theorem signalsBehind_eq_none {methods : List Method}
    (h : ∀ m ∈ methods.head?, m.kind ≠ .signal) : signalsBehind methods = none := by
  match methods with
  | [] => rfl
  | [_] => rfl
  | done :: error :: rest =>
    have other : (done.kind == .signal) = false := beq_eq_false_iff_ne.mpr (h done rfl)
    rw [signalsBehind, other, Bool.false_and, if_neg Bool.false_ne_true]

end ByPosition

namespace ClientOperation

variable {forms : ServiceForms} {call : Call} {o : ClientOperation}

/-- The methods of the operation that make its call, with their own signals. -/
def called (o : ClientOperation) : List ByPosition.Called :=
  o.sync.toList.map (fun m => ⟨m.call, m.method .sync, none⟩) ++
    o.async.toList.map (fun m => ⟨m.call, m.method, m.signalPair⟩)

theorem head_methods {rest : List Method} (h : ∀ m ∈ rest.head?, m.kind ≠ .signal)
    (o : ClientOperation) : ∀ m ∈ (o.methods ++ rest).head?, m.kind ≠ .signal := by
  obtain ⟨sync, async⟩ := o
  intro m hm
  cases sync with
  | some sync =>
    cases hm
    nofun
  | none =>
    cases async with
    | some async =>
      cases hm
      nofun
    | none => exact h m hm

theorem called_async {m : AsyncMethod} (h : m.Carries call) (rest : List Method) :
    ByPosition.called (m.method :: m.signalMethods ++ rest) =
      ⟨m.call, m.method, m.signalPair⟩ :: ByPosition.called rest := by
  have signals := h.signals
  obtain rfl := h.ofCall
  have calls : m.method.call = some m.call := rfl
  split at signals
  · next oneWay =>
    have silent : m.signalMethods = [] := by rw [AsyncMethod.signalMethods, signals]
    rw [silent, AsyncMethod.signalPair, signals, List.cons_append, ByPosition.called, calls,
      Option.toList_some, List.map_singleton, if_pos oneWay]
    rfl
  · next answered =>
    obtain ⟨s, hs, _⟩ := signals
    rw [AsyncMethod.signalMethods, AsyncMethod.signalPair, hs, List.cons_append, ByPosition.called,
      calls, Option.toList_some, List.map_singleton, if_neg answered]
    rfl

theorem called_append (h : o.Carries forms call) {rest : List Method}
    (behind : ∀ m ∈ rest.head?, m.kind ≠ .signal) :
    ByPosition.called (o.methods ++ rest) = o.called ++ ByPosition.called rest := by
  obtain ⟨sync, async⟩ := o
  have asyncs : ByPosition.called
      (async.toList.flatMap (fun m => m.method :: m.signalMethods) ++ rest) =
        async.toList.map (fun m => ⟨m.call, m.method, m.signalPair⟩) ++
          ByPosition.called rest := by
    cases async with
    | none => rfl
    | some m =>
      have carries := h.async
      split at carries
      · obtain ⟨_, ⟨⟩, carries⟩ := carries
        rw [Option.toList_some, List.flatMap_singleton, called_async carries]
        rfl
      · cases carries
  cases sync with
  | none => exact asyncs
  | some m =>
    -- Behind the method that waits there is one that does not, or another operation: no signal.
    have none := ByPosition.signalsBehind_eq_none (head_methods behind ⟨none, async⟩)
    have first : ByPosition.called
        (m.method .sync :: (ClientOperation.methods ⟨Option.none, async⟩ ++ rest)) =
          ⟨m.call, m.method .sync, Option.none⟩ ::
            ByPosition.called (ClientOperation.methods ⟨Option.none, async⟩ ++ rest) := by
      have calls : (m.method .sync).call = some m.call := rfl
      rw [ByPosition.called, none, calls, Option.toList_some, List.map_singleton, ite_self]
      rfl
    exact first.trans (congrArg _ asyncs)

theorem Carries.called_methods (h : o.Carries forms call) :
    ByPosition.called o.methods = o.called := by
  have alone : ∀ m ∈ ([] : List Method).head?, m.kind ≠ .signal := by
    intro m hm
    cases hm
  have same := called_append h alone
  rw [List.append_nil] at same
  exact same.trans (List.append_nil _)

/-- What is found by position are the methods of the operations with their own signals. -/
theorem called_flatMap {calls : List Call} {operations : List ClientOperation}
    (h : List.Forall₂ (ClientOperation.Carries forms) calls operations) :
    ByPosition.called (operations.flatMap (·.methods)) = operations.flatMap (·.called) := by
  have heads (operations : List ClientOperation) :
      ∀ m ∈ (operations.flatMap (·.methods)).head?, m.kind ≠ .signal := by
    induction operations with
    | nil =>
      intro m hm
      cases hm
    | cons o rest ih => exact head_methods ih o
  induction h with
  | nil => rfl
  | cons carries _ ih =>
    rw [List.flatMap_cons, List.flatMap_cons, called_append carries (heads _), ih]

end ClientOperation

namespace ClientClass

variable {forms : ServiceForms} {calls : List Call} {c : ClientClass}

theorem called_methods
    (h : List.Forall₂ (ClientOperation.Carries forms) calls c.operations) :
    ByPosition.called c.methods = c.operations.flatMap (·.called) :=
  ClientOperation.called_flatMap h

theorem definition_called {call : Call} {o : ClientOperation} (h : o.Carries forms call)
    (valued : ∀ part ∈ call.response, part.value.text ≠ "void") (c : ClientClass) :
    o.called.flatMap (·.definition c.name) = c.operationDefinitions o := by
  rw [ClientOperation.called, operationDefinitions, List.flatMap_append, List.flatMap_map,
    List.flatMap_map]
  congr 1
  · refine List.flatMap_congr fun m hm => ?_
    have sync := h.sync
    rw [Option.mem_toList.mp hm] at sync
    split at sync
    · obtain ⟨_, ⟨⟩, carries⟩ := sync
      have same := CallMethod.syncDefinition_eq carries valued c.name
      rw [← carries.ofCall] at same
      exact same
    · cases sync
  · refine List.flatMap_congr fun m hm => ?_
    have async := h.async
    rw [Option.mem_toList.mp hm] at async
    split at async
    · obtain ⟨_, ⟨⟩, carries⟩ := async
      have same := AsyncMethod.asyncDefinition_eq carries c.name
      rw [← carries.ofCall] at same
      exact same
    · cases async

/-- The definitions of the operations of a client. -/
theorem definitions_called (h : List.Forall₂ (ClientOperation.Carries forms) calls c.operations)
    (valued : ∀ call ∈ calls, ∀ part ∈ call.response, part.value.text ≠ "void") :
    (ByPosition.called c.methods).flatMap (·.definition c.name) =
      c.operations.flatMap c.operationDefinitions := by
  rw [called_methods h]
  generalize c.operations = operations at h
  induction h with
  | nil => rfl
  | cons carries _ ih =>
    obtain ⟨first, rest⟩ := List.forall_mem_cons.mp valued
    rw [List.flatMap_cons, List.flatMap_append, List.flatMap_cons, definition_called carries first,
      ih rest]

end ClientClass

/-! ## Jobs -/

namespace JobClass

variable {call : Call} {c : JobClass}

theorem Carries.length_request (h : c.Carries call) : c.request.length = call.request.length := by
  rw [← h.request, List.length_map]

theorem start_eq (h : c.Carries call) : ByPosition.jobStart c.methods c.members = c.start := by
  have request : (c.request.map (·.held)).map (·.part) = call.request := by
    rw [List.map_map]
    exact h.request
  have response : (c.response.map (·.held)).map (·.part) = call.response := by
    rw [List.map_map]
    exact h.response
  have prepare := ByPosition.prepare_eq request
  have read := ByPosition.read_eq "reply" call.style response
  have length := h.length_request
  obtain rfl := h.ofCall
  have taken : (c.members.map (·.field)).take c.call.request.length =
      (c.request.map (·.held)).map (·.holder) := by
    rw [members, List.map_append, List.take_left' (by rw [List.length_map, length]), List.map_map]
    rfl
  have dropped : (c.members.map (·.field)).drop c.call.request.length =
      (c.response.map (·.held)).map (·.holder) := by
    rw [members, List.map_append, List.drop_left' (by rw [List.length_map, length]), List.map_map]
    rfl
  have calls : (c.methods.find? (·.kind == .start)).bind (·.call) = some c.call := rfl
  simp only [ByPosition.jobStart, calls, taken, prepare, dropped, read]
  rfl

end JobClass

end SoapBindings.Cpp
