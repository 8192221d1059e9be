import SoapBindings.Proofs.Cpp.Positions

/-!
# Alignment of methods and parts

The methods of a client are those of its valid operations in their order, each in the wanted forms,
and behind a method that does not wait are its own signals. Parameters, members and what a method
returns stand for the parts of the messages, one for each part and in their order. So whatever is
found by position is what belongs there, for every service and for every choice of forms
(`classes_aligned`).
-/

set_option autoImplicit false

namespace SoapBindings.Cpp

/-! ## Parameters and parts -/

/-- The method waits for the answer to the call, or gives it. The parts of the response are stored
in outputs, or the only one is returned. -/
structure Method.Waits (kind : MethodKind) (call : Call) (m : Method) : Prop where
  ofKind : m.kind = kind
  ofCall : m.call = some call
  inputs : StandFor m.inputs call.request
  response : if m.returnType = "void" then StandFor m.outputs call.response
    else m.outputs = [] ∧ ∃ part, call.response = [part] ∧ m.returnType = part.value.text

/-- The method does not wait for the answer to the call; the methods behind it are its signals. -/
structure Method.Starts (call : Call) (m : Method) (behind : List Method) : Prop where
  ofKind : m.kind = .async
  ofCall : m.call = some call
  inputs : StandFor m.inputs call.request
  signals : if call.oneWay then behind = [] else ∃ done error, behind = [done, error] ∧
    done.kind = .signal ∧ error.kind = .signal ∧ StandFor done.parameters call.response ∧
    ByPosition.signalsBehind behind = some (done, error)

/-- The methods offer the call in the wanted forms, one for each. -/
def OfferCall (forms : ServiceForms) (call : Call) (methods : List Method) : Prop :=
  ∃ sync async, methods = sync ++ async ∧
    (if forms.sync then ∃ m, sync = [m] ∧ m.Waits .sync call else sync = []) ∧
    if forms.async then ∃ m behind, async = m :: behind ∧ m.Starts call behind else async = []

/-- The client has methods for each call, in their order, and what is found by position for each is
what would be found among its methods alone. The definitions are those of what is found. -/
structure ClientClass.Aligned (forms : ServiceForms) (calls : List Call) (c : ClientClass) :
    Prop where
  methods : ∃ own offers, c.methods = own ++ offers.flatten ∧
    (∀ m ∈ own, m.call = none ∧ m.kind ∈ [.constructor, .utility]) ∧
    List.Forall₂ (OfferCall forms) calls offers ∧
    ByPosition.called c.methods = offers.flatMap ByPosition.called
  definitions : c.operations.flatMap c.operationDefinitions =
    (ByPosition.called c.methods).flatMap (·.definition c.name)

/-- The first members of the job are those of the request, the others those of the response. -/
structure JobClass.Aligned (call : Call) (c : JobClass) : Prop where
  ofCall : (c.methods.find? (·.kind == .start)).bind (·.call) = some call
  request : (c.members.take call.request.length).map (·.held.part) = call.request
  response : (c.members.drop call.request.length).map (·.held.part) = call.response
  start : c.start = ByPosition.jobStart c.methods c.members

structure ServerClass.Aligned (calls : List Call) (c : ServerClass) : Prop where
  methods : List.Forall₂ (Method.Waits .pureVirtual) calls
    (c.methods.filter (·.kind == .pureVirtual))
  branches : c.operations.flatMap dispatch =
    (c.methods.filter (·.kind == .pureVirtual)).flatMap ByPosition.dispatch

/-- The classes are a server, or a client with its jobs, and all of them are aligned. -/
def ClassesAligned (forms : ServiceForms) (calls : List Call) (classes : List Class) : Prop :=
  if forms.server then ∃ server, classes = [.server server] ∧ server.Aligned calls
  else ∃ client jobs, classes = .client client :: jobs ∧ client.Aligned forms calls ∧
    List.Forall₂ (fun call cls => ∃ job, cls = .job job ∧ job.Aligned call)
      (if forms.jobs then calls else []) jobs

/-- The values of all parts of a response have types. -/
def Call.Valued (call : Call) : Prop := ∀ part ∈ call.response, part.value.text ≠ "void"

theorem standFor_input {parts : List PartValue} {arguments : List Argument}
    (h : CarryParts parts arguments) : StandFor (arguments.map .input) parts := by
  rw [StandFor, ← h.parts, List.map_map, List.map_map]
  rfl

theorem standFor_output {parts : List PartValue} {arguments : List Argument}
    (h : CarryParts parts arguments) : StandFor (arguments.map .output) parts := by
  rw [StandFor, ← h.parts, List.map_map, List.map_map]
  rfl

theorem CallMethod.Carries.waits {call : Call} {m : CallMethod} (h : m.Carries call)
    (valued : call.Valued) (kind : MethodKind) : (m.method kind).Waits kind call := by
  have outputs := h.outputs
  obtain rfl := h.ofCall
  refine ⟨rfl, rfl, ?_, ?_⟩
  · rw [inputs_method]
    exact standFor_input h.inputs
  · rw [outputs_method, show (m.method kind).returnType = m.call.returnType from rfl]
    by_cases returned : ∃ part, m.call.response = [part]
    · obtain ⟨part, single⟩ := returned
      have value : part.value.text ≠ "void" := valued part (by simp [single])
      rw [returnType_single single, if_neg value]
      rw [Call.stored, single] at outputs
      rw [List.map_eq_nil_iff.mp outputs.parts]
      exact ⟨rfl, part, single, rfl⟩
    · have many := not_exists.mp returned
      rw [returnType_many many, if_pos rfl]
      unfold Call.stored at outputs
      split at outputs
      · next part single => exact absurd single (many part)
      · exact standFor_output outputs

theorem AsyncMethod.Carries.starts {call : Call} {m : AsyncMethod} (h : m.Carries call) :
    m.method.Starts call m.signalMethods := by
  have signals := h.signals
  obtain rfl := h.ofCall
  refine ⟨rfl, rfl, ?_, ?_⟩
  · rw [inputs_method]
    exact standFor_input h.inputs
  · split at signals
    · next oneWay => rw [if_pos oneWay, signalMethods, signals]
    · next answered =>
      obtain ⟨s, hs, carries⟩ := signals
      rw [if_neg answered, signalMethods, hs]
      exact ⟨_, _, rfl, rfl, rfl, standFor_input carries.arguments, rfl⟩

/-! ## Classes -/

theorem ClientOperation.Carries.offerCall {forms : ServiceForms} {call : Call}
    {o : ClientOperation} (h : o.Carries forms call) (valued : call.Valued) :
    OfferCall forms call o.methods := by
  refine ⟨_, _, rfl, ?_, ?_⟩
  · have sync := h.sync
    split at sync
    · next wanted =>
      obtain ⟨m, hm, carries⟩ := sync
      rw [if_pos wanted, hm]
      exact ⟨_, rfl, carries.waits valued .sync⟩
    · next unwanted =>
      rw [if_neg unwanted, sync]
      rfl
  · have async := h.async
    split at async
    · next wanted =>
      obtain ⟨m, hm, carries⟩ := async
      rw [if_pos wanted, hm]
      exact ⟨_, _, List.flatMap_singleton .., carries.starts⟩
    · next unwanted =>
      rw [if_neg unwanted, async]
      rfl

theorem ClientClass.aligned {forms : ServiceForms} {calls : List Call} {c : ClientClass}
    (h : List.Forall₂ (ClientOperation.Carries forms) calls c.operations)
    (valued : ∀ call ∈ calls, call.Valued) : c.Aligned forms calls := by
  -- Both by one induction over the operations, of which the client itself is no part.
  have offers {calls : List Call} {operations : List ClientOperation}
      (h : List.Forall₂ (ClientOperation.Carries forms) calls operations)
      (valued : ∀ call ∈ calls, call.Valued) :
      List.Forall₂ (OfferCall forms) calls (operations.map (·.methods)) ∧
        operations.flatMap (·.called) =
          (operations.map (·.methods)).flatMap ByPosition.called := by
    induction h with
    | nil => exact ⟨.nil, rfl⟩
    | cons carries _ ih =>
      obtain ⟨first, rest⟩ := List.forall_mem_cons.mp valued
      obtain ⟨offered, found⟩ := ih rest
      refine ⟨.cons (carries.offerCall first) offered, ?_⟩
      rw [List.flatMap_cons, List.map_cons, List.flatMap_cons, carries.called_methods, found]
  obtain ⟨offered, found⟩ := offers h valued
  refine ⟨⟨_, _, rfl, ?_, offered, ?_⟩, (definitions_called h valued).symm⟩
  · simp [Method.plain]
  · rw [called_methods h, found]

theorem JobClass.Carries.aligned {call : Call} {c : JobClass} (h : c.Carries call) :
    c.Aligned call where
  ofCall := congrArg some h.ofCall
  request := by
    rw [members, List.take_left' h.length_request]
    exact h.request
  response := by
    rw [members, List.drop_left' h.length_request]
    exact h.response
  start := (start_eq h).symm

theorem ServerClass.aligned {calls : List Call} {c : ServerClass}
    (h : List.Forall₂ CallMethod.Carries calls c.operations)
    (valued : ∀ call ∈ calls, call.Valued) : c.Aligned calls := by
  have implemented : c.methods.filter (·.kind == .pureVirtual) =
      c.operations.map (·.method .pureVirtual) := by
    rw [methods]
    simp [Method.plain, CallMethod.method]
  have each {calls : List Call} {operations : List CallMethod}
      (h : List.Forall₂ CallMethod.Carries calls operations)
      (valued : ∀ call ∈ calls, call.Valued) :
      List.Forall₂ (Method.Waits .pureVirtual) calls (operations.map (·.method .pureVirtual)) ∧
        operations.flatMap dispatch =
          (operations.map (·.method .pureVirtual)).flatMap ByPosition.dispatch := by
    induction h with
    | nil => exact ⟨.nil, rfl⟩
    | cons carries _ ih =>
      obtain ⟨first, rest⟩ := List.forall_mem_cons.mp valued
      obtain ⟨wait, branches⟩ := ih rest
      refine ⟨.cons (carries.waits first .pureVirtual) wait, ?_⟩
      rw [List.flatMap_cons, List.map_cons, List.flatMap_cons, CallMethod.dispatch_eq carries first,
        branches]
  obtain ⟨wait, branches⟩ := each h valued
  exact ⟨implemented ▸ wait, implemented ▸ branches⟩

/-! ## All services -/

/-- For every service and every choice of forms, each class has what belongs to each of the valid
operations where it is looked for by position. -/
theorem classes_aligned (forms : ServiceForms) (o : OrderedGraph) (services : List BoundService)
    (namespaces : List String) (wishes : NamespaceCodes.Wishes) : ∃ ofServices,
    classes forms o services (.ofNamespaces namespaces wishes) =
      o.order.filterMap (contextOf o (.ofNamespaces namespaces wishes)).typeClass? ++
        ofServices.flatten ∧
    List.Forall₂ (fun s ofService => ClassesAligned forms
      (s.validOperations.map ((contextOf o (.ofNamespaces namespaces wishes)).call s)) ofService)
      services ofServices := by
  have named := named_contextOf o namespaces wishes
  obtain ⟨ofServices, listed, carry⟩ := carries_classes forms o services namespaces wishes
  refine ⟨ofServices, listed, carry.imp fun s ofService h => ?_⟩
  have valued : ∀ call ∈ s.validOperations.map
      ((contextOf o (.ofNamespaces namespaces wishes)).call s), call.Valued := by
    intro call hcall part hpart
    obtain ⟨op, _, rfl⟩ := List.mem_map.mp hcall
    exact (ClassContext.isSpelled_part named (List.mem_append_right _ hpart)).value
  unfold ClassesCarry at h
  unfold ClassesAligned
  split at h
  · next server =>
    obtain ⟨c, single, _, operations⟩ := h
    rw [if_pos server]
    exact ⟨c, single, ServerClass.aligned operations valued⟩
  · next client =>
    obtain ⟨c, jobs, all, _, operations, each⟩ := h
    rw [if_neg client]
    refine ⟨c, jobs, all, ClientClass.aligned operations valued, each.imp fun call cls h => ?_⟩
    obtain ⟨job, rfl, _, carries⟩ := h
    exact ⟨job, rfl, carries.aligned⟩

end SoapBindings.Cpp
