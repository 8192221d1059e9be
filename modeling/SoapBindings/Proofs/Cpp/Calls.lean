import SoapBindings.Cpp.ServiceClasses
import SoapBindings.Proofs.Cpp.Members
import SoapBindings.Proofs.Graph.Reachability
import SoapBindings.Proofs.Services.Validity

/-!
# Classes of services and their calls

A call is made once from its operation, and each class of a service has it in the same form. So
where the parts of valid operations have value types, every call has one part value for each part
(`keepsParts_call`), and so has every class that makes or answers one (`keepsCalls_serviceClasses`).

A member or a part whose type has no class would be left out without a word. Where a graph provides
all that its types and the parts of operations refer to, and the order names all types of the graph,
each of them has a class, so nothing is left out (`keepAll_classes`).
-/

set_option autoImplicit false

namespace SoapBindings.Cpp

/-- The value stands for the part. -/
def IsPartOf (p : BoundPart) (v : PartValue) : Prop :=
  v.xml = match p.element with
    | some e => ⟨e.localName, some e.ns⟩
    | none => ⟨p.name, none⟩

/-- The parts of a message, if there is one. -/
def partsOf (m : Option BoundMessage) : List BoundPart := m.toList.flatMap (·.parts)

/-- The call is one of the operation, with one value for each part of its messages. -/
structure KeepsParts (op : BoundOperation) (call : Call) : Prop where
  operation : call.operation = op.name
  request : List.Forall₂ IsPartOf (partsOf op.input) call.request
  response : List.Forall₂ IsPartOf (partsOf op.output) call.response

/-- A client offers the operation in the wanted forms, with all its parts. -/
structure Offers (forms : ServiceForms) (op : BoundOperation) (o : ClientOperation) : Prop where
  wanted : o.sync.isSome = forms.sync ∧ o.async.isSome = forms.async
  sync : ∀ m ∈ o.sync, KeepsParts op m.call
  async : ∀ m ∈ o.async, KeepsParts op m.call

/-- The classes are those of the service: each valid operation is in them, with all its parts. -/
def KeepsCalls (forms : ServiceForms) (s : BoundService) (classes : List Class) : Prop :=
  if forms.server then ∃ server, classes = [.server server] ∧
    List.Forall₂ (fun op m => KeepsParts op m.call) s.validOperations server.operations
  else ∃ client jobs, classes = .client client :: jobs ∧
    List.Forall₂ (Offers forms) s.validOperations client.operations ∧
    List.Forall₂ (fun op cls => ∃ job, cls = .job job ∧ KeepsParts op job.call)
      (if forms.jobs then s.validOperations else []) jobs

namespace ClassContext

variable {c : ClassContext}

theorem forall₂_partValues {m : Option BoundMessage} (h : ∀ p ∈ partsOf m, c.Resolves p.type) :
    List.Forall₂ IsPartOf (partsOf m) (c.partValues m) := by
  rw [partValues]
  refine forall₂_filterMap fun p hp => ?_
  obtain ⟨value, hvalue⟩ := Option.isSome_iff_exists.mp (h p hp)
  rw [hvalue]
  exact ⟨_, rfl, rfl⟩

/-- The values of all parts of the input and the output of the operation have types. -/
def ResolvesParts (c : ClassContext) (op : BoundOperation) : Prop :=
  ∀ p ∈ partsOf op.input ++ partsOf op.output, c.Resolves p.type

theorem keepsParts_call {op : BoundOperation} (h : c.ResolvesParts op) (s : BoundService) :
    KeepsParts op (c.call s op) where
  operation := rfl
  request := forall₂_partValues fun p hp => h p (List.mem_append_left _ hp)
  response := forall₂_partValues fun p hp => h p (List.mem_append_right _ hp)

/-! ## Clients -/

/-- Whatever names are taken, the call is that of the operation. -/
theorem sync_clientOperation (forms : ServiceForms) (code : String) (s : BoundService)
    (op : BoundOperation) (scope : Scope) :
    ((c.clientOperation forms code s op scope).1.sync).map (·.call) =
      if forms.sync then some (c.call s op) else none := by
  obtain ⟨server, sync, async, jobs⟩ := forms
  cases sync <;> cases async <;> rfl

theorem async_clientOperation (forms : ServiceForms) (code : String) (s : BoundService)
    (op : BoundOperation) (scope : Scope) :
    ((c.clientOperation forms code s op scope).1.async).map (·.call) =
      if forms.async then some (c.call s op) else none := by
  obtain ⟨server, sync, async, jobs⟩ := forms
  cases sync <;> cases async <;> rfl

theorem offers_clientOperation {op : BoundOperation} (h : c.ResolvesParts op)
    (forms : ServiceForms) (code : String) (s : BoundService) (scope : Scope) :
    Offers forms op (c.clientOperation forms code s op scope).1 := by
  have sync := c.sync_clientOperation forms code s op scope
  have async := c.async_clientOperation forms code s op scope
  have whole : ∀ (wanted : Bool) (call : Call),
      call ∈ (if wanted then some (c.call s op) else none) → KeepsParts op call := by
    intro wanted call hcall
    cases wanted with
    | true =>
      obtain rfl := Option.some.inj hcall
      exact keepsParts_call h s
    | false => cases hcall
  refine ⟨⟨?_, ?_⟩, fun m hm => whole forms.sync _ ?_, fun m hm => whole forms.async _ ?_⟩
  · rw [← Option.isSome_map, sync]
    cases forms.sync <;> rfl
  · rw [← Option.isSome_map, async]
    cases forms.async <;> rfl
  · rw [← sync]
    exact Option.mem_map_of_mem _ hm
  · rw [← async]
    exact Option.mem_map_of_mem _ hm

variable {s : BoundService}

theorem keepsCalls_clientClasses {forms : ServiceForms} (client : forms.server = false)
    (h : ∀ op ∈ s.validOperations, c.ResolvesParts op) (all : List BoundService) (scope : Scope) :
    KeepsCalls forms s (c.clientClasses forms all s scope).1 := by
  have offers (code : String) (scope : Scope) : List.Forall₂ (Offers forms) s.validOperations
      (s.validOperations.mapM (c.clientOperation forms code s) scope).1 :=
    forall₂_mapM (fun op hop scope => offers_clientOperation (h op hop) forms code s scope) scope
  have wholeJobs (code name : String) (scope : Scope) : List.Forall₂
      (fun op cls => ∃ job, cls = .job job ∧ KeepsParts op job.call) s.validOperations
      (s.validOperations.mapM (fun op => do
        let job ← takeName (upperCamel op.name ++ "Job") code
        return .job (c.jobClass code name s op job) : _ → Naming Class) scope).1 :=
    forall₂_mapM (fun op hop scope => ⟨_, rfl, keepsParts_call (h op hop) s⟩) scope
  obtain ⟨server, sync, async, jobs⟩ := forms
  cases client
  cases jobs with
  | true => exact ⟨_, _, rfl, offers .., wholeJobs ..⟩
  | false => exact ⟨_, _, rfl, offers .., .nil⟩

/-! ## Servers -/

theorem keepsCalls_serverClass {forms : ServiceForms} (server : forms.server)
    (h : ∀ op ∈ s.validOperations, c.ResolvesParts op) (all : List BoundService) (scope : Scope) :
    KeepsCalls forms s [(c.serverClass all s scope).1] := by
  rw [KeepsCalls, if_pos server]
  refine ⟨_, rfl, forall₂_mapM (fun op hop scope => ?_) _⟩
  exact keepsParts_call (h op hop) s

theorem keepsCalls_serviceClasses (forms : ServiceForms)
    (h : ∀ op ∈ s.validOperations, c.ResolvesParts op) (all : List BoundService) (scope : Scope) :
    KeepsCalls forms s (c.serviceClasses forms all s scope).1 := by
  rw [serviceClasses]
  by_cases server : forms.server
  · rw [if_pos server]
    exact keepsCalls_serverClass server h all scope
  · rw [if_neg server]
    exact keepsCalls_clientClasses (Bool.not_eq_true _ ▸ server) h all scope

end ClassContext

/-! ## Classes that lack nothing -/

/-- The classes are those of the ordered types and then those of the services, and none of them
lacks anything. -/
def KeepAll (forms : ServiceForms) (o : OrderedGraph) (services : List BoundService)
    (classes : List Class) : Prop :=
  ∃ ofTypes ofServices, classes = ofTypes ++ ofServices.flatten ∧
    List.Forall₂ (fun id cls => ∃ n, o.graph.types[id]? = some n ∧ Keeps n cls) o.order ofTypes ∧
    List.Forall₂ (KeepsCalls forms) services ofServices

theorem mem_partTypes_of_mem_partsOf {op : BoundOperation} {p : BoundPart}
    (h : p ∈ partsOf op.input ++ partsOf op.output) : p.type ∈ op.partTypes := by
  have inMessage : ∃ m ∈ op.messages, p ∈ m.parts := by
    rcases List.mem_append.mp h with h | h
    · obtain ⟨m, hm, hp⟩ := List.mem_flatMap.mp h
      exact ⟨m, List.mem_append_left _ (List.mem_append_left _ hm), hp⟩
    · obtain ⟨m, hm, hp⟩ := List.mem_flatMap.mp h
      exact ⟨m, List.mem_append_left _ (List.mem_append_right _ hm), hp⟩
  obtain ⟨m, hm, hp⟩ := inMessage
  exact BindingContext.mem_partTypes.mpr ⟨m, hm, p, hp, rfl⟩

/-- The context that the classes of an ordered graph are generated in. -/
def contextOf (o : OrderedGraph) (codes : NamespaceCodes) : ClassContext :=
  ⟨o.graph.types, codes, (takeClassNames codes o.order (.reserving [])).1⟩

section

variable {o : OrderedGraph} {codes : NamespaceCodes}

theorem mem_classNames {id : TypeId} : id ∈ (contextOf o codes).classNames ↔ id ∈ o.order :=
  mem_takeClassNames

/-- What the graph provides has a class, as the order names all types of the graph. -/
theorem resolves_of_provides (ordered : ∀ id, id ∈ o.graph.types → id ∈ o.order) {r : TypeRef}
    (h : o.graph.Provides r) : (contextOf o codes).Resolves r := by
  cases r with
  | builtin b => rfl
  | node id =>
    obtain ⟨name, hname⟩ := exists_getElem?_of_mem (mem_classNames.mpr (ordered id h))
    rw [ClassContext.Resolves, ClassContext.valueType?, hname]
    rfl
  | unresolved name => exact h.elim

theorem keepAll_classes {services : List BoundService} (forms : ServiceForms)
    (ordered : ∀ id, id ∈ o.order ↔ id ∈ o.graph.types) (complete : o.graph.Complete)
    (parts : ∀ s ∈ services, ∀ op ∈ s.validOperations, ∀ r ∈ op.partTypes, o.graph.Provides r) :
    KeepAll forms o services (classes forms o services codes) := by
  have resolves {r : TypeRef} (h : o.graph.Provides r) : (contextOf o codes).Resolves r :=
    resolves_of_provides (fun id => (ordered id).mpr) h
  refine ⟨o.order.filterMap (contextOf o codes).typeClass?, _, rfl, ?_, ?_⟩
  · refine forall₂_filterMap fun id hid => ?_
    obtain ⟨n, hn⟩ := exists_getElem?_of_mem ((ordered id).mp hid)
    obtain ⟨cls, hcls, keeps⟩ := ClassContext.keeps_typeClass? hn (mem_classNames.mpr hid)
      fun r hr => resolves (complete id n hn r hr)
    exact ⟨cls, hcls, n, hn, keeps⟩
  · refine forall₂_mapM (fun s hs scope => ?_) _
    refine ClassContext.keepsCalls_serviceClasses forms (fun op hop p hp => ?_) services scope
    exact resolves (parts s hs op hop p.type (mem_partTypes_of_mem_partsOf hp))

end

end SoapBindings.Cpp
