import SoapBindings.Cpp.Method
import SoapBindings.Proofs.Cpp.ClassNames
import SoapBindings.Proofs.Cpp.Order

/-!
# The scopes of classes and methods

All that a class calls by name in its own scope is called differently (`WellScoped`), and so are the
parameters of each of its methods. Every class takes its names from a scope that its name and the
names which such classes use themselves were put into first, so it is enough to read off which names
are taken (`Takes`); with the class name and the reserved names they are a whole scope
(`nodup_scope`).
-/

set_option autoImplicit false

namespace SoapBindings.Cpp

/-- The getter and the setter of a member. -/
def Member.accessorNames (m : Member) : List String := [m.name, m.setter]

/-- What a class has besides its members and methods. -/
def Class.otherNames : Class → List String
  | .client _ => ["clientInterface"]
  | _ => []

/-- Constructors are called like their class. -/
def Method.hasOwnName (m : Method) : Bool := m.kind != .constructor

/-- The names in the scope of a class: its own, those of its accessors and those of its methods. -/
def Class.scopeNames (c : Class) : List String :=
  c.name :: c.members.flatMap (·.accessorNames) ++
    (c.methods.filter (·.hasOwnName)).map (·.name) ++ c.otherNames

def Method.ParametersDiffer (m : Method) : Prop := (m.parameters.map (·.name)).Nodup

/-- No two things that one scope of the class holds have one name. -/
structure WellScoped (c : Class) : Prop where
  names : c.scopeNames.Nodup
  parameters : ∀ m ∈ c.methods, m.ParametersDiffer

/-- A class name, the names taken behind it and the reserved ones all differ. -/
theorem nodup_scope {reserved names : List String} {name code : String} {after : Scope}
    (h : IsClassName name) (free : name ∉ reserved) (nodup : reserved.Nodup)
    (takes : Takes (ClassContext.memberScope reserved name code) names after) :
    (name :: names ++ reserved).Nodup := by
  have before := names_memberScope h free code
  have whole : after.names.Nodup := by
    apply takes.nodup
    rw [before]
    exact List.nodup_cons.mpr ⟨free, nodup⟩
  rw [takes.names_eq, before] at whole
  refine (List.Perm.nodup_iff ?_).mp whole
  exact ((List.reverse_perm names).append_right _).trans List.perm_middle

/-! ## Parameters -/

namespace Call

variable (call : Call) (code : String)

theorem takes_argumentsOf (parts : List PartValue) (scope : Scope) :
    Takes scope ((argumentsOf code parts scope).1.map (·.name))
      (argumentsOf code parts scope).2 := by
  rw [List.map_eq_flatMap]
  exact .mapM (fun _ _ _ => .takeName ..) scope

theorem nodup_inputs : ((call.inputs code).map (·.name)).Nodup :=
  (takes_argumentsOf code call.request _).nodup_names List.nodup_nil

theorem nodup_answers : ((call.answers code).map (·.name)).Nodup :=
  (takes_argumentsOf code call.response _).nodup_names List.nodup_nil

/-- Outputs are told apart from the inputs before them. -/
theorem nodup_inputs_outputs :
    ((call.inputs code).map (·.name) ++ (call.outputs code).map (·.name)).Nodup := by
  have inputs := call.nodup_inputs code
  unfold outputs
  split
  · rwa [List.map_nil, List.append_nil]
  · rwa [List.map_nil, List.append_nil]
  · let rename (a : Argument) : Naming Argument := do
      return { a with name := ← takeName a.name code }
    let scope := Scope.reserving ((call.inputs code).map (·.name))
    have takes : Takes scope (((call.answers code).mapM rename scope).1.map (·.name))
        ((call.answers code).mapM rename scope).2 := by
      rw [List.map_eq_flatMap]
      exact .mapM (fun _ _ _ => .takeName ..) scope
    have whole := takes.nodup inputs
    rw [takes.names_eq] at whole
    refine (List.Perm.nodup_iff ?_).mp whole
    exact ((List.reverse_perm _).append_right _).trans List.perm_append_comm

end Call

theorem parametersDiffer_callMethod (kind : MethodKind) (call : Call) (code name : String)
    (documentation : Option String) :
    ((ClassContext.callMethod call code name documentation).method kind).ParametersDiffer := by
  have whole := call.nodup_inputs_outputs code
  rw [Method.ParametersDiffer, CallMethod.method, ClassContext.callMethod, List.map_append,
    List.map_map, List.map_map]
  exact whole

/-! ## Classes of types -/

namespace ClassContext

variable {c : ClassContext}

theorem takes_member? (code : String) (p : Particle) (scope : Scope) :
    Takes scope ((c.member? code p scope).1.toList.flatMap (·.accessorNames))
      (c.member? code p scope).2 := by
  unfold member?
  cases c.valueType? p.type with
  | none => exact .nil
  | some value => exact (Takes.takeName (lowerCamel p.name) _ scope).append (.takeName ..)

theorem takes_members (code : String) (ps : List Particle) (scope : Scope) :
    Takes scope ((c.members code ps scope).1.flatMap (·.accessorNames))
      (c.members code ps scope).2 := by
  have each : Takes scope
      ((ps.mapM (c.member? code) scope).1.flatMap (·.toList.flatMap (·.accessorNames)))
      (ps.mapM (c.member? code) scope).2 :=
    .mapM (fun p _ scope => takes_member? code p scope) scope
  rw [← List.flatMap_assoc, ← List.filterMap_eq_flatMap_toList] at each
  exact each

theorem takes_contentMember (code name : String) (type : TypeRef) (occurs : Schema.Occurs)
    (scope : Scope) :
    Takes scope ((c.contentMember code name type occurs scope).1.flatMap (·.accessorNames))
      (c.contentMember code name type occurs scope).2 := by
  have takes := takes_member? (c := c) code (contentParticle name type occurs) scope
  rw [contentMember]
  show Takes scope ((_ : List Member).map _ |>.flatMap _) _
  rw [List.flatMap_map]
  exact takes

theorem takes_membersOf (code : String) (n : TypeNode) (scope : Scope) :
    Takes scope ((c.membersOf code n scope).1.flatMap (·.accessorNames))
      (c.membersOf code n scope).2 := by
  obtain ⟨kind, base, isAbstract, documentation, origin⟩ := n
  cases kind with
  | simple type facets => exact takes_contentMember ..
  | list item => exact takes_contentMember ..
  | enumeration type values => exact .nil
  | complex content attributes mixed anyAttribute =>
    let ps := TypeNode.members ⟨.complex content attributes mixed anyAttribute, base, isAbstract,
      documentation, origin⟩
    cases content with
    | value type =>
      have takes := (takes_contentMember (c := c) code "value" type .once scope).append
        (takes_members (c := c) code ps _)
      rw [← List.flatMap_append] at takes
      exact takes
    | empty | sequence _ | choice _ | all _ => exact takes_members code ps scope

theorem small_codecNames : ∀ r ∈ codecNames, ¬ NoSmallStart r.toList := by
  decide

theorem wellScoped_typeClass? (named : c.Named) {id : TypeId} {cls : Class}
    (h : c.typeClass? id = some cls) : WellScoped cls := by
  obtain ⟨n, name, _, hname, found⟩ := typeClass?_cases h
  have capital := named.classNames id name hname
  rcases found with ⟨_, literals, _, rfl⟩ | ⟨kind, base, _, rfl, _⟩
  · constructor
    · show (name :: ["toString", "fromString", "serialize", "deserialize"]).Nodup
      exact List.nodup_cons.mpr ⟨capital.not_mem (by decide), by decide⟩
    · show ∀ m ∈ enumerationMethods, (m.parameters.map (·.name)).Nodup
      decide
  · constructor
    · let scope := memberScope codecNames name (c.code id.ns)
      have whole := nodup_scope capital (capital.not_mem small_codecNames) (by decide)
        (takes_membersOf (c := c) (c.code id.ns) n scope)
      rw [← List.append_nil (_ ++ codecNames)] at whole
      exact whole
    · show ∀ m ∈ codecMethods, (m.parameters.map (·.name)).Nodup
      decide

/-! ## Clients -/

theorem noSmallStart_serviceCandidate (all : List BoundService) (s : BoundService) :
    NoSmallStart (serviceCandidate all s).toList := by
  rw [serviceCandidate, String.toList_append]
  refine (noSmallStart_upperCamel s.service).append ?_
  split
  · exact noSmallStart_upperCamel s.port
  · decide

variable {forms : ServiceForms} {all : List BoundService} {s : BoundService} {op : BoundOperation}

/-- What is said of each method that a client has for an operation. -/
structure ForOperation (m : Method) : Prop where
  named : m.hasOwnName
  parameters : m.ParametersDiffer

theorem forOperation_callMethod (kind : MethodKind) (hkind : kind ≠ .constructor) (call : Call)
    (code name : String) (documentation : Option String) :
    ForOperation ((callMethod call code name documentation).method kind) :=
  ⟨bne_iff_ne.mpr hkind, parametersDiffer_callMethod ..⟩

theorem parametersDiffer_inputs {arguments : List Argument} {m : Method}
    (h : (arguments.map (·.name)).Nodup) (shape : m.parameters = arguments.map .input) :
    m.ParametersDiffer := by
  rw [Method.ParametersDiffer, shape, List.map_map]
  exact h

theorem takes_answerSignals (call : Call) (code base : String) (scope : Scope) :
    Takes scope ((answerSignals call code base scope).1.toList.flatMap fun s => [s.done, s.error])
      (answerSignals call code base scope).2 := by
  unfold answerSignals
  by_cases oneWay : call.oneWay = true
  · simp only [oneWay, if_true]
    exact .nil
  · simp only [oneWay]
    exact (Takes.takeName (base ++ "Done") code scope).append (.takeName ..)

theorem answerSignals_cases {call : Call} {code base : String} {scope : Scope}
    {signals : AnswerSignals} (h : signals ∈ (answerSignals call code base scope).1) :
    ∃ before between, signals = ⟨(takeName (base ++ "Done") code before).1, call.answers code,
      (takeName (base ++ "Error") code between).1⟩ := by
  unfold answerSignals at h
  by_cases oneWay : call.oneWay = true
  · simp only [oneWay, if_true] at h
    cases h
  · simp only [oneWay] at h
    cases h
    exact ⟨_, _, rfl⟩

/-- The form of an operation that waits. -/
def syncForm (c : ClassContext) (forms : ServiceForms) (code : String) (s : BoundService)
    (op : BoundOperation) : Naming (Option CallMethod) :=
  if forms.sync then do
    let name ← takeName (lowerCamel op.name) code
    pure (some (callMethod (c.call s op) code name op.documentation))
  else pure none

/-- The form of an operation that does not. -/
def asyncForm (c : ClassContext) (forms : ServiceForms) (code : String) (s : BoundService)
    (op : BoundOperation) : Naming (Option AsyncMethod) :=
  if forms.async then do
    let name ← takeName ("async" ++ upperCamel op.name) code
    let signals ← answerSignals (c.call s op) code (lowerCamel op.name)
    pure (some ⟨name, c.call s op, (c.call s op).inputs code, signals, op.documentation⟩)
  else pure none

theorem clientOperation_eq (code : String) : c.clientOperation forms code s op =
    (do
      let sync ← c.syncForm forms code s op
      let async ← c.asyncForm forms code s op
      return ⟨sync, async⟩) := by
  unfold clientOperation syncForm asyncForm
  cases forms.sync <;> cases forms.async <;> rfl

theorem takes_syncForm (code : String) (scope : Scope) :
    Takes scope ((c.syncForm forms code s op scope).1.toList.map (·.name))
      (c.syncForm forms code s op scope).2 := by
  unfold syncForm
  by_cases sync : forms.sync = true
  · simp only [sync, if_true]
    exact .takeName ..
  · simp only [sync]
    exact .nil

theorem takes_asyncForm (code : String) (scope : Scope) :
    Takes scope ((c.asyncForm forms code s op scope).1.toList.flatMap fun m =>
        (m.method :: m.signalMethods).map (·.name))
      (c.asyncForm forms code s op scope).2 := by
  unfold asyncForm
  by_cases async : forms.async = true
  · simp only [async, if_true]
    let name := takeName ("async" ++ upperCamel op.name) code scope
    let signals := answerSignals (c.call s op) code (lowerCamel op.name) name.2
    have takes : Takes scope ([name.1] ++ signals.1.toList.flatMap fun s => [s.done, s.error])
        signals.2 :=
      (Takes.takeName ("async" ++ upperCamel op.name) code scope).append (takes_answerSignals ..)
    have named : ∀ signals : Option AnswerSignals,
        (AsyncMethod.signalMethods ⟨name.1, c.call s op, (c.call s op).inputs code, signals,
          op.documentation⟩).map (·.name) = signals.toList.flatMap fun s => [s.done, s.error] := by
      intro signals
      cases signals with
      | none | some _ => rfl
    rw [← named signals.1, ← List.append_nil (_ ++ _)] at takes
    exact takes
  · simp only [async]
    exact .nil

/-- An operation takes the names of its methods. -/
theorem takes_clientOperation (code : String) (scope : Scope) :
    Takes scope ((c.clientOperation forms code s op scope).1.methods.map (·.name))
      (c.clientOperation forms code s op scope).2 := by
  rw [clientOperation_eq, ClientOperation.methods, List.map_append, List.map_map, List.map_flatMap]
  exact (takes_syncForm code scope).append (takes_asyncForm code _)

/-- The method of a client that waits takes its name from the operation. -/
theorem sync_clientOperation_cases {code : String} {scope : Scope} {m : CallMethod}
    (h : m ∈ (c.clientOperation forms code s op scope).1.sync) : ∃ before,
      m = callMethod (c.call s op) code (takeName (lowerCamel op.name) code before).1
        op.documentation := by
  rw [clientOperation_eq] at h
  replace h : m ∈ (c.syncForm forms code s op scope).1 := h
  unfold syncForm at h
  by_cases sync : forms.sync = true
  · simp only [sync, if_true] at h
    exact ⟨scope, (Option.some.inj h).symm⟩
  · simp only [sync] at h
    cases h

/-- So do the one that does not and its signals. -/
theorem async_clientOperation_cases {code : String} {scope : Scope} {m : AsyncMethod}
    (h : m ∈ (c.clientOperation forms code s op scope).1.async) : ∃ before between,
      m = ⟨(takeName ("async" ++ upperCamel op.name) code before).1, c.call s op,
        (c.call s op).inputs code,
        (answerSignals (c.call s op) code (lowerCamel op.name) between).1, op.documentation⟩ := by
  rw [clientOperation_eq] at h
  replace h : m ∈ (c.asyncForm forms code s op (c.syncForm forms code s op scope).2).1 := h
  unfold asyncForm at h
  by_cases async : forms.async = true
  · simp only [async, if_true] at h
    exact ⟨_, _, (Option.some.inj h).symm⟩
  · simp only [async] at h
    cases h

theorem forOperation_of_mem_methods {code : String} {scope : Scope} {m : Method}
    (h : m ∈ (c.clientOperation forms code s op scope).1.methods) : ForOperation m := by
  rcases List.mem_append.mp h with h | h
  · obtain ⟨method, hmethod, rfl⟩ := List.mem_map.mp h
    obtain ⟨_, rfl⟩ := sync_clientOperation_cases (Option.mem_toList.mp hmethod)
    exact forOperation_callMethod .sync nofun ..
  · obtain ⟨method, hmethod, h⟩ := List.mem_flatMap.mp h
    obtain ⟨_, _, rfl⟩ := async_clientOperation_cases (Option.mem_toList.mp hmethod)
    rcases List.mem_cons.mp h with rfl | h
    · exact ⟨rfl, parametersDiffer_inputs ((c.call s op).nodup_inputs code) rfl⟩
    · unfold AsyncMethod.signalMethods at h
      split at h
      · cases h
      · next signals found =>
        obtain ⟨_, _, rfl⟩ := answerSignals_cases found
        rcases List.mem_cons.mp h with rfl | h
        · exact ⟨rfl, parametersDiffer_inputs ((c.call s op).nodup_answers code) rfl⟩
        · rw [List.mem_singleton.mp h]
          exact ⟨rfl, List.nodup_singleton _⟩

theorem small_clientNames : ∀ r ∈ clientNames, ¬ NoSmallStart r.toList := by decide

/-- A client has the names that every client uses itself, and those of its operations. -/
theorem scopeNames_client_perm {client : ClientClass}
    (named : ∀ m ∈ client.operations.flatMap (·.methods), m.hasOwnName) :
    (Class.client client).scopeNames.Perm
      (client.name :: (client.operations.flatMap (·.methods)).map (·.name) ++ clientNames) := by
  let utilities := ["setEndPoint", "endPoint", "lastError"]
  show (client.name :: (utilities ++ ((client.operations.flatMap (·.methods)).filter
    (·.hasOwnName)).map (·.name) ++ ["clientInterface"])).Perm _
  rw [List.filter_eq_self.mpr named]
  refine List.Perm.cons client.name ?_
  show (_ ++ _ ++ ["clientInterface"]).Perm (_ ++ (utilities ++ ["clientInterface"]))
  rw [← List.append_assoc]
  exact List.perm_append_comm.append_right _

/-- The client of a service, with the name that was taken for it. -/
def clientOf (c : ClassContext) (forms : ServiceForms) (s : BoundService) (name : String) :
    ClientClass :=
  let code := c.code s.ns
  ⟨name, endpoint s, (s.validOperations.mapM (c.clientOperation forms code s)
    (memberScope clientNames name code)).1, s.documentation⟩

theorem wellScoped_client (c : ClassContext) (forms : ServiceForms) (s : BoundService)
    {name : String} (capital : IsClassName name) :
    WellScoped (.client (c.clientOf forms s name)) := by
  let code := c.code s.ns
  let operations :=
    s.validOperations.mapM (c.clientOperation forms code s) (memberScope clientNames name code)
  have each : ∀ m ∈ operations.1.flatMap (·.methods), ForOperation m := by
    intro m hm
    obtain ⟨operation, hoperation, hm⟩ := List.mem_flatMap.mp hm
    obtain ⟨op, _, scope, rfl⟩ := exists_of_mem_mapM hoperation
    exact forOperation_of_mem_methods hm
  constructor
  · have takes : Takes (memberScope clientNames name code)
        (operations.1.flatMap fun o => o.methods.map (·.name)) operations.2 :=
      .mapM (fun op _ scope => takes_clientOperation code scope) _
    have whole := nodup_scope capital (capital.not_mem small_clientNames) (by decide) takes
    rw [← List.map_flatMap] at whole
    exact (scopeNames_client_perm fun m hm => (each m hm).named).nodup_iff.mpr whole
  · intro m hm
    rcases List.mem_append.mp hm with hm | hm
    · simp only [List.mem_cons, List.not_mem_nil, or_false] at hm
      rcases hm with rfl | rfl | rfl | rfl
      · exact List.nodup_singleton _
      · exact List.nodup_singleton _
      · exact List.nodup_nil
      · exact List.nodup_nil
    · exact (each m hm).parameters

/-! ## Jobs -/

theorem takes_jobMembers (code : String) (candidate : String → String) (parts : List PartValue)
    (scope : Scope) :
    Takes scope ((jobMembers code candidate parts scope).1.flatMap (·.accessorNames))
      (jobMembers code candidate parts scope).2 :=
  .mapM (fun part _ scope => (Takes.takeName (candidate part.xml.name) code scope).append
    (.takeName ..)) scope

theorem small_jobNames : ∀ r ∈ jobNames, ¬ NoSmallStart r.toList := by decide

/-- All that a job has is called differently from what it uses itself. -/
theorem nodup_names_job (c : ClassContext) (s : BoundService) (op : BoundOperation) {name : String}
    (capital : IsClassName name) (code client : String) :
    (name :: (c.jobClass code client s op name).members.flatMap (·.accessorNames) ++
      jobNames).Nodup := by
  let call := c.call s op
  let request := jobMembers code lowerCamel call.request (memberScope jobNames name code)
  have takes := (takes_jobMembers code lowerCamel call.request _).append
    (takes_jobMembers code (fun part => "result" ++ upperCamel part) call.response request.2)
  rw [← List.flatMap_append] at takes
  exact nodup_scope capital (capital.not_mem small_jobNames) (by decide) takes

theorem wellScoped_job {name : String} (capital : IsClassName name) (code client : String) :
    WellScoped (.job (c.jobClass code client s op name)) := by
  constructor
  · have fewer : ["start", "finished"].Sublist jobNames := by decide
    have whole := (c.nodup_names_job s op capital code client).sublist
      ((List.Sublist.refl _).append fewer)
    rw [← List.append_nil (_ ++ ["start", "finished"])] at whole
    exact whole
  · intro m hm
    replace hm : m ∈ JobClass.methods _ := hm
    simp only [JobClass.methods, List.mem_cons, List.not_mem_nil, or_false] at hm
    rcases hm with rfl | rfl | rfl
    · show ["service", "parent"].Nodup
      decide
    · exact List.nodup_nil
    · exact List.nodup_singleton _

/-! ## Servers -/

theorem small_serverNames : ∀ r ∈ serverNames, ¬ NoSmallStart r.toList := by decide

theorem scopeNames_server (server : ServerClass) : (Class.server server).scopeNames =
    server.name :: server.operations.map (·.name) ++ serverNames := by
  let implemented := server.operations.map (·.method .pureVirtual)
  have kept : implemented.filter (·.hasOwnName) = implemented := by
    refine List.filter_eq_self.mpr fun m hm => ?_
    obtain ⟨operation, _, rfl⟩ := List.mem_map.mp hm
    rfl
  have methods : (Class.server server).methods.filter (·.hasOwnName) =
      (implemented ++ [_]).filter (·.hasOwnName) := rfl
  rw [Class.scopeNames, methods, List.filter_append, kept, List.map_append, List.map_map]
  exact List.append_nil _

/-- The method of a server for an operation. -/
def serverOperation (c : ClassContext) (code : String) (s : BoundService) (op : BoundOperation) :
    Naming CallMethod := do
  let method ← takeName (lowerCamel op.name) code
  return callMethod (c.call s op) code method op.documentation

/-- The base class for servers of a service, with the name that was taken for it. -/
def serverOf (c : ClassContext) (s : BoundService) (name : String) : ServerClass :=
  let code := c.code s.ns
  ⟨name, endpoint s, (s.validOperations.mapM (c.serverOperation code s)
    (memberScope serverNames name code)).1, s.documentation⟩

theorem wellScoped_server (c : ClassContext) (s : BoundService) {name : String}
    (capital : IsClassName name) : WellScoped (.server (c.serverOf s name)) := by
  let code := c.code s.ns
  let operations :=
    s.validOperations.mapM (c.serverOperation code s) (memberScope serverNames name code)
  constructor
  · have takes : Takes (memberScope serverNames name code) (operations.1.map (·.name))
        operations.2 := by
      rw [List.map_eq_flatMap]
      exact .mapM (fun op _ scope => .takeName (lowerCamel op.name) code scope) _
    have whole := nodup_scope capital (capital.not_mem small_serverNames) (by decide) takes
    rw [scopeNames_server]
    exact whole
  · intro m hm
    rcases List.mem_cons.mp hm with rfl | hm
    · exact List.nodup_nil
    · rcases List.mem_append.mp hm with hm | hm
      · obtain ⟨operation, hoperation, rfl⟩ := List.mem_map.mp hm
        obtain ⟨op, _, scope, rfl⟩ := exists_of_mem_mapM hoperation
        exact parametersDiffer_callMethod ..
      · rw [List.mem_singleton.mp hm]
        show ["request", "response", "soapAction"].Nodup
        decide

/-! ## Classes of services -/

/-- The class is one that a service has, under some class name. -/
inductive OfService (c : ClassContext) (forms : ServiceForms) (s : BoundService) : Class → Prop
  | client {name : String} (capital : IsClassName name) :
    OfService c forms s (.client (c.clientOf forms s name))
  | job (op : BoundOperation) (client : String) {name : String} (capital : IsClassName name) :
    OfService c forms s (.job (c.jobClass (c.code s.ns) client s op name))
  | server {name : String} (capital : IsClassName name) :
    OfService c forms s (.server (c.serverOf s name))

theorem ofService_clientClasses (named : c.Named) (scope : Scope) :
    ∀ cls ∈ (c.clientClasses forms all s scope).1, OfService c forms s cls := by
  have capital : IsClassName (takeName (serviceCandidate all s) (c.code s.ns) scope).1 :=
    isClassName_takeName (noSmallStart_serviceCandidate all s) (named.code s.ns)
  unfold clientClasses
  by_cases jobs : forms.jobs = true
  · simp only [jobs, if_true]
    intro cls hcls
    rcases List.mem_cons.mp hcls with rfl | hcls
    · exact .client capital
    · obtain ⟨op, _, scope', rfl⟩ := exists_of_mem_mapM hcls
      have start : NoSmallStart (upperCamel op.name ++ "Job").toList := by
        rw [String.toList_append]
        exact (noSmallStart_upperCamel op.name).append (by decide)
      exact .job op _ (isClassName_takeName start (named.code s.ns))
  · simp only [jobs]
    intro cls hcls
    rw [List.mem_singleton.mp hcls]
    exact .client capital

theorem ofService_serviceClasses (named : c.Named) (scope : Scope) :
    ∀ cls ∈ (c.serviceClasses forms all s scope).1, OfService c forms s cls := by
  unfold serviceClasses
  by_cases server : forms.server = true
  · simp only [server, if_true]
    intro cls hcls
    have start : NoSmallStart (serviceCandidate all s ++ "ServerBase").toList := by
      rw [String.toList_append]
      exact (noSmallStart_serviceCandidate all s).append (by decide)
    rw [List.mem_singleton.mp hcls]
    exact .server (isClassName_takeName start (named.code s.ns))
  · simp only [server]
    exact ofService_clientClasses named scope

theorem OfService.wellScoped {cls : Class} (h : OfService c forms s cls) : WellScoped cls := by
  cases h with
  | client capital => exact wellScoped_client c forms s capital
  | job op client capital => exact wellScoped_job capital ..
  | server capital => exact wellScoped_server c s capital

end ClassContext

/-! ## All classes -/

section

open OrderedGraph

variable {g : TypeGraph} {codes : NamespaceCodes} {o : OrderedGraph}

theorem named_contextOf (o : OrderedGraph) (namespaces : List String)
    (wishes : NamespaceCodes.Wishes) : (contextOf o (.ofNamespaces namespaces wishes)).Named :=
  ⟨isIdentifier_code namespaces wishes,
    fun _ _ => isClassName_takeClassNames (isIdentifier_code namespaces wishes)⟩

/-- A class is that of a type, or one that a service has. -/
theorem ofType_or_ofService {forms : ServiceForms} {services : List BoundService}
    {namespaces : List String} {wishes : NamespaceCodes.Wishes} {c : Class}
    (h : c ∈ classes forms o services (.ofNamespaces namespaces wishes)) :
    let context := contextOf o (.ofNamespaces namespaces wishes)
    (∃ id, context.typeClass? id = some c) ∨ ∃ s, ClassContext.OfService context forms s c := by
  rcases mem_classes_cases h with ⟨id, _, htype⟩ | ⟨s, scope, hservice, _⟩
  · exact Or.inl ⟨id, htype⟩
  · exact Or.inr ⟨s, ClassContext.ofService_serviceClasses (named_contextOf o namespaces wishes)
      scope c hservice⟩

theorem wellScoped_classes (forms : ServiceForms) (services : List BoundService)
    (namespaces : List String) (wishes : NamespaceCodes.Wishes) {c : Class}
    (h : c ∈ classes forms o services (.ofNamespaces namespaces wishes)) : WellScoped c := by
  rcases ofType_or_ofService h with ⟨id, htype⟩ | ⟨s, hservice⟩
  · exact ClassContext.wellScoped_typeClass? (named_contextOf o namespaces wishes) htype
  · exact hservice.wellScoped

/-- Generated classes are called differently, and in the scope of each of them so are the class,
its accessors and its methods, and the parameters of each method, whatever the documents call the
things that these stand for. -/
theorem classes_wellScoped (h : ofGraph g codes = .ok o) (forms : ServiceForms)
    (services : List BoundService) (namespaces : List String) (wishes : NamespaceCodes.Wishes) :
    ((classes forms o services (.ofNamespaces namespaces wishes)).map (·.name)).Nodup ∧
      ∀ c ∈ classes forms o services (.ofNamespaces namespaces wishes),
        c.scopeNames.Nodup ∧ ∀ m ∈ c.methods, (m.parameters.map (·.name)).Nodup := by
  refine ⟨nodup_names h .., fun c hc => ?_⟩
  have scope := wellScoped_classes forms services namespaces wishes hc
  exact ⟨scope.names, scope.parameters⟩

/-- A service whose operation is called like a method of every client, and asks and answers with
parts of one name. -/
def echo : BoundService :=
  let text : BoundPart := ⟨"text", none, .builtin .string⟩
  let count : BoundPart := ⟨"count", none, .builtin .int⟩
  { service := "Echo", port := "EchoPort", ns := "urn:echo", portType := ⟨"urn:echo", "Echo"⟩,
    binding := none, protocol := none, address := none, documentation := none,
    operations := [{
      name := "lastError", documentation := none, pattern := .requestResponse,
      soapAction := none, style := .rpc, bodyUse := .literal,
      input := some ⟨⟨"urn:echo", "ask"⟩, [text]⟩,
      output := some ⟨⟨"urn:echo", "answer"⟩, [text, count]⟩, faults := [], problems := [] }] }

theorem classes_wellScoped_echo : ∃ o, ofGraph mutualHolders ⟨∅⟩ = .ok o ∧
    ∀ c ∈ classes ⟨false, true, true, true⟩ o [echo] (.ofNamespaces ["urn:echo"] ∅),
      c.scopeNames.Nodup ∧ ∀ m ∈ c.methods, (m.parameters.map (·.name)).Nodup := by
  obtain ⟨o, ok⟩ : ∃ o, ofGraph mutualHolders ⟨∅⟩ = .ok o := by
    rw [ofGraph, breakCycles_mutualHolders]
    exact ⟨_, rfl⟩
  exact ⟨o, ok, (classes_wellScoped ok ⟨false, true, true, true⟩ [echo] ["urn:echo"] ∅).2⟩

end

end SoapBindings.Cpp
