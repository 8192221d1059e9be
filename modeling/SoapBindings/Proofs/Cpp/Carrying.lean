import SoapBindings.Cpp.ServiceText
import SoapBindings.Proofs.Cpp.Scopes

/-!
# What classes of services have for a call

Each class of a service has something for each part of the calls it makes or answers: arguments of
its methods, arguments of its signals, or members of its jobs, one for each part and in the order of
the parts (`carries_serviceClasses`). Whatever the documents call the parts, these are words, and
the types of parts are spelled with words too (`spelled_part`).
-/

set_option autoImplicit false

namespace SoapBindings.Cpp

/-! ## Parts and what carries them -/

/-- There is an argument for each part, in their order, and all are called by words. -/
structure CarryParts (parts : List PartValue) (arguments : List Argument) : Prop where
  parts : arguments.map (·.part) = parts
  words : ∀ a ∈ arguments, IsWord a.name.toList

/-- The parts of the response that a method stores in outputs: all, unless it returns the only
one. -/
def Call.stored (c : Call) : List PartValue :=
  match c.response with
  | [_] => []
  | parts => parts

structure CallMethod.Carries (call : Call) (m : CallMethod) : Prop where
  ofCall : m.call = call
  word : IsWord m.name.toList
  inputs : CarryParts call.request m.inputs
  outputs : CarryParts call.stored m.outputs

structure AnswerSignals.Carries (call : Call) (s : AnswerSignals) : Prop where
  arguments : CarryParts call.response s.arguments
  done : IsWord s.done.toList
  error : IsWord s.error.toList

structure AsyncMethod.Carries (call : Call) (m : AsyncMethod) : Prop where
  ofCall : m.call = call
  word : IsWord m.name.toList
  inputs : CarryParts call.request m.inputs
  signals : if call.oneWay then m.signals = none else ∃ s, m.signals = some s ∧ s.Carries call

/-- The client offers the call in each of the wanted forms and in no other. -/
structure ClientOperation.Carries (forms : ServiceForms) (call : Call) (o : ClientOperation) :
    Prop where
  sync : if forms.sync then ∃ m, o.sync = some m ∧ m.Carries call else o.sync = none
  async : if forms.async then ∃ m, o.async = some m ∧ m.Carries call else o.async = none

structure JobClass.Carries (call : Call) (c : JobClass) : Prop where
  ofCall : c.call = call
  word : IsWord c.name.toList
  request : c.request.map (·.held.part) = call.request
  response : c.response.map (·.held.part) = call.response
  words : ∀ m ∈ c.members, IsWord m.name.toList

/-- The classes have what it takes for each of the calls. -/
def ClassesCarry (forms : ServiceForms) (calls : List Call) (classes : List Class) : Prop :=
  if forms.server then ∃ server, classes = [.server server] ∧ IsWord server.name.toList ∧
    List.Forall₂ CallMethod.Carries calls server.operations
  else ∃ client jobs, classes = .client client :: jobs ∧ IsWord client.name.toList ∧
    List.Forall₂ (ClientOperation.Carries forms) calls client.operations ∧
    List.Forall₂ (fun call cls => ∃ job, cls = .job job ∧ job.client = client.name ∧
      job.Carries call) (if forms.jobs then calls else []) jobs

theorem map_mapM {σ α β γ : Type} {f : α → StateM σ β} {g : β → γ} {h : α → γ}
    (each : ∀ a s, g (f a s).1 = h a) (as : List α) (s : σ) : (as.mapM f s).1.map g = as.map h := by
  have same : List.Forall₂ (fun a b => h a = g b) as (as.mapM f s).1 :=
    forall₂_mapM (fun a _ s => (each a s).symm) s
  have equal := List.forall₂_map_left_iff.mpr (List.forall₂_map_right_iff.mpr same)
  rw [List.forall₂_eq_eq_eq] at equal
  exact equal.symm

section

variable {code : String} (hcode : IsIdentifier code)

include hcode

theorem carryParts_argumentsOf (parts : List PartValue) (scope : Scope) :
    CarryParts parts (argumentsOf code parts scope).1 := by
  constructor
  · rw [argumentsOf]
    exact (map_mapM (h := id) (fun _ _ => rfl) parts scope).trans (List.map_id parts)
  · intro a ha
    obtain ⟨part, _, scope', rfl⟩ := exists_of_mem_mapM ha
    exact isWord_takeName hcode

theorem carryParts_outputs (call : Call) : CarryParts call.stored (call.outputs code) := by
  have answers := carryParts_argumentsOf hcode call.response (.reserving [])
  rw [Call.stored, Call.outputs]
  match hresponse : call.response with
  | [] => exact ⟨rfl, nofun⟩
  | [_] => exact ⟨rfl, nofun⟩
  | first :: second :: rest =>
    have renamed := map_mapM (g := Argument.part) (h := Argument.part)
      (f := fun a : Argument => do return { a with name := ← takeName a.name code })
      (fun _ _ => rfl) (call.answers code) (.reserving ((call.inputs code).map (·.name)))
    refine ⟨renamed.trans (answers.parts.trans hresponse), fun a ha => ?_⟩
    obtain ⟨before, _, scope', rfl⟩ := exists_of_mem_mapM ha
    exact isWord_takeName hcode

theorem carries_callMethod (call : Call) {name : String} (word : IsWord name.toList)
    (documentation : Option String) :
    (ClassContext.callMethod call code name documentation).Carries call where
  ofCall := rfl
  word := word
  inputs := carryParts_argumentsOf hcode call.request _
  outputs := carryParts_outputs hcode call

theorem carries_answerSignals (call : Call) (base : String) (scope : Scope) :
    if call.oneWay then (ClassContext.answerSignals call code base scope).1 = none
    else ∃ s, (ClassContext.answerSignals call code base scope).1 = some s ∧ s.Carries call := by
  unfold ClassContext.answerSignals
  by_cases oneWay : call.oneWay = true
  · simp only [oneWay, if_true]
    rfl
  · simp only [oneWay]
    exact ⟨_, rfl, carryParts_argumentsOf hcode call.response _, isWord_takeName hcode,
      isWord_takeName hcode⟩

end

namespace ClassContext

variable {c : ClassContext}

theorem carries_clientOperation {code : String} (hcode : IsIdentifier code) (forms : ServiceForms)
    (s : BoundService) (op : BoundOperation) (scope : Scope) :
    (c.clientOperation forms code s op scope).1.Carries forms (c.call s op) := by
  rw [clientOperation_eq]
  constructor
  · show if forms.sync then ∃ m, (c.syncForm forms code s op scope).1 = some m ∧ _
      else (c.syncForm forms code s op scope).1 = none
    unfold syncForm
    by_cases sync : forms.sync = true
    · simp only [sync, if_true]
      exact ⟨_, rfl, carries_callMethod hcode _ (isWord_takeName hcode) _⟩
    · simp only [sync]
      rfl
  · let between := (c.syncForm forms code s op scope).2
    show if forms.async then ∃ m, (c.asyncForm forms code s op between).1 = some m ∧ _
      else (c.asyncForm forms code s op between).1 = none
    unfold asyncForm
    by_cases async : forms.async = true
    · simp only [async, if_true]
      exact ⟨_, rfl, rfl, isWord_takeName hcode, carryParts_argumentsOf hcode _ _,
        carries_answerSignals hcode _ _ _⟩
    · simp only [async]
      rfl

theorem parts_jobMembers (code : String) (candidate : String → String) (parts : List PartValue)
    (scope : Scope) : (jobMembers code candidate parts scope).1.map (·.held.part) = parts := by
  let member (part : PartValue) : Naming Member := do
    let name ← takeName (candidate part.xml.name) code
    let setter ← takeName ("set" ++ upperCamel name) code
    return ⟨name, setter, part.xml, .element, part.value, .value, none⟩
  have each : ∀ part scope, (member part scope).1.held.part = part := fun _ _ => rfl
  exact (map_mapM (h := id) each parts scope).trans (List.map_id parts)

theorem carries_jobClass {code : String} (hcode : IsIdentifier code) (s : BoundService)
    (op : BoundOperation) (client : String) {name : String} (word : IsWord name.toList) :
    (c.jobClass code client s op name).Carries (c.call s op) := by
  let call := c.call s op
  let request := jobMembers code lowerCamel call.request (memberScope jobNames name code)
  let response :=
    jobMembers code (fun part => "result" ++ upperCamel part) call.response request.2
  have words {candidate : String → String} {parts : List PartValue} {scope : Scope} {m : Member}
      (h : m ∈ (jobMembers code candidate parts scope).1) : IsWord m.name.toList := by
    obtain ⟨part, _, scope', rfl⟩ := exists_of_mem_mapM h
    exact isWord_takeName hcode
  have ofRequest : request.1.map (·.held.part) = call.request := parts_jobMembers ..
  have ofResponse : response.1.map (·.held.part) = call.response := parts_jobMembers ..
  refine ⟨rfl, word, ofRequest, ofResponse, fun m hm => ?_⟩
  replace hm : m ∈ request.1 ++ response.1 := hm
  rcases List.mem_append.mp hm with hm | hm
  · exact words hm
  · exact words hm

/-- A service's classes have something for each part of the calls of its valid operations. -/
theorem carries_serviceClasses (named : c.Named) (forms : ServiceForms) (all : List BoundService)
    (s : BoundService) (scope : Scope) :
    ClassesCarry forms (s.validOperations.map (c.call s))
      (c.serviceClasses forms all s scope).1 := by
  have hcode := named.code s.ns
  have operations (code : String) (hcode : IsIdentifier code) (scope : Scope) :
      List.Forall₂ (fun op o => ClientOperation.Carries forms (c.call s op) o) s.validOperations
        (s.validOperations.mapM (c.clientOperation forms code s) scope).1 :=
    forall₂_mapM (fun op _ scope => carries_clientOperation hcode forms s op scope) scope
  have wholeJobs (code client : String) (hcode : IsIdentifier code) (scope : Scope) :
      List.Forall₂ (fun op cls => ∃ job, cls = .job job ∧ job.client = client ∧
        job.Carries (c.call s op)) s.validOperations
      (s.validOperations.mapM (fun op => do
        let job ← takeName (upperCamel op.name ++ "Job") code
        return .job (c.jobClass code client s op job) : _ → Naming Class) scope).1 :=
    forall₂_mapM (fun op _ scope => ⟨_, rfl, rfl, carries_jobClass hcode s op _
      (isWord_takeName hcode)⟩) scope
  obtain ⟨server, sync, async, jobs⟩ := forms
  cases server with
  | true =>
    refine ⟨_, rfl, isWord_takeName hcode, List.forall₂_map_left_iff.mpr
      (forall₂_mapM (fun op _ scope => ?_) _)⟩
    exact carries_callMethod hcode _ (isWord_takeName hcode) _
  | false =>
    cases jobs with
    | true =>
      exact ⟨_, _, rfl, isWord_takeName hcode, List.forall₂_map_left_iff.mpr (operations _ hcode _),
        List.forall₂_map_left_iff.mpr (wholeJobs _ _ hcode _)⟩
    | false =>
      exact ⟨_, [], rfl, isWord_takeName hcode,
        List.forall₂_map_left_iff.mpr (operations _ hcode _), .nil⟩

end ClassContext

/-! ## The types of parts -/

def IsTypeChar (c : Char) : Prop := IsWordChar c ∨ c = ' '

instance (c : Char) : Decidable (IsTypeChar c) :=
  inferInstanceAs (Decidable (IsWordChar c ∨ c = ' '))

/-- The type is spelled with words, and it is one that values have. -/
structure IsSpelled (type : String) : Prop where
  chars : ∀ c ∈ type.toList, IsTypeChar c
  value : type ≠ "void"

theorem isSpelled_cppType (b : Builtin) : IsSpelled b.cppType := by
  constructor
  · -- Decided over the text, never over all characters.
    have each : b.cppType.toList.all (decide <| IsTypeChar ·) = true := by cases b <;> rfl
    simpa using each
  · cases b <;> simp [Builtin.cppType]

theorem IsClassName.isSpelled {name : String} (h : IsClassName name) : IsSpelled name where
  chars c hc := Or.inl (h.word.chars c hc)
  value same := by
    rw [same] at h
    exact h.start 'v' rfl (by decide)

namespace ClassContext

variable {c : ClassContext}

theorem isSpelled_valueType? (named : c.Named) {r : TypeRef} {value : ValueType}
    (h : c.valueType? r = some value) : IsSpelled value.text := by
  cases r with
  | builtin b =>
    cases h
    exact isSpelled_cppType b
  | node id =>
    obtain ⟨name, hname, rfl⟩ := Option.map_eq_some_iff.mp h
    have capital := (named.classNames id name hname).isSpelled
    split
    · exact capital
    · exact capital
  | unresolved name => cases h

/-- The value of a part is that of a type. -/
theorem exists_type_of_part {s : BoundService} {op : BoundOperation} {p : PartValue}
    (h : p ∈ (c.call s op).request ++ (c.call s op).response) :
    ∃ r, c.valueType? r = some p.value := by
  have each (m : Option BoundMessage) (h : p ∈ c.partValues m) :
      ∃ r, c.valueType? r = some p.value := by
    obtain ⟨part, _, found⟩ := List.mem_filterMap.mp h
    obtain ⟨value, hvalue, rfl⟩ := Option.map_eq_some_iff.mp found
    exact ⟨part.type, hvalue⟩
  rcases List.mem_append.mp h with h | h
  · exact each _ h
  · exact each _ h

theorem isSpelled_part (named : c.Named) {s : BoundService} {op : BoundOperation} {p : PartValue}
    (h : p ∈ (c.call s op).request ++ (c.call s op).response) : IsSpelled p.value.text := by
  obtain ⟨r, hvalue⟩ := exists_type_of_part h
  exact isSpelled_valueType? named hvalue

end ClassContext

/-! ## All services -/

section

variable (forms : ServiceForms) (o : OrderedGraph) (services : List BoundService)
  (namespaces : List String) (wishes : NamespaceCodes.Wishes)

/-- Behind the classes of types stand those of one service after the other. -/
theorem carries_classes : ∃ ofServices,
    classes forms o services (.ofNamespaces namespaces wishes) =
      o.order.filterMap (contextOf o (.ofNamespaces namespaces wishes)).typeClass? ++
        ofServices.flatten ∧
    List.Forall₂ (fun s ofService => ClassesCarry forms
      (s.validOperations.map ((contextOf o (.ofNamespaces namespaces wishes)).call s)) ofService)
      services ofServices :=
  ⟨_, rfl, forall₂_mapM (fun s _ scope => ClassContext.carries_serviceClasses
    (named_contextOf o namespaces wishes) forms services s scope) _⟩

end

end SoapBindings.Cpp
