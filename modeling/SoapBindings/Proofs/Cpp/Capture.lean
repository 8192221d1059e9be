import SoapBindings.Proofs.Cpp.Suffixes
import SoapBindings.Proofs.Cpp.Variables

/-!
# Parameters that bodies capture

The parameters of a method are told apart from one another, and from nothing else: a body has names
of its own, which no scope knows of. These are words without underscores, so a parameter is called
like one of them exactly where the part that it carries is (`Call.mem_inputs_outputs_iff`), and a
body captures no parameter exactly where no part has the name of a local (`capturesNone_iff`).
-/

set_option autoImplicit false

namespace SoapBindings.Cpp

variable {word code : String}

/-! ## The names of locals -/

/-- The names that bodies have of their own, all of them. -/
def localWords : List String := [
  "action", "message", "result", "item", "pendingCall", "watcher", "reply", "request", "response",
  "method"]

theorem CallMethod.syncLocals_subset (m : CallMethod) : m.syncLocals ⊆ localWords := by
  unfold syncLocals
  split
  · decide
  · split <;> decide

theorem AsyncMethod.locals_subset (m : AsyncMethod) : m.locals ⊆ localWords := by
  unfold locals
  split
  · decide
  · split <;> decide

theorem ServerClass.locals_subset : ServerClass.locals ⊆ localWords := by decide

/-! ## Arguments that are called like a word -/

/-- A word without underscores is among the names after some takes if it was, or if it is one of the
candidates. -/
theorem mem_names_mapM_iff {α β : Type} {f : α → Naming β} {candidate : α → String}
    (takes : ∀ a scope, (f a scope).2 = (takeName (candidate a) code scope).2)
    (plain : '_' ∉ word.toList) (as : List α) (scope : Scope) :
    word ∈ (as.mapM f scope).2.names ↔
      (∃ a ∈ as, sanitize (candidate a) = word) ∨ word ∈ scope.names := by
  induction as generalizing scope with
  | nil => simp [pure, StateT.pure]
  | cons a as ih =>
    rw [List.mapM_cons]
    refine (ih (f a scope).2).trans ?_
    rw [takes, mem_names_takeName_iff plain, List.exists_mem_cons_iff, or_left_comm, or_assoc]

/-- A word that stands for itself as a name. -/
structure IsOwnName (word : String) : Prop where
  identifier : IsIdentifier word
  plain : '_' ∉ word.toList

/-- Arguments that are named one after the other: a word is one of the names, or was taken before,
exactly where it is a candidate, or was taken before. -/
theorem mem_argumentNames_iff {α : Type} {f : α → Naming Argument} {candidate : α → String}
    (named : ∀ a scope, (f a scope).1.name = (takeName (candidate a) code scope).1)
    (takes : ∀ a scope, (f a scope).2 = (takeName (candidate a) code scope).2)
    (own : IsOwnName word) (as : List α) (taken : List String) :
    word ∈ (as.mapM f (.reserving taken)).1.map (·.name) ∨ word ∈ taken ↔
      (∃ a ∈ as, candidate a = word) ∨ word ∈ taken := by
  have each : Takes (.reserving taken) ((as.mapM f (.reserving taken)).1.map (·.name))
      (as.mapM f (.reserving taken)).2 := by
    rw [List.map_eq_flatMap]
    refine .mapM (fun a _ scope => ?_) _
    rw [named, takes]
    exact .takeName ..
  have after := mem_names_mapM_iff takes own.plain as (.reserving taken)
  rw [each.names_eq, List.mem_append, List.mem_reverse] at after
  simp only [sanitize_eq_iff own.identifier own.plain] at after
  exact after

namespace Call

variable (call : Call) (code : String)

/-- An argument is called like a word exactly where a part is. -/
theorem mem_arguments_iff (own : IsOwnName word) (parts : List PartValue) :
    word ∈ (argumentsOf code parts (.reserving [])).1.map (·.name) ↔
      ∃ part ∈ parts, lowerCamel part.xml.name = word := by
  have names := mem_argumentNames_iff (f := fun part : PartValue => do
    return (⟨← takeName (lowerCamel part.xml.name) code, part⟩ : Argument))
    (fun _ _ => rfl) (fun _ _ => rfl) own parts []
  simp only [List.not_mem_nil, or_false] at names
  exact names

/-- The same for inputs and outputs together, although outputs are named twice. -/
theorem mem_inputs_outputs_iff (own : IsOwnName word) :
    word ∈ (call.inputs code).map (·.name) ++ (call.outputs code).map (·.name) ↔
      ∃ part ∈ call.request ++ call.stored, lowerCamel part.xml.name = word := by
  have inputs : word ∈ (call.inputs code).map (·.name) ↔ _ :=
    mem_arguments_iff code own call.request
  have answers : word ∈ (call.answers code).map (·.name) ↔ _ :=
    mem_arguments_iff code own call.response
  have renamed := mem_argumentNames_iff (f := fun a : Argument => do
    return { a with name := ← takeName a.name code }) (fun _ _ => rfl) (fun _ _ => rfl) own
    (call.answers code) ((call.inputs code).map (·.name))
  rw [← List.mem_map (f := Argument.name), answers] at renamed
  simp only [List.mem_append, or_and_right, exists_or]
  rw [← inputs, outputs, stored]
  cases h : call.response with
  | nil => simp
  | cons first others =>
    cases others with
    | nil => simp
    | cons second rest =>
      rw [h] at renamed
      exact or_comm.trans (renamed.trans or_comm)

end Call

/-! ## Bodies that capture no parameter -/

theorem isOwnName_of_mem_localWords {w : String} (h : w ∈ localWords) : IsOwnName w := by
  have each : ∀ w ∈ localWords, IsIdentifier w ∧ '_' ∉ w.toList := by decide
  exact ⟨(each w h).1, (each w h).2⟩

namespace MethodBody

/-- No parameter is called like something else in the body. -/
def CapturesNone (b : MethodBody) : Prop := ∀ p ∈ b.method.parameters, p.name ∉ b.locals

/-- The names of the body are words, and where they are concerned the parameters are called like
their parts. -/
structure Regular (b : MethodBody) : Prop where
  locals : b.locals ⊆ localWords
  called : ∀ word, IsOwnName word →
    (word ∈ b.method.parameters.map (·.name) ↔ ∃ part ∈ b.parts, lowerCamel part.xml.name = word)

theorem Regular.none_captured_iff {b : MethodBody} (h : b.Regular) :
    b.CapturesNone ↔ ∀ part ∈ b.parts, lowerCamel part.xml.name ∉ b.locals := by
  have called (word : String) (taken : word ∈ b.locals) :=
    h.called word (isOwnName_of_mem_localWords (h.locals taken))
  constructor
  · intro none part hpart taken
    obtain ⟨p, hp, same⟩ := List.mem_map.mp ((called _ taken).mpr ⟨part, hpart, rfl⟩)
    exact none p hp (same ▸ taken)
  · intro apart p hp taken
    obtain ⟨part, hpart, same⟩ := (called _ taken).mp (List.mem_map_of_mem hp)
    exact apart part hpart (same ▸ taken)

end MethodBody

theorem parts_input (arguments : List Argument) :
    (arguments.map Parameter.input).filterMap (·.part) = arguments.map (·.part) := by
  rw [List.filterMap_map]
  exact congrFun (List.filterMap_eq_map (f := Argument.part)) arguments

theorem parts_output (arguments : List Argument) :
    (arguments.map Parameter.output).filterMap (·.part) = arguments.map (·.part) := by
  rw [List.filterMap_map]
  exact congrFun (List.filterMap_eq_map (f := Argument.part)) arguments

namespace ClassContext

variable {c : ClassContext} {forms : ServiceForms} {s : BoundService} {op : BoundOperation}

theorem regular_callMethod (hcode : IsIdentifier code) (kind : MethodKind) (call : Call)
    (name : String) (documentation : Option String) {locals : List String}
    (sub : locals ⊆ localWords) (text results : List String) :
    MethodBody.Regular
      ⟨(callMethod call code name documentation).method kind, text, locals, results⟩ := by
  refine ⟨sub, fun word own => ?_⟩
  have names : ((callMethod call code name documentation).method kind).parameters.map (·.name) =
      (call.inputs code).map (·.name) ++ (call.outputs code).map (·.name) := by
    rw [CallMethod.method, callMethod, List.map_append, List.map_map, List.map_map]
    rfl
  have parts : ((callMethod call code name documentation).method kind).parameters.filterMap
      (·.part) = call.request ++ call.stored := by
    rw [CallMethod.method, List.filterMap_append, parts_input, parts_output]
    rw [callMethod, Call.inputs, (carryParts_argumentsOf hcode call.request _).parts,
      (carryParts_outputs hcode call).parts]
  rw [MethodBody.parts, names, parts]
  exact call.mem_inputs_outputs_iff code own

theorem regular_asyncMethod (hcode : IsIdentifier code) (name : String) (call : Call)
    (signals : Option AnswerSignals) (documentation : Option String) (className : String) :
    let m : AsyncMethod := ⟨name, call, call.inputs code, signals, documentation⟩
    (m.body className).Regular := by
  intro m
  refine ⟨m.locals_subset, fun word own => ?_⟩
  have names : m.method.parameters.map (·.name) = (call.inputs code).map (·.name) := by
    rw [AsyncMethod.method, List.map_map]
    rfl
  have parts : m.method.parameters.filterMap (·.part) = call.request := by
    rw [AsyncMethod.method, parts_input]
    exact (carryParts_argumentsOf hcode call.request _).parts
  show word ∈ m.method.parameters.map (·.name) ↔
    ∃ part ∈ m.method.parameters.filterMap (·.part), _
  rw [names, parts]
  exact Call.mem_arguments_iff code own call.request

theorem regular_of_mem_clientOperation (hcode : IsIdentifier code) {scope : Scope}
    {className : String} {b : MethodBody}
    (h : b ∈ (c.clientOperation forms code s op scope).1.bodies className) : b.Regular := by
  rcases List.mem_append.mp h with h | h
  · obtain ⟨method, hmethod, rfl⟩ := List.mem_map.mp h
    obtain ⟨_, rfl⟩ := sync_clientOperation_cases (Option.mem_toList.mp hmethod)
    exact regular_callMethod hcode .sync _ _ _ (CallMethod.syncLocals_subset _) ..
  · obtain ⟨method, hmethod, rfl⟩ := List.mem_map.mp h
    obtain ⟨_, _, rfl⟩ := async_clientOperation_cases (Option.mem_toList.mp hmethod)
    exact regular_asyncMethod hcode ..

theorem OfService.regular {cls : Class} (h : OfService c forms s cls) (named : c.Named) :
    ∀ b ∈ cls.bodies, b.Regular := by
  intro b hb
  cases h with
  | client =>
    obtain ⟨operation, hoperation, hb⟩ := List.mem_flatMap.mp hb
    obtain ⟨op, _, scope, rfl⟩ := exists_of_mem_mapM hoperation
    exact regular_of_mem_clientOperation (named.code s.ns) hb
  | job => cases hb
  | server =>
    obtain ⟨operation, hoperation, rfl⟩ := List.mem_map.mp hb
    obtain ⟨op, _, scope, rfl⟩ := exists_of_mem_mapM hoperation
    exact regular_callMethod (named.code s.ns) .pureVirtual _ _ _ ServerClass.locals_subset ..

end ClassContext

/-! ## All classes -/

theorem regular_classes {forms : ServiceForms} {o : OrderedGraph} {services : List BoundService}
    {namespaces : List String} {wishes : NamespaceCodes.Wishes} {c : Class}
    (h : c ∈ classes forms o services (.ofNamespaces namespaces wishes)) {b : MethodBody}
    (hb : b ∈ c.bodies) : b.Regular := by
  obtain ⟨s, hservice⟩ := exists_ofService h hb
  exact hservice.regular (named_contextOf o namespaces wishes) b hb

/-- What is listed for the body of a method is what its text declares, and the body captures no
parameter exactly where none of the parts that these carry is called like one of its locals. -/
theorem capturesNone_iff {forms : ServiceForms} {o : OrderedGraph} {services : List BoundService}
    {namespaces : List String} {wishes : NamespaceCodes.Wishes} {c : Class}
    (h : c ∈ classes forms o services (.ofNamespaces namespaces wishes)) {b : MethodBody}
    (hb : b ∈ c.bodies) :
    b.Listed ∧ ((∀ p ∈ b.method.parameters, p.name ∉ b.locals) ↔
      ∀ part ∈ b.parts, lowerCamel part.xml.name ∉ b.locals) :=
  ⟨listed_classes h hb, (regular_classes h hb).none_captured_iff⟩

/-! ## Parameters that are called like locals -/

section

open OrderedGraph

/-- A service that sends a part and waits for no answer. -/
def sending (part : String) : BoundService where
  service := "Post"
  port := "PostPort"
  ns := "urn:post"
  portType := ⟨"urn:post", "Post"⟩
  binding := none
  protocol := none
  address := none
  documentation := none
  operations := [{
    name := "send", documentation := none, pattern := .oneWay, soapAction := none, style := .rpc,
    bodyUse := .literal, input := some ⟨⟨"urn:post", "Send"⟩, [⟨part, none, .builtin .string⟩]⟩,
    output := none, faults := [], problems := [] }]

theorem exists_body_sending (part : String) : ∃ o, ofGraph mutualHolders ⟨∅⟩ = .ok o ∧
    ∃ c ∈ classes ⟨false, true, true, true⟩ o [sending part] (.ofNamespaces ["urn:post"] ∅),
      ∃ b ∈ c.bodies, b.locals = ["action", "message"] ∧
        b.parts = [⟨⟨part, none⟩, ⟨"QString", .builtin .string⟩⟩] := by
  obtain ⟨o, ok⟩ : ∃ o, ofGraph mutualHolders ⟨∅⟩ = .ok o := by
    rw [ofGraph, breakCycles_mutualHolders]
    exact ⟨_, rfl⟩
  let context := contextOf o (.ofNamespaces ["urn:post"] ∅)
  let forms : ServiceForms := ⟨false, true, true, true⟩
  let scope := (takeClassNames (.ofNamespaces ["urn:post"] ∅) o.order (.reserving [])).2
  let name := (takeName (ClassContext.serviceCandidate [sending part] (sending part))
    (context.code "urn:post") scope).1
  have listed : .client (context.clientOf forms (sending part) name) ∈
      classes forms o [sending part] (.ofNamespaces ["urn:post"] ∅) :=
    List.mem_append_right _ List.mem_cons_self
  exact ⟨o, ok, _, listed, _, List.mem_cons_self, rfl, rfl⟩

/-- A part `message` is sent by a method that declares a variable `message` for what it sends. -/
theorem not_capturesNone_sending : ∃ o, ofGraph mutualHolders ⟨∅⟩ = .ok o ∧
    ∃ c ∈ classes ⟨false, true, true, true⟩ o [sending "message"] (.ofNamespaces ["urn:post"] ∅),
      ∃ b ∈ c.bodies, ∃ p ∈ b.method.parameters, p.name ∈ b.locals := by
  obtain ⟨o, ok, c, hc, b, hb, locals, parts⟩ := exists_body_sending "message"
  have called : lowerCamel "message" = "message" := by cbv
  have captured : ¬ b.CapturesNone := by
    rw [(regular_classes hc hb).none_captured_iff, parts]
    intro apart
    refine apart _ List.mem_cons_self ?_
    rw [locals, called]
    decide
  unfold MethodBody.CapturesNone at captured
  push Not at captured
  exact ⟨o, ok, c, hc, b, hb, captured⟩

theorem capturesNone_iff_sending : ∃ o, ofGraph mutualHolders ⟨∅⟩ = .ok o ∧
    ∃ c ∈ classes ⟨false, true, true, true⟩ o [sending "text"] (.ofNamespaces ["urn:post"] ∅),
      ∃ b ∈ c.bodies, b.locals = ["action", "message"] ∧
        ∀ p ∈ b.method.parameters, p.name ∉ b.locals := by
  obtain ⟨o, ok, c, hc, b, hb, locals, parts⟩ := exists_body_sending "text"
  refine ⟨o, ok, c, hc, b, hb, locals, (capturesNone_iff hc hb).2.mpr fun part hpart => ?_⟩
  rw [parts, List.mem_singleton] at hpart
  have called : lowerCamel "text" = "text" := by cbv
  rw [hpart, locals, called]
  decide

end

end SoapBindings.Cpp
