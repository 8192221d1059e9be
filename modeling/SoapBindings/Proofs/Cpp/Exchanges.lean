import SoapBindings.Proofs.Cpp.Positions
import SoapBindings.Proofs.Cpp.Statements

/-!
# What definitions do with messages

A text that makes a call fills one message and takes another apart, and so does the branch of a
server that answers it. `Exchanges` says which values a text puts where and takes from where. It is
put together as texts are, statement by statement: most statements have to do with neither message,
because they have no literal (`IsQuiet`) or for what they begin with. So each definition comes down
to the parts that it writes and the parts that it reads.
-/

set_option autoImplicit false

namespace SoapBindings.Cpp

open Text

/-- The statements put values into one message, take values out of another and call operations of
the names. -/
structure Exchanges (filled read : String) (lines : List String) (ps : List Put) (gs : List Got)
    (names : List (List Char) := []) : Prop where
  puts : found (put? filled) lines = ps
  gots : found (got? read) lines = gs
  calls : found invoked? lines = names

/-- The message that is filled is called by a word that begins as no constant, no `item` and no
call. -/
structure IsFilled (message : String) : Prop where
  word : IsWord message.toList
  head : ∀ c ∈ message.toList.head?, c ∉ ['c', 'i', '=']
  call : ∀ cs, invoked? (message.toList ++ cs) = none

/-- Nothing on the line is written, set or called. -/
def IsQuiet (line : String) : Prop := ∀ c ∈ line.toList, c ∉ ['"', '=', '.']

instance (line : String) : Decidable (IsQuiet line) :=
  decidableForallChars line.toList

/-! ## Quiet lines -/

theorem IsQuiet.append {line more : String} (h : IsQuiet line) (h' : IsQuiet more) :
    IsQuiet (line ++ more) := by
  rw [IsQuiet, String.toList_append, List.forall_mem_append]
  exact ⟨h, h'⟩

theorem isQuiet_intercalate {separator : String} (between : IsQuiet separator) :
    ∀ {texts : List String}, (∀ t ∈ texts, IsQuiet t) → IsQuiet (separator.intercalate texts)
  | [], _ => nofun
  | t :: texts, h => by
    obtain ⟨first, rest⟩ := List.forall_mem_cons.mp h
    by_cases last : texts = []
    · rw [last, String.intercalate_singleton]
      exact first
    · rw [String.intercalate_cons_of_ne_nil last]
      exact (first.append between).append (isQuiet_intercalate between rest)

theorem isQuiet_of_not_mem {line : String} (quote : '"' ∉ line.toList) (equals : '=' ∉ line.toList)
    (dot : '.' ∉ line.toList) : IsQuiet line := by
  intro c hc other
  simp only [List.mem_cons, List.not_mem_nil, or_false] at other
  rcases other with rfl | rfl | rfl
  · exact quote hc
  · exact equals hc
  · exact dot hc

theorem isQuiet_of_isWord {name : String} (h : IsWord name.toList) : IsQuiet name :=
  isQuiet_of_not_mem (h.not_mem (by decide)) (h.not_mem (by decide)) (h.not_mem (by decide))

theorem IsSpelled.isQuiet {type : String} (h : IsSpelled type) : IsQuiet type :=
  isQuiet_of_not_mem (h.not_mem (by decide)) (h.not_mem (by decide)) (h.not_mem (by decide))

namespace Exchanges

variable {filled read : String} {lines more : List String} {ps ps' : List Put} {gs gs' : List Got}
  {names names' : List (List Char)}

/-! ## Texts from texts -/

theorem nil : Exchanges filled read [] [] [] := ⟨rfl, rfl, rfl⟩

theorem append (h : Exchanges filled read lines ps gs names)
    (h' : Exchanges filled read more ps' gs' names') :
    Exchanges filled read (lines ++ more) (ps ++ ps') (gs ++ gs') (names ++ names') :=
  ⟨by rw [found_append, h.puts, h'.puts], by rw [found_append, h.gots, h'.gots],
    by rw [found_append, h.calls, h'.calls]⟩

theorem cons {line : String} (h : Exchanges filled read [line] [] [])
    (h' : Exchanges filled read lines ps gs names) :
    Exchanges filled read (line :: lines) ps gs names :=
  h.append h'

/-- Statements that have to do with no message may follow. -/
theorem before (h : Exchanges filled read lines ps gs names)
    (h' : Exchanges filled read more [] []) :
    Exchanges filled read (lines ++ more) ps gs names := by
  have both := h.append h'
  rwa [List.append_nil, List.append_nil, List.append_nil] at both

/-- Statements that have to do with no message may come first. -/
theorem behind (h : Exchanges filled read lines [] [])
    (h' : Exchanges filled read more ps gs names) :
    Exchanges filled read (lines ++ more) ps gs names :=
  h.append h'

/-- One message is filled, and then the other is read. -/
theorem thenRead (h : Exchanges filled read lines ps [])
    (h' : Exchanges filled read more [] gs names) :
    Exchanges filled read (lines ++ more) ps gs names := by
  have both := h.append h'
  rwa [List.append_nil] at both

/-- One message is read, and then the other is filled. -/
theorem thenFill (h : Exchanges filled read lines [] gs)
    (h' : Exchanges filled read more ps []) : Exchanges filled read (lines ++ more) ps gs := by
  have both := h.append h'
  rwa [List.append_nil] at both

theorem block {opening closing : String} (first : Exchanges filled read [opening] [] [])
    (h : Exchanges filled read lines ps gs names)
    (last : Exchanges filled read [closing] [] []) :
    Exchanges filled read (block opening lines closing) ps gs names := by
  have body : Exchanges filled read (indented lines) ps gs names :=
    ⟨by rw [found_indented, h.puts], by rw [found_indented, h.gots],
      by rw [found_indented, h.calls]⟩
  exact first.cons (body.before last)

/-! ## Statements that have to do with no message -/

theorem of_passed {line : String} (put : put? filled (statement line) = none)
    (item : itemSource? (statement line) = none) (call : invoked? (statement line) = none) :
    Exchanges filled read [line] [] [] :=
  ⟨found_of_eq_none put, found_of_eq_none (got?_of_itemSource? item), found_of_eq_none call⟩

theorem quiet {line : String} (h : IsQuiet line) : Exchanges filled read [line] [] [] := by
  have none (c : Char) (hc : c ∈ ['"', '=', '.']) : c ∉ statement line :=
    not_mem_statement fun there => h c there hc
  exact of_passed (put?_of_quoteless (none '"' (by decide)))
    (itemSource?_of_not_mem (c := '.') (by decide) (none '.' (by decide)) (none '=' (by decide)))
    (invoked?_of_quoteless (none '"' (by decide)))

theorem quietLines : ∀ {lines : List String}, (∀ line ∈ lines, IsQuiet line) →
    Exchanges filled read lines [] []
  | [], _ => nil
  | _ :: _, h =>
    have ⟨first, rest⟩ := List.forall_mem_cons.mp h
    (quiet first).cons (quietLines rest)

/-- A statement that is told from both kinds by what it begins with. -/
theorem opening (opening rest : String) (solid : opening.toList.head?.any (· != ' '))
    (put : ∀ cs, put? filled (opening.toList ++ cs) = none)
    (item : ∀ cs, itemSource? (opening.toList ++ cs) = none)
    (call : ∀ cs, invoked? (opening.toList ++ cs) = none) :
    Exchanges filled read [opening ++ rest] [] [] :=
  of_passed (by rw [statement_append solid, put]) (by rw [statement_append solid, item])
    (by rw [statement_append solid, call])

theorem definition {signature : String} (quietly : IsQuiet signature)
    (h : Exchanges filled read lines ps gs names) :
    Exchanges filled read (definition signature lines) ps gs names :=
  (quiet quietly).cons ((block (quiet (by decide)) h (quiet (by decide))).before
    (quiet (by decide)))

section

variable (own : IsFilled filled)

include own

theorem put?_opening {opening : String} (begins : opening.toList.head?.any (· ∈ ['c', 'i']))
    (cs : List Char) : put? filled (opening.toList ++ cs) = none := by
  obtain ⟨m, ms, hm⟩ := List.exists_cons_of_ne_nil own.word.nonempty
  cases hopening : opening.toList with
  | nil => simp [hopening] at begins
  | cons c rest =>
    have head := own.head m (by simp [hm])
    refine put?_of_head (m := m) (by simp [hm]) ?_
    rintro rfl
    simp only [hopening, List.head?_cons, Option.any_some, decide_eq_true_eq] at begins
    exact head (List.mem_of_mem_take (i := 2) begins)

theorem ifThen (condition : String) (h : Exchanges filled read lines ps gs) :
    Exchanges filled read (ifThen condition lines) ps gs := by
  have first : Exchanges filled read ["if (" ++ condition ++ ") \x7b"] [] [] := by
    rw [String.append_assoc]
    refine opening "if (" _ (by decide) (put?_opening own (by decide)) ?_ fun _ => rfl
    exact itemSource?_of_opening _ (by decide) (fun _ => rfl) (fun _ => rfl)
  exact block first h (quiet (by decide))

/-- A constant that is not called `item`. -/
theorem constant {opening : String} (before after : List Char)
    (cut : opening.toList = "const ".toList ++ (before ++ '=' :: after)) (equals : '=' ∉ before)
    (other : ∀ cs, after? "item ".toList.reverse (before.reverse ++ cs) = none) (rest : String) :
    Exchanges filled read [opening ++ rest] [] [] := by
  have solid : opening.toList.head?.any (· != ' ') := by rw [cut]; rfl
  have begins : opening.toList.head?.any (· ∈ ['c', 'i']) := by rw [cut]; rfl
  refine of_passed ?_ ?_ ?_
  · rw [statement_append solid, put?_opening own begins]
  · have whole : opening.toList ++ rest.toList =
        ("const ".toList ++ before) ++ '=' :: (after ++ rest.toList) := by
      rw [cut, List.append_assoc, List.append_assoc, List.append_assoc, List.cons_append]
    rw [statement_append solid, whole]
    refine itemSource?_of_other ?_ ?_ ?_ _
    · rw [List.mem_append, not_or]
      exact ⟨by decide, equals⟩
    · exact fun _ => rfl
    · rw [List.reverse_append]
      exact other _
  · rw [statement_append solid, cut]
    rfl

theorem passesReading_put? : PassesReading (put? filled) :=
  ⟨fun _ => put?_of_quoteless, put?_opening own (by decide), put?_opening own (by decide)⟩

theorem readParts (style : Wsdl.Style) {hs : List HeldPart} (plain : ∀ h ∈ hs, h.IsPlain) :
    Exchanges filled read (readParts read style hs) [] (gotsOf style (hs.map (·.part))) :=
  ⟨(passesReading_put? own).found_readParts read style plain, found_readParts style plain,
    passesReading_invoked?.found_readParts read style plain⟩

theorem writeParts {call : Call} {hs : List HeldPart} (plain : ∀ h ∈ hs, h.IsPlain) :
    Exchanges filled read (writeParts filled call hs) (putsOf call.style (hs.map (·.part))) [] := by
  refine ⟨found_writeParts own.word fun h hh => (plain h hh).holder.not_mem (by decide), ?_,
    found_writeParts_eq_nil own.word (fun _ => own.call _) (fun _ => own.call _) call hs⟩
  obtain ⟨m, ms, hm⟩ := List.exists_cons_of_ne_nil own.word.nonempty
  have none (cs : List Char) : got? read (filled.toList ++ cs) = none := by
    rw [hm]
    exact got?_of_itemSource? (itemSource?_of_head (own.head m (by simp [hm])) _)
  exact found_writeParts_eq_nil own.word (fun _ => none _) (fun _ => none _) call hs

end

end Exchanges

/-! ## Definitions -/

/-- What is answered to a call that has a response. -/
def Call.answer (c : Call) : List PartValue := if c.oneWay then [] else c.response

/-- All parts of the call are plain. -/
def Call.IsPlain (c : Call) : Prop := ∀ p ∈ c.request ++ c.response, p.IsPlain

theorem isFilled_message : IsFilled "message" :=
  ⟨by decide, by rintro _ ⟨⟩; decide, fun _ => rfl⟩

theorem isFilled_response : IsFilled "response" :=
  ⟨by decide, by rintro _ ⟨⟩; decide, fun _ => rfl⟩

theorem isPlain_held {parts : List PartValue} {arguments : List Argument}
    (h : CarryParts parts arguments) (plain : ∀ p ∈ parts, p.IsPlain) :
    ∀ held ∈ arguments.map (·.held), held.IsPlain := by
  intro held hheld
  obtain ⟨a, ha, rfl⟩ := List.mem_map.mp hheld
  exact ⟨h.words a ha, plain _ (h.parts ▸ List.mem_map_of_mem ha)⟩

theorem isQuiet_declareVariable {a : Argument} (h : a.held.IsPlain) :
    IsQuiet (declareVariable a) := by
  have blank : IsQuiet " " := by decide
  have close : IsQuiet ";" := by decide
  exact ((h.part.type.isQuiet.append blank).append (isQuiet_of_isWord h.holder)).append close

theorem isQuiet_input {a : Argument} (h : a.held.IsPlain) : IsQuiet (Parameter.input a).toText := by
  have constant : IsQuiet "const " := by decide
  have reference : IsQuiet "&" := by decide
  have blank : IsQuiet " " := by decide
  have type : IsQuiet a.part.value.input := by
    unfold ValueType.input inputType
    split
    · exact h.part.type.isQuiet
    · exact (constant.append h.part.type.isQuiet).append reference
  exact (type.append blank).append (isQuiet_of_isWord h.holder)

theorem isQuiet_output {a : Argument} (h : a.held.IsPlain) :
    IsQuiet (Parameter.output a).toText := by
  have reference : IsQuiet "&" := by decide
  have blank : IsQuiet " " := by decide
  exact ((h.part.type.isQuiet.append reference).append blank).append (isQuiet_of_isWord h.holder)

theorem isQuiet_signature {returnType className name parameters : String}
    (type : IsQuiet returnType) (cls : IsWord className.toList) (word : IsWord name.toList)
    (quietly : IsQuiet parameters) :
    IsQuiet s!"{returnType} {className}::{name}({parameters})" := by
  have blank : IsQuiet " " := by decide
  have member : IsQuiet "::" := by decide
  have opened : IsQuiet "(" := by decide
  have closed : IsQuiet ")" := by decide
  exact ((((((type.append blank).append (isQuiet_of_isWord cls)).append member).append
    (isQuiet_of_isWord word)).append opened).append quietly).append closed

namespace Exchanges

variable {read : String}

/-- The statements before a call fill its message. -/
theorem prepare {call : Call} {hs : List HeldPart} (plain : ∀ h ∈ hs, h.IsPlain) :
    Exchanges "message" read (call.prepare hs) (putsOf call.style (hs.map (·.part))) [] := by
  have action (rest : String) :
      Exchanges "message" read ["const QString action = " ++ rest] [] [] :=
    constant isFilled_message "QString action ".toList [' '] rfl (by decide) (fun _ => rfl) rest
  have declared : Exchanges "message" read ["KDSoapMessage message;"] [] [] := quiet (by decide)
  unfold Call.prepare
  simp only [toString, String.append_assoc]
  exact (action _).cons (declared.cons (writeParts isFilled_message plain))

/-- A statement that calls an operation has to do with no message but what it sends. -/
theorem passed_of_mem_callOpenings {opening : String} (h : opening ∈ callOpenings)
    (rest : List Char) : put? "message" (opening.toList ++ rest) = none ∧
      itemSource? (opening.toList ++ rest) = none := by
  simp only [callOpenings, List.mem_cons, List.not_mem_nil, or_false] at h
  rcases h with rfl | rfl | rfl | rfl | rfl
  · exact ⟨rfl, itemSource?_of_opening _ (by decide) (fun _ => rfl) (fun _ => rfl) rest⟩
  all_goals exact ⟨rfl, itemSource?_of_head (by decide) _⟩

/-- A call of the interface, whatever takes its value. -/
theorem invoke (call : Call) {target client function : String}
    (h : target ++ client ++ "clientInterface()->" ∈ callOpenings)
    (solid : (target ++ client ++ "clientInterface()->").toList.head?.any (· != ' '))
    (quoteless : '"' ∉ function.toList) :
    Exchanges "message" read [target ++ (call.invoke client function ++ ";")] [] []
      [call.operation.toList] := by
  let arguments := function ++ ("(" ++ (stringOf call.operation ++ ", message, action);"))
  have line : target ++ (call.invoke client function ++ ";") =
      (target ++ client ++ "clientInterface()->") ++ arguments := by
    simp only [Call.invoke, toString, String.append_assoc, arguments]
    rfl
  have first : firstLiteral? arguments.toList = some call.operation.toList := by
    simp only [arguments, String.toList_append]
    rw [firstLiteral?_skip quoteless, firstLiteral?_skip (by decide), firstLiteral?_stringOf]
  obtain ⟨put, item⟩ := passed_of_mem_callOpenings h arguments.toList
  rw [line]
  refine ⟨found_of_eq_none ?_, found_of_eq_none (got?_of_itemSource? ?_), found_of_eq_some ?_⟩
  · rw [statement_append solid, put]
  · rw [statement_append solid, item]
  · rw [statement_append solid, invoked?_append h first]

/-- The statements on a later reply are among those of the call. -/
theorem invokeLater (call : Call) {client : String} (h : client ∈ ["", "m_service->"])
    {lines : List String} {gs : List Got} (onReply : Exchanges "message" read lines [] gs) :
    Exchanges "message" read (call.invokeLater client lines) [] gs [call.operation.toList] := by
  have started : Exchanges "message" read
      ["KDSoapPendingCall pendingCall = " ++ (call.invoke client "asyncCall" ++ ";")] [] []
        [call.operation.toList] := by
    simp only [List.mem_cons, List.not_mem_nil, or_false] at h
    rcases h with rfl | rfl
    · exact invoke call (by decide) (by decide) (by decide)
    · exact invoke call (by decide) (by decide) (by decide)
  have watch : Exchanges "message" read
      ["auto* watcher = new KDSoapPendingCallWatcher(pendingCall, this);"] [] [] :=
    of_passed rfl rfl rfl
  have connect : Exchanges "message" read
      ["QObject::connect(watcher, &KDSoapPendingCallWatcher::finished, this, " ++
        "[this](KDSoapPendingCallWatcher* watcher) \x7b"] [] [] := quiet (by decide)
  have reply : Exchanges "message" read
      ["const KDSoapMessage reply = watcher->returnMessage();"] [] [] := of_passed rfl rfl rfl
  have delete : Exchanges "message" read ["watcher->deleteLater();"] [] [] := quiet (by decide)
  have closing : Exchanges "message" read ["\x7d);"] [] [] := quiet (by decide)
  have rest := watch.cons (block connect (reply.cons (delete.cons onReply)) closing)
  unfold Call.invokeLater
  simp only [String.append_assoc]
  exact started.append rest

end Exchanges

namespace CallMethod

variable {m : CallMethod} {call : Call}

theorem isPlain_sent (h : m.Carries call) (plain : call.IsPlain) : ∀ held ∈ m.sent, held.IsPlain :=
  isPlain_held h.inputs fun p hp => plain p (List.mem_append_left _ hp)

theorem isPlain_outputs (h : m.Carries call) (plain : call.IsPlain) :
    ∀ held ∈ m.outputs.map (·.held), held.IsPlain := by
  refine isPlain_held h.outputs fun p hp => plain p (List.mem_append_right _ ?_)
  unfold Call.stored at hp
  split at hp
  · cases hp
  · exact hp

theorem isPlain_received (h : m.Carries call) (plain : call.IsPlain) :
    ∀ held ∈ m.received, held.IsPlain := by
  have outputs := isPlain_outputs h plain
  obtain rfl := h.ofCall
  unfold received
  split
  · next part single =>
    intro held hheld
    obtain rfl := List.mem_singleton.mp hheld
    have word : IsWord "result".toList := by decide
    exact ⟨word, plain part (List.mem_append_right _ (by simp [single]))⟩
  · exact outputs

theorem isQuiet_returnType (plain : call.IsPlain) : IsQuiet call.returnType := by
  unfold Call.returnType
  split
  · next part single => exact (plain part (by simp [single])).type.isQuiet
  · decide

theorem isQuiet_parameterList (h : m.Carries call) (plain : call.IsPlain) (kind : MethodKind) :
    IsQuiet (m.method kind).parameterList := by
  refine isQuiet_intercalate (by decide) fun text htext => ?_
  obtain ⟨p, hp, rfl⟩ := List.mem_map.mp htext
  rcases List.mem_append.mp hp with hp | hp
  · obtain ⟨a, ha, rfl⟩ := List.mem_map.mp hp
    exact isQuiet_input (isPlain_sent h plain _ (List.mem_map_of_mem ha))
  · obtain ⟨a, ha, rfl⟩ := List.mem_map.mp hp
    exact isQuiet_output (isPlain_outputs h plain _ (List.mem_map_of_mem ha))

theorem exchanges_afterReply (h : m.Carries call) (plain : call.IsPlain) :
    Exchanges "message" "m_lastReply" m.afterReply [] (gotsOf call.style call.response) := by
  have read : Exchanges "message" "m_lastReply" _ [] _ :=
    .readParts isFilled_message call.style (isPlain_received h plain)
  rw [h.received] at read
  obtain rfl := h.ofCall
  have fault {text : String} (quietly : IsQuiet text) : Exchanges "message" "m_lastReply"
      (ifThen "m_lastReply.isFault()" [text]) [] [] :=
    .ifThen isFilled_message _ (.quiet quietly)
  unfold afterReply
  split
  · next part single =>
    have type := (plain part (by simp [single])).type.isQuiet
    have give : IsQuiet "return " := by decide
    have empty : IsQuiet "();" := by decide
    have result : IsQuiet " result;" := by decide
    have returned : Exchanges "message" "m_lastReply" ["return result;"] [] [] := .quiet (by decide)
    exact (((fault ((give.append type).append empty)).behind (.quiet (type.append result))).behind
      read).before returned
  · exact (fault (by decide)).behind read

/-- A method that waits puts the request into its message and takes the response out of the last
reply. -/
theorem exchanges_syncDefinition (h : m.Carries call) (plain : call.IsPlain) {className : String}
    (cls : IsWord className.toList) :
    Exchanges "message" "m_lastReply" (m.syncDefinition className)
      (putsOf call.style call.request) (gotsOf call.style call.answer) [call.operation.toList] := by
  have signature := isQuiet_signature (isQuiet_returnType plain) cls h.word
    (isQuiet_parameterList h plain .sync)
  have after := exchanges_afterReply h plain
  have prepare : Exchanges "message" "m_lastReply" (call.prepare m.sent) _ [] :=
    .prepare (isPlain_sent h plain)
  rw [h.sent] at prepare
  obtain rfl := h.ofCall
  refine .definition signature (prepare.thenRead ?_)
  unfold Call.answer
  split
  · have called : Exchanges "message" "m_lastReply"
        ["" ++ (m.call.invoke "" "callNoReply" ++ ";")] [] [] [m.call.operation.toList] :=
      .invoke m.call (by decide) (by decide) (by decide)
    rwa [String.empty_append] at called
  · have called : Exchanges "message" "m_lastReply"
        ["m_lastReply = " ++ (m.call.invoke "" "call" ++ ";")] [] [] [m.call.operation.toList] :=
      .invoke m.call (by decide) (by decide) (by decide)
    rw [String.append_assoc]
    exact called.append after

end CallMethod

namespace AsyncMethod

variable {m : AsyncMethod} {call : Call}

theorem isPlain_inputs (h : m.Carries call) (plain : call.IsPlain) :
    ∀ held ∈ m.inputs.map (·.held), held.IsPlain :=
  isPlain_held h.inputs fun p hp => plain p (List.mem_append_left _ hp)

theorem isQuiet_parameterList (h : m.Carries call) (plain : call.IsPlain) :
    IsQuiet m.method.parameterList := by
  refine isQuiet_intercalate (by decide) fun text htext => ?_
  obtain ⟨p, hp, rfl⟩ := List.mem_map.mp htext
  obtain ⟨a, ha, rfl⟩ := List.mem_map.mp hp
  exact isQuiet_input (isPlain_inputs h plain _ (List.mem_map_of_mem ha))

theorem exchanges_onReply {s : AnswerSignals} (h : s.Carries m.call) (plain : m.call.IsPlain) :
    Exchanges "message" "reply" (m.onReply s) [] (gotsOf m.call.style m.call.response) := by
  have held := isPlain_held h.arguments fun p hp => plain p (List.mem_append_right _ hp)
  have read : Exchanges "message" "reply" _ [] _ :=
    .readParts isFilled_message m.call.style held
  rw [ByPosition.parts_held, h.arguments.parts] at read
  have emit : IsQuiet "Q_EMIT " := by decide
  let names := ", ".intercalate (s.arguments.map (·.name))
  have listed : IsQuiet names := by
    refine isQuiet_intercalate (by decide) fun name hname => ?_
    obtain ⟨a, ha, rfl⟩ := List.mem_map.mp hname
    exact isQuiet_of_isWord (h.arguments.words a ha)
  have fault : Exchanges "message" "reply"
      (ifThen "reply.isFault()" [s!"Q_EMIT {s.error}(reply);", "return;"]) [] [] := by
    have error : IsQuiet "(reply);" := by decide
    have told := (emit.append (isQuiet_of_isWord h.error)).append error
    exact .ifThen isFilled_message _ (.cons (.quiet told) (.quiet (by decide)))
  have declared : Exchanges "message" "reply" (s.arguments.map declareVariable) [] [] := by
    refine .quietLines fun line hline => ?_
    obtain ⟨a, ha, rfl⟩ := List.mem_map.mp hline
    exact isQuiet_declareVariable (held _ (List.mem_map_of_mem ha))
  have done : Exchanges "message" "reply" [s!"Q_EMIT {s.done}({names});"] [] [] := by
    have opened : IsQuiet "(" := by decide
    have closed : IsQuiet ");" := by decide
    exact .quiet ((((emit.append (isQuiet_of_isWord h.done)).append opened).append listed).append
      closed)
  exact ((fault.behind declared).behind read).before done

/-- A method that does not wait puts the request into its message and takes the response out of the
reply. -/
theorem exchanges_asyncDefinition (h : m.Carries call) (plain : call.IsPlain) {className : String}
    (cls : IsWord className.toList) :
    Exchanges "message" "reply" (m.asyncDefinition className)
      (putsOf call.style call.request) (gotsOf call.style call.answer) [call.operation.toList] := by
  have void : IsQuiet "void" := by decide
  have signature := isQuiet_signature void cls h.word (isQuiet_parameterList h plain)
  have prepare : Exchanges "message" "reply" (call.prepare (m.inputs.map (·.held))) _ [] :=
    .prepare (isPlain_inputs h plain)
  rw [ByPosition.parts_held, h.inputs.parts] at prepare
  have signals := h.signals
  obtain rfl := h.ofCall
  refine .definition signature (prepare.thenRead ?_)
  unfold Call.answer
  split at signals
  · next oneWay =>
    rw [signals, if_pos oneWay]
    have called : Exchanges "message" "reply" ["" ++ (m.call.invoke "" "callNoReply" ++ ";")] [] []
        [m.call.operation.toList] := .invoke m.call (by decide) (by decide) (by decide)
    rwa [String.empty_append] at called
  · next answered =>
    obtain ⟨s, hs, carries⟩ := signals
    rw [hs, if_neg answered]
    exact .invokeLater m.call (by decide) (exchanges_onReply carries plain)

end AsyncMethod

namespace JobClass

variable {c : JobClass} {call : Call}

theorem isPlain_held {parts : List PartValue} {members : List Member}
    (carried : members.map (·.held.part) = parts) (words : ∀ m ∈ members, IsWord m.name.toList)
    (plain : ∀ p ∈ parts, p.IsPlain) : ∀ held ∈ members.map (·.held), held.IsPlain := by
  intro held hheld
  obtain ⟨m, hm, rfl⟩ := List.mem_map.mp hheld
  refine ⟨?_, plain _ (carried ▸ List.mem_map_of_mem hm)⟩
  have field : IsWord "m_".toList := by decide
  show IsWord ("m_" ++ m.name).toList
  rw [String.toList_append]
  exact field.append (words m hm).chars

/-- A job puts the request into its message and takes the response out of the reply. -/
theorem exchanges_start (h : c.Carries call) (plain : call.IsPlain) :
    Exchanges "message" "reply" (definition s!"void {c.name}::start()" c.start)
      (putsOf call.style call.request) (gotsOf call.style call.answer) [call.operation.toList] := by
  have request := isPlain_held h.request (fun m hm => h.words m (List.mem_append_left _ hm))
    fun p hp => plain p (List.mem_append_left _ hp)
  have response := isPlain_held h.response (fun m hm => h.words m (List.mem_append_right _ hm))
    fun p hp => plain p (List.mem_append_right _ hp)
  have prepare : Exchanges "message" "reply" (call.prepare (c.request.map (·.held))) _ [] :=
    .prepare request
  have read : Exchanges "message" "reply" _ [] _ :=
    .readParts isFilled_message call.style response
  have requested : (c.request.map (·.held)).map (·.part) = call.request := by
    rw [← h.request, List.map_map]
    rfl
  have responded : (c.response.map (·.held)).map (·.part) = call.response := by
    rw [← h.response, List.map_map]
    rfl
  rw [requested] at prepare
  rw [responded] at read
  have signature : IsQuiet s!"void {c.name}::start()" := by
    have void : IsQuiet "void " := by decide
    have start : IsQuiet "::start()" := by decide
    exact (void.append (isQuiet_of_isWord h.word)).append start
  have finished : Exchanges "message" "reply" ["Q_EMIT finished(this);"] [] [] :=
    .quiet (by decide)
  obtain rfl := h.ofCall
  refine .definition signature (prepare.thenRead ?_)
  unfold Call.answer
  split
  · have called : Exchanges "message" "reply"
        ["" ++ (c.call.invoke "m_service->" "callNoReply" ++ ";")] [] []
          [c.call.operation.toList] := .invoke c.call (by decide) (by decide) (by decide)
    rw [String.empty_append] at called
    exact called.append finished
  · exact .invokeLater c.call (by decide) ((read.ifThen isFilled_message _).before finished)

end JobClass

namespace ServerClass

variable {m : CallMethod} {call : Call}

theorem exchanges_implementationCall (h : m.Carries call) (plain : call.IsPlain) :
    Exchanges "response" "request" [implementationCall m] [] [] := by
  have names : IsQuiet (", ".intercalate ((m.inputs ++ m.outputs).map (·.name))) := by
    refine isQuiet_intercalate (by decide) fun name hname => ?_
    obtain ⟨a, ha, rfl⟩ := List.mem_map.mp hname
    rcases List.mem_append.mp ha with ha | ha
    · exact isQuiet_of_isWord (h.inputs.words a ha)
    · exact isQuiet_of_isWord (h.outputs.words a ha)
  obtain rfl := h.ofCall
  unfold implementationCall
  split
  · next part single =>
    have type : '=' ∉ part.value.text.toList :=
      (plain part (by simp [single])).type.not_mem (by decide)
    have result (rest : String) : Exchanges "response" "request"
        ["const " ++ part.value.text ++ " result = " ++ rest] [] [] := by
      refine .constant isFilled_response (part.value.text.toList ++ " result ".toList) [' '] ?_ ?_
        (fun cs => ?_) rest
      · simp [String.toList_append]
      · rw [List.mem_append, not_or]
        exact ⟨type, by decide⟩
      · rw [List.reverse_append, List.append_assoc]
        rfl
    simp only [toString, String.append_assoc] at result ⊢
    exact result _
  · have opened : IsQuiet "(" := by decide
    have closed : IsQuiet ");" := by decide
    exact .quiet ((((isQuiet_of_isWord h.word).append opened).append names).append closed)

theorem exchanges_respond (h : m.Carries call) (plain : call.IsPlain) :
    Exchanges "response" "request" (respond m) (putsOf call.style call.answer) [] := by
  have written : Exchanges "response" "request" (writeParts "response" call m.received) _ [] :=
    .writeParts isFilled_response (CallMethod.isPlain_received h plain)
  rw [h.received] at written
  obtain rfl := h.ofCall
  have named (rest : String) : Exchanges "response" "request" ["response.setName(" ++ rest] [] [] :=
    .opening _ _ (by decide) (fun _ => rfl) (fun _ => itemSource?_of_head (by decide) _)
      fun _ => rfl
  unfold respond Call.answer
  split
  · exact .nil
  · refine .behind ?_ written
    split
    · simp only [toString, String.append_assoc]
      exact named _
    · exact .nil

/-- The branch of a server takes the request out of its message and puts the response into the
other. -/
theorem exchanges_dispatch (h : m.Carries call) (plain : call.IsPlain) :
    Exchanges "response" "request" (dispatch m) (putsOf call.style call.answer)
      (gotsOf call.style call.request) := by
  have declared {arguments : List Argument}
      (held : ∀ h ∈ arguments.map (·.held), h.IsPlain) :
      Exchanges "response" "request" (arguments.map declareVariable) [] [] := by
    refine .quietLines fun line hline => ?_
    obtain ⟨a, ha, rfl⟩ := List.mem_map.mp hline
    exact isQuiet_declareVariable (held _ (List.mem_map_of_mem ha))
  have read : Exchanges "response" "request" _ [] _ :=
    .readParts isFilled_response call.style (CallMethod.isPlain_sent h plain)
  have returned : Exchanges "response" "request" ["return;"] [] [] := .quiet (by decide)
  have called := exchanges_implementationCall h plain
  have respond := exchanges_respond h plain
  rw [h.sent] at read
  have inputs := declared (CallMethod.isPlain_sent h plain)
  have outputs := declared (CallMethod.isPlain_outputs h plain)
  obtain rfl := h.ofCall
  exact .ifThen isFilled_response _ (((((inputs.behind read).before outputs).before called).thenFill
    respond).before returned)

end ServerClass

end SoapBindings.Cpp
