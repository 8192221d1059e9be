import SoapBindings.Proofs.Cpp.Positions
import SoapBindings.Proofs.Cpp.Statements

/-!
# The variables of generated bodies

What the body of a method calls by name besides the parameters is listed beside the method
(`MethodBody`), and read off the text: a statement that is made of words up to its end or to its `=`
declares the last of them (`declared?`). The methods of a client declare all that is listed for them
and nothing else; what is declared for an operation of a server is listed as well
(`listed_classes`).
-/

set_option autoImplicit false

namespace SoapBindings.Cpp

/-! ## The names that bodies have of their own -/

/-- What a method that waits declares besides its parameters: a response of one part is put together
in `result`, and each part that is read stands in `item` first. -/
def CallMethod.syncLocals (m : CallMethod) : List String :=
  ["action", "message"] ++
    if m.call.oneWay then []
    else match m.call.response with
      | [] => []
      | [_] => ["result", "item"]
      | _ => ["item"]

/-- What a method that does not wait declares, also in what is done on the reply. -/
def AsyncMethod.locals (m : AsyncMethod) : List String :=
  ["action", "message"] ++ match m.signals with
    | none => []
    | some s => ["pendingCall", "watcher", "reply"] ++ if s.arguments.isEmpty then [] else ["item"]

/-- What stands around the variables of an operation where a server finds it: the parameters of
`processRequest` and what that declares. -/
def ServerClass.locals : List String := ["request", "response", "method", "result", "item"]

/-- A method with its body, and what that calls by name besides the parameters. -/
structure MethodBody where
  method : Method
  text : List String
  locals : List String
  /-- The variables in which the body puts what it has read. -/
  results : List String

/-- The parts of messages that the parameters carry. -/
def MethodBody.parts (b : MethodBody) : List PartValue := b.method.parameters.filterMap (·.part)

namespace CallMethod

def syncBody (className : String) (m : CallMethod) : MethodBody :=
  ⟨m.method .sync, m.syncDefinition className, m.syncLocals, []⟩

/-- The method of a server with what is done for it on a request: there the parameters are
variables. -/
def serverBody (m : CallMethod) : MethodBody :=
  ⟨m.method .pureVirtual, "const QString method = request.name();" :: ServerClass.dispatch m,
    ServerClass.locals, (m.inputs ++ m.outputs).map (·.name)⟩

end CallMethod

def AsyncMethod.body (className : String) (m : AsyncMethod) : MethodBody :=
  ⟨m.method, m.asyncDefinition className, m.locals,
    m.signals.toList.flatMap fun s => s.arguments.map (·.name)⟩

def ClientOperation.bodies (className : String) (o : ClientOperation) : List MethodBody :=
  o.sync.toList.map (·.syncBody className) ++ o.async.toList.map (·.body className)

/-- The operations of a class, in each form, with their bodies. -/
def Class.bodies : Class → List MethodBody
  | .client c => c.operations.flatMap (·.bodies c.name)
  | .server c => c.operations.map (·.serverBody)
  | .object _ | .enumeration _ | .job _ => []

/-! ## Declarations -/

def IsDeclarationChar (c : Char) : Prop := IsTypeChar c ∨ c = '*'

instance (c : Char) : Decidable (IsDeclarationChar c) :=
  inferInstanceAs (Decidable (IsTypeChar c ∨ c = '*'))

/-- The last of several words. -/
def lastWord? (cs : List Char) : Option (List Char) :=
  let backwards := cs.reverse.dropWhile (· == ' ')
  if (backwards.dropWhile (· != ' ')).isEmpty then none
  else some (backwards.takeWhile (· != ' ')).reverse

/-- What a statement of words declares, with a value or without one. What is returned by its name
counts as well; it was declared before. -/
def declared? (cs : List Char) : Option (List Char) :=
  match cs.dropWhile (decide <| IsDeclarationChar ·) with
  | [] => none
  | c :: _ =>
    if c = ';' ∨ c = '=' then lastWord? (cs.takeWhile (decide <| IsDeclarationChar ·)) else none

variable {before after rest : List Char} {c : Char}

theorem declared?_append (chars : ∀ d ∈ before, IsDeclarationChar d) (stop : ¬ IsDeclarationChar c)
    (rest : List Char) : declared? (before ++ c :: rest) =
      if c = ';' ∨ c = '=' then lastWord? before else none := by
  have all : ∀ d ∈ before, decide (IsDeclarationChar d) = true :=
    fun d hd => decide_eq_true (chars d hd)
  have dropped : (before ++ c :: rest).dropWhile (decide <| IsDeclarationChar ·) = c :: rest := by
    rw [List.dropWhile_append_of_pos all, List.dropWhile_cons_of_neg (by simpa using stop)]
  have taken : (before ++ c :: rest).takeWhile (decide <| IsDeclarationChar ·) = before := by
    rw [List.takeWhile_append_of_pos all, List.takeWhile_cons_of_neg (by simpa using stop),
      List.append_nil]
  rw [declared?, dropped, taken]

theorem IsWord.not_blank {word : List Char} (h : IsWord word) : ∀ c ∈ word.reverse, c ≠ ' ' := by
  rintro c hc rfl
  exact absurd (h.chars ' ' (List.mem_reverse.mp hc)) (by decide)

/-- The end of some words, read backwards. -/
theorem dropWhile_reverse {word blanks : List Char} (h : IsWord word)
    (blank : ∀ c ∈ blanks, c = ' ') (ahead : List Char) :
    (ahead ++ (word ++ blanks)).reverse.dropWhile (· == ' ') = word.reverse ++ ahead.reverse := by
  have turned : (ahead ++ (word ++ blanks)).reverse =
      blanks.reverse ++ (word.reverse ++ ahead.reverse) := by
    simp [List.append_assoc]
  have passed : ∀ c ∈ blanks.reverse, (c == ' ') = true :=
    fun c hc => beq_iff_eq.mpr (blank c (List.mem_reverse.mp hc))
  rw [turned, List.dropWhile_append_of_pos passed]
  cases hword : word.reverse with
  | nil => exact absurd (List.reverse_eq_nil_iff.mp hword) h.nonempty
  | cons d ds =>
    have solid : d ≠ ' ' := h.not_blank d (by rw [hword]; exact List.mem_cons_self)
    exact List.dropWhile_cons_of_neg (by simpa using solid)

/-- A word behind others, whatever blanks follow. -/
theorem lastWord?_append {word : List Char} (h : IsWord word) (type : List Char)
    {blanks : List Char} (blank : ∀ c ∈ blanks, c = ' ') :
    lastWord? (type ++ ' ' :: (word ++ blanks)) = some word := by
  have solid : ∀ c ∈ word.reverse, (c != ' ') = true :=
    fun c hc => bne_iff_ne.mpr (h.not_blank c hc)
  have turned : (type ++ [' ']).reverse = ' ' :: type.reverse := by simp
  have backwards := dropWhile_reverse h blank (type ++ [' '])
  rw [List.append_assoc, List.singleton_append, turned] at backwards
  rw [lastWord?, backwards, List.dropWhile_append_of_pos solid, List.takeWhile_append_of_pos solid]
  simp

/-- A single word is not the last of several. -/
theorem lastWord?_of_isWord {word : List Char} (h : IsWord word) {blanks : List Char}
    (blank : ∀ c ∈ blanks, c = ' ') : lastWord? (word ++ blanks) = none := by
  have solid : ∀ c ∈ word.reverse, (c != ' ') = true :=
    fun c hc => bne_iff_ne.mpr (h.not_blank c hc)
  have backwards := dropWhile_reverse h blank []
  rw [List.nil_append, List.reverse_nil, List.append_nil] at backwards
  rw [lastWord?, backwards, List.dropWhile_eq_nil_iff.mpr solid]
  rfl

/-! ## Lines -/

/-- The text is one of words, a word first, like the types of parts. -/
structure IsTyped (type : String) : Prop where
  chars : ∀ c ∈ type.toList, IsTypeChar c
  solid : type.toList.head?.any (· != ' ')

theorem isDeclarationChar_of_isWord {word : List Char} (h : IsWord word) :
    ∀ c ∈ word, IsDeclarationChar c :=
  fun c hc => Or.inl (Or.inl (h.chars c hc))

theorem IsTyped.append {type more : String} (h : IsTyped type)
    (chars : ∀ c ∈ more.toList, IsTypeChar c) : IsTyped (type ++ more) := by
  constructor
  · intro c hc
    rw [String.toList_append] at hc
    rcases List.mem_append.mp hc with hc | hc
    · exact h.chars c hc
    · exact chars c hc
  · have nonempty : type.toList ≠ [] := by
      intro empty
      have solid := h.solid
      rw [empty] at solid
      cases solid
    rw [String.toList_append, List.head?_append_of_ne_nil _ nonempty]
    exact h.solid

theorem isTyped_of_isWord {word : String} (h : IsWord word.toList) : IsTyped word := by
  refine ⟨fun c hc => Or.inl (h.chars c hc), ?_⟩
  obtain ⟨c, cs, hc⟩ := List.exists_cons_of_ne_nil h.nonempty
  have solid : c ≠ ' ' := h.not_blank c (List.mem_reverse.mpr (hc ▸ List.mem_cons_self))
  rw [hc]
  simpa using solid

theorem isTyped_void : IsTyped "void" := isTyped_of_isWord (by decide)

/-- A line that begins with words, up to where they end. -/
theorem statement_of_isTyped {line type : String} (typed : IsTyped type) {rest : List Char}
    (whole : line.toList = type.toList ++ rest) : statement line = line.toList := by
  have shape : line = type ++ String.ofList rest := by
    rw [← String.toList_inj, whole, String.toList_append, String.toList_ofList]
  rw [shape, statement_append typed.solid, String.toList_append]

/-- The declaration of a variable, with a value or without one. -/
theorem found_declaration {line type name : String} (typed : IsTyped type)
    (word : IsWord name.toList) {blanks : List Char} (blank : ∀ c ∈ blanks, c = ' ') {c : Char}
    (stop : c = ';' ∨ c = '=') (rest : List Char)
    (whole : line.toList = type.toList ++ ' ' :: (name.toList ++ blanks) ++ c :: rest) :
    found declared? [line] = [name.toList] := by
  refine found_of_eq_some ?_
  have chars : ∀ d ∈ type.toList ++ ' ' :: (name.toList ++ blanks), IsDeclarationChar d := by
    intro d hd
    rcases List.mem_append.mp hd with hd | hd
    · exact Or.inl (typed.chars d hd)
    · rcases List.mem_cons.mp hd with rfl | hd
      · decide
      · rcases List.mem_append.mp hd with hd | hd
        · exact isDeclarationChar_of_isWord word d hd
        · rw [blank d hd]
          decide
  have other : ¬ IsDeclarationChar c := by
    rcases stop with rfl | rfl
    · decide
    · decide
  have begins : line.toList = type.toList ++ (' ' :: (name.toList ++ blanks) ++ c :: rest) := by
    rw [whole, List.append_assoc]
  rw [statement_of_isTyped typed begins, whole, declared?_append chars other, if_pos stop,
    lastWord?_append word _ blank]

/-- Words that something else than the end or a value follows declare nothing. -/
theorem found_words {line type : String} (typed : IsTyped type) (c : Char)
    (stop : ¬ IsDeclarationChar c) (other : c ≠ ';' ∧ c ≠ '=') (rest : List Char)
    (whole : line.toList = type.toList ++ c :: rest) : found declared? [line] = [] := by
  refine found_of_eq_none ?_
  have chars : ∀ d ∈ type.toList, IsDeclarationChar d := fun d hd => Or.inl (typed.chars d hd)
  rw [statement_of_isTyped typed whole, whole, declared?_append chars stop,
    if_neg (not_or.mpr other)]

/-- An assignment to a single word declares nothing. -/
theorem declared?_assignment {word : List Char} (h : IsWord word) (value : List Char) :
    declared? (word ++ ' ' :: '=' :: value) = none := by
  have chars : ∀ d ∈ word ++ [' '], IsDeclarationChar d := by
    intro d hd
    rcases List.mem_append.mp hd with hd | hd
    · exact isDeclarationChar_of_isWord h d hd
    · rw [List.mem_singleton.mp hd]
      decide
  have single : lastWord? (word ++ [' ']) = none := lastWord?_of_isWord h (by simp)
  have whole : word ++ ' ' :: '=' :: value = (word ++ [' ']) ++ '=' :: value := by simp
  rw [whole, declared?_append chars (by decide), single, if_pos (Or.inr rfl)]

theorem found_writeParts_declared {message : String} (word : IsWord message.toList) (call : Call)
    (hs : List HeldPart) : found declared? (writeParts message call hs) = [] := by
  refine found_writeParts_eq_nil word (declared?_assignment word) (fun cs => ?_) call hs
  rw [declared?_append (isDeclarationChar_of_isWord word) (by decide), if_neg (by decide)]

theorem found_prepare (c : Call) (hs : List HeldPart) :
    found declared? (c.prepare hs) = ["action".toList, "message".toList] := by
  have action (rest : String) :
      found declared? ["const QString action = " ++ rest] = ["action".toList] :=
    found_of_eq_some (by rw [statement_append (by decide)]; rfl)
  have message : found declared? ["KDSoapMessage message;"] = ["message".toList] :=
    found_of_eq_some rfl
  have word : IsWord "message".toList := by decide
  rw [Call.prepare, found_append, found_cons, message, found_writeParts_declared word]
  simp only [toString, String.append_assoc]
  rw [action]
  rfl

/-! ## Values that are read -/

theorem passesBraces_declared? : PassesBraces declared? where
  opening := by decide
  closing := by decide

/-- A fixed text of words; this is decided over the text, never over all characters. -/
theorem isTyped_of_all {type : String} (chars : type.toList.all (decide <| IsTypeChar ·))
    (solid : type.toList.head?.any (· != ' ')) : IsTyped type :=
  ⟨by simpa using chars, solid⟩

theorem isTyped_const : IsTyped "const " := isTyped_of_all (by decide) (by decide)

theorem isTyped_return : IsTyped "return " := isTyped_of_all (by decide) (by decide)

/-- A constant of a type. -/
theorem found_constant {type name : String} (typed : IsTyped type) (word : IsWord name.toList)
    (value : String) : found declared? [s!"const {type} {name} = {value}"] = [name.toList] := by
  have blank : ∀ c ∈ [' '], c = ' ' := by simp
  refine found_declaration (isTyped_const.append typed.chars) word blank (Or.inr rfl)
    (' ' :: value.toList) ?_
  simp [String.toList_append, toString]

/-- A variable of a type. -/
theorem found_variable {line type name : String} (typed : IsTyped type) (word : IsWord name.toList)
    (whole : line.toList = type.toList ++ ' ' :: name.toList ++ [';']) :
    found declared? [line] = [name.toList] := by
  have blank : ∀ c ∈ ([] : List Char), c = ' ' := by simp
  refine found_declaration typed word blank (Or.inl rfl) [] ?_
  rw [whole, List.append_nil]

/-- What stands in `item` is declared as that. -/
theorem found_readItem_declared {v : ValueType} (typed : IsTyped v.text) (source : String) :
    found declared? (v.readItem source) = ["item".toList] := by
  have word : IsWord "item".toList := by decide
  have any (value : String) : found declared? ["const KDSoapValue item = " ++ value] =
      ["item".toList] :=
    found_of_eq_some (by rw [statement_append (by decide)]; rfl)
  have declared : found declared? [s!"{v.text} item;"] = ["item".toList] := by
    refine found_variable typed word ?_
    simp [String.toList_append, toString]
  have object (rest : String) : found declared? ["item.deserialize(" ++ rest] = [] :=
    found_of_eq_none (by rw [statement_append (by decide)]; rfl)
  unfold ValueType.readItem
  split
  · simp only [toString, String.append_assoc]
    exact any _
  · have whole := found_constant typed word s!"{source}.value().value<{v.text}>();"
    simp only [toString, String.append_assoc] at whole ⊢
    exact whole
  · rw [found_cons, declared]
    simp only [toString, String.append_assoc]
    rw [object]
    rfl
  · rw [found_cons, declared]
    simp only [toString, String.append_assoc]
    rw [object]
    rfl

/-- A part that is held by a word and has a type. -/
structure HeldPart.IsTyped (h : HeldPart) : Prop where
  holder : IsWord h.holder.toList
  type : Cpp.IsTyped h.part.value.text

theorem found_readPart_declared (message : String) (style : Wsdl.Style) (parts : List PartValue)
    {h : HeldPart} (typed : h.IsTyped) :
    found declared? (readPart message style parts h) = ["item".toList] := by
  have stored : found declared? [h.holder ++ " = item;"] = [] := by
    refine found_of_eq_none ?_
    rw [statement_of_isWord typed.holder]
    exact declared?_assignment typed.holder _
  rw [readPart, passesBraces_declared?.found_braces, found_append,
    found_readItem_declared typed.type]
  exact congrArg _ stored

/-- Each part that is read stands in `item` first. -/
theorem found_readParts_declared (message : String) (style : Wsdl.Style) {hs : List HeldPart}
    (typed : ∀ h ∈ hs, h.IsTyped) :
    found declared? (readParts message style hs) = hs.map fun _ => "item".toList := by
  have each (h : HeldPart) (hh : h ∈ hs) :=
    found_readPart_declared message style (hs.map (·.part)) (typed h hh)
  rw [readParts, found_flatMap, List.flatMap_congr each]
  exact List.map_eq_flatMap.symm

/-! ## Definitions -/

theorem found_definition {signature : String} (none : found declared? [signature] = [])
    (body : List String) : found declared? (definition signature body) = found declared? body := by
  have empty : found declared? [""] = [] := found_of_eq_none rfl
  rw [definition, List.cons_append, found_cons, none, found_append,
    passesBraces_declared?.found_braces, empty, List.append_nil, List.nil_append]

/-- A method of a class declares what its body does. -/
theorem found_methodDefinition {signature type className : String} (typed : IsTyped type)
    (word : IsWord className.toList) (rest : String)
    (whole : signature.toList = type.toList ++ ' ' :: className.toList ++ ':' :: rest.toList)
    (body : List String) : found declared? (definition signature body) = found declared? body := by
  have blank : ∀ c ∈ " ".toList, IsTypeChar c := by
    intro c hc
    exact Or.inr (List.mem_singleton.mp hc)
  refine found_definition (found_words ((typed.append blank).append (isTyped_of_isWord word).chars)
    ':' (by decide) (by decide) rest.toList ?_) body
  simpa [String.toList_append] using whole

/-- A call of the interface. -/
theorem found_invoke (c : Call) (function : String) :
    found declared? [c.invoke "" function ++ ";"] = [] := by
  have word : IsWord "clientInterface".toList := by decide
  refine found_words (isTyped_of_isWord word) '(' (by decide) (by decide)
    (")->".toList ++ (function.toList ++ '(' :: (stringOf c.operation).toList ++
      ", message, action);".toList)) ?_
  simp [Call.invoke, String.toList_append, toString]

theorem found_ifThen (condition : String) (body : List String) :
    found declared? (ifThen condition body) = found declared? body := by
  have opening : found declared? ["if (" ++ condition ++ ") \x7b"] = [] := by
    rw [String.append_assoc]
    exact found_of_eq_none (by rw [statement_append (by decide)]; rfl)
  have closing : found declared? ["\x7d"] = [] := found_of_eq_none rfl
  rw [ifThen, found_block, opening, closing, List.nil_append, List.append_nil]

/-- The parts of a call have types. -/
def Call.IsTyped (call : Call) : Prop :=
  ∀ p ∈ call.request ++ call.response, Cpp.IsTyped p.value.text

theorem Call.stored_subset (call : Call) : call.stored ⊆ call.response := by
  unfold stored
  split
  · exact List.nil_subset _
  · exact List.Subset.refl _

theorem isTyped_held {arguments : List Argument} {parts : List PartValue}
    (h : CarryParts parts arguments) (typed : ∀ p ∈ parts, IsTyped p.value.text) :
    ∀ held ∈ arguments.map (·.held), held.IsTyped := by
  intro held hheld
  obtain ⟨a, ha, rfl⟩ := List.mem_map.mp hheld
  have part : a.part ∈ parts := h.parts ▸ List.mem_map_of_mem ha
  exact ⟨h.words a ha, typed _ part⟩

/-- A variable for each part. -/
theorem found_declareVariable {arguments : List Argument} {parts : List PartValue}
    (h : CarryParts parts arguments) (typed : ∀ p ∈ parts, IsTyped p.value.text) :
    found declared? (arguments.map declareVariable) = arguments.map (·.name.toList) := by
  have each (a : Argument) (ha : a ∈ arguments) :
      found declared? [declareVariable a] = [a.name.toList] := by
    have part : a.part ∈ parts := h.parts ▸ List.mem_map_of_mem ha
    refine found_variable (typed _ part) (h.words a ha) ?_
    simp [declareVariable, String.toList_append, toString]
  rw [List.map_eq_flatMap, found_flatMap, List.flatMap_congr each]
  exact List.map_eq_flatMap.symm

namespace CallMethod

variable {call : Call} {m : CallMethod} {className : String}

theorem Carries.isTyped_received (h : m.Carries call) (typed : call.IsTyped) :
    ∀ held ∈ m.received, held.IsTyped := by
  have response : ∀ p ∈ call.response, Cpp.IsTyped p.value.text :=
    fun p hp => typed p (List.mem_append_right _ hp)
  obtain rfl := h.ofCall
  unfold CallMethod.received
  split
  · next part single =>
    intro held hheld
    rw [List.mem_singleton.mp hheld]
    have word : IsWord "result".toList := by decide
    exact ⟨word, response part (single ▸ List.mem_cons_self)⟩
  · exact isTyped_held h.outputs fun p hp => response p (Call.stored_subset _ hp)

/-- What follows on the reply declares its locals. -/
theorem Carries.found_afterReply (h : m.Carries call) (typed : call.IsTyped) (w : List Char) :
    w ∈ found declared? m.afterReply ↔ w ∈ (match call.response with
      | [] => []
      | [_] => ["result".toList, "item".toList]
      | _ => ["item".toList]) := by
  have read := found_readParts_declared "m_lastReply" m.call.style (h.isTyped_received typed)
  have parts := h.received
  obtain rfl := h.ofCall
  have faultOnly : found declared? ["return;"] = [] := found_of_eq_none rfl
  match hresponse : m.call.response with
  | [part] =>
    have type : Cpp.IsTyped part.value.text := typed part (by simp [hresponse])
    have received : m.received = [⟨part, "result"⟩] := by rw [CallMethod.received, hresponse]
    have fails : found declared? [s!"return {part.value.text}();"] = [] := by
      refine found_words (isTyped_return.append type.chars) '(' (by decide) (by decide)
        (");".toList) ?_
      simp [String.toList_append, toString]
    have word : IsWord "result".toList := by decide
    have result : found declared? [s!"{part.value.text} result;"] = ["result".toList] := by
      refine found_variable type word ?_
      simp [String.toList_append, toString]
    have returned : found declared? ["return result;"] = ["result".toList] :=
      found_of_eq_some rfl
    have whole : found declared? m.afterReply =
        ["result".toList, "item".toList, "result".toList] := by
      rw [received] at read
      rw [afterReply, hresponse, received]
      simp only [found_append, found_ifThen, fails, result, returned, read]
      rfl
    rw [whole]
    simp
    tauto
  | [] =>
    have whole : found declared? m.afterReply = [] := by
      rw [hresponse, List.map_eq_nil_iff] at parts
      rw [parts] at read
      rw [afterReply, hresponse, parts]
      simp only [found_append, found_ifThen, faultOnly, read]
      rfl
    rw [whole]
  | first :: second :: rest =>
    have whole : found declared? m.afterReply = m.received.map fun _ => "item".toList := by
      rw [afterReply, hresponse]
      simp only [found_append, found_ifThen, faultOnly, read, List.nil_append]
    have nonempty : m.received ≠ [] := by
      rintro empty
      rw [empty, hresponse] at parts
      cases parts
    rw [whole]
    simp [nonempty]

/-- A method that waits declares its locals. -/
theorem Carries.declared_syncDefinition (h : m.Carries call) (typed : call.IsTyped)
    (cls : IsWord className.toList) (w : List Char) :
    w ∈ found declared? (m.syncDefinition className) ↔ w ∈ m.syncLocals.map (·.toList) := by
  have reply := h.found_afterReply typed w
  obtain rfl := h.ofCall
  have type : Cpp.IsTyped m.call.returnType := by
    unfold Call.returnType
    split
    · next part single => exact typed part (by simp [single])
    · exact isTyped_void
  have call (value : String) : found declared? ["m_lastReply = " ++ value] = [] :=
    found_of_eq_none (by rw [statement_append (by decide)]; rfl)
  let rest := ":" ++ m.name ++ "(" ++ (m.method .sync).parameterList ++ ")"
  rw [syncDefinition, found_methodDefinition type cls rest
    (by simp [rest, CallMethod.method, String.toList_append, toString]), found_append,
    found_prepare]
  by_cases oneWay : m.call.oneWay
  · simp only [oneWay, if_true, found_invoke, syncLocals]
    simp
  · simp only [oneWay, Bool.false_eq_true, if_false, syncLocals]
    rw [found_cons, String.append_assoc, call, List.nil_append, List.mem_append, reply,
      List.map_append, List.mem_append]
    cases m.call.response with
    | nil => rfl
    | cons first others => cases others <;> rfl

end CallMethod

namespace AsyncMethod

variable {call : Call} {m : AsyncMethod} {className : String}

/-- A signal that is emitted. -/
theorem found_emit {line signal : String} (word : IsWord signal.toList) (rest : List Char)
    (whole : line.toList = "Q_EMIT ".toList ++ signal.toList ++ '(' :: rest) :
    found declared? [line] = [] := by
  have emit : Cpp.IsTyped "Q_EMIT " := isTyped_of_all (by decide) (by decide)
  refine found_words (emit.append (isTyped_of_isWord word).chars) '(' (by decide) (by decide)
    rest ?_
  rw [whole, String.toList_append]

/-- What is done on the reply declares a variable for each part of the response. -/
theorem found_onReply {s : AnswerSignals} (h : s.Carries m.call) (typed : m.call.IsTyped) :
    found declared? (m.onReply s) =
      s.arguments.map (·.name.toList) ++ s.arguments.map fun _ => "item".toList := by
  have response : ∀ p ∈ m.call.response, Cpp.IsTyped p.value.text :=
    fun p hp => typed p (List.mem_append_right _ hp)
  have read := found_readParts_declared "reply" m.call.style (isTyped_held h.arguments response)
  rw [List.map_map] at read
  let names := ", ".intercalate (s.arguments.map (·.name))
  have failed : found declared? [s!"Q_EMIT {s.error}(reply);"] = [] :=
    found_emit h.error "reply);".toList (by simp [String.toList_append, toString])
  have emitted : found declared? [s!"Q_EMIT {s.done}({names});"] = [] :=
    found_emit h.done (names.toList ++ ");".toList)
      (by simp [String.toList_append, toString])
  have ended : found declared? ["return;"] = [] := found_of_eq_none rfl
  rw [onReply, found_append, found_append, found_append, found_ifThen, found_cons, failed, ended,
    found_declareVariable h.arguments response, read, emitted, List.append_nil]
  rfl

theorem found_invokeLater (c : Call) (onReply : List String) :
    found declared? (c.invokeLater "" onReply) =
      ["pendingCall".toList, "watcher".toList, "reply".toList] ++ found declared? onReply := by
  have pending (rest : String) : found declared? ["KDSoapPendingCall pendingCall = " ++ rest] =
      ["pendingCall".toList] :=
    found_of_eq_some (by rw [statement_append (by decide)]; rfl)
  have watcher : found declared?
      ["auto* watcher = new KDSoapPendingCallWatcher(pendingCall, this);"] = ["watcher".toList] :=
    found_of_eq_some rfl
  have opening : found declared?
      ["QObject::connect(watcher, &KDSoapPendingCallWatcher::finished, this, " ++
        "[this](KDSoapPendingCallWatcher* watcher) \x7b"] = [] :=
    found_of_eq_none (by rw [statement_append (by decide)]; rfl)
  have reply : found declared? ["const KDSoapMessage reply = watcher->returnMessage();"] =
      ["reply".toList] := found_of_eq_some rfl
  have later : found declared? ["watcher->deleteLater();"] = [] := found_of_eq_none rfl
  have closing : found declared? ["\x7d);"] = [] := found_of_eq_none rfl
  rw [Call.invokeLater, found_append, found_cons, watcher, String.append_assoc, pending,
    found_block, opening, closing, found_append, found_cons, reply, later]
  simp

/-- A method that does not wait declares its locals, and variables for the parts of the response. -/
theorem Carries.declared_asyncDefinition (h : m.Carries call) (typed : call.IsTyped)
    (cls : IsWord className.toList) (w : List Char) :
    w ∈ found declared? (m.asyncDefinition className) ↔
      w ∈ (m.locals ++ (m.body className).results).map (·.toList) := by
  have signals := h.signals
  obtain rfl := h.ofCall
  let rest := ":" ++ m.name ++ "(" ++ m.method.parameterList ++ ")"
  rw [asyncDefinition, found_methodDefinition isTyped_void cls rest
    (by simp [rest, String.toList_append, toString]), found_append, found_prepare]
  split_ifs at signals with oneWay
  · rw [body, locals, signals]
    simp [found_invoke]
  · obtain ⟨s, hs, carries⟩ := signals
    have items : w ∈ s.arguments.map (fun _ => "item".toList) ↔
        w ∈ (if s.arguments.isEmpty then [] else ["item"]).map (·.toList) := by
      cases s.arguments with
      | nil => rfl
      | cons a as => simp
    have names : w ∈ s.arguments.map (·.name.toList) ↔
        w ∈ (s.arguments.map (·.name)).map (·.toList) := by
      rw [List.map_map]
      rfl
    rw [body, locals, hs]
    simp only [found_invokeLater, found_onReply carries typed, List.map_append, List.mem_append,
      items, names, Option.toList_some, List.flatMap_singleton]
    tauto

end AsyncMethod

namespace CallMethod

variable {call : Call} {m : CallMethod}

theorem found_respond (m : CallMethod) : found declared? (ServerClass.respond m) = [] := by
  have named (rest : String) : found declared? ["response.setName(" ++ rest] = [] :=
    found_of_eq_none (by rw [statement_append (by decide)]; rfl)
  have word : IsWord "response".toList := by decide
  unfold ServerClass.respond
  split
  · rfl
  · rw [found_append, found_writeParts_declared word, List.append_nil]
    split
    · simp only [toString, String.append_assoc]
      exact named _
    · rfl

/-- The call of the operation declares `result`, if anything. -/
theorem Carries.found_implementationCall (h : m.Carries call) (typed : call.IsTyped) :
    found declared? [ServerClass.implementationCall m] ⊆ ["result".toList] := by
  obtain rfl := h.ofCall
  unfold ServerClass.implementationCall
  split
  · next part single =>
    have type : Cpp.IsTyped part.value.text := typed part (by simp [single])
    have word : IsWord "result".toList := by decide
    let names := ", ".intercalate ((m.inputs ++ m.outputs).map (·.name))
    have constant : found declared? [s!"const {part.value.text} result = {m.name}({names});"] =
        ["result".toList] := by
      have whole := found_constant type word s!"{m.name}({names});"
      simp only [toString, String.append_assoc] at whole ⊢
      exact whole
    rw [constant]
    exact List.Subset.refl _
  · let names := ", ".intercalate ((m.inputs ++ m.outputs).map (·.name))
    have none : found declared? [s!"{m.name}({names});"] = [] := by
      refine found_words (isTyped_of_isWord h.word) '(' (by decide) (by decide)
        (names.toList ++ ");".toList) ?_
      simp [String.toList_append, toString]
    rw [none]
    exact List.nil_subset _

/-- A server declares a variable for each parameter of an operation, and its locals. -/
theorem Carries.declared_serverBody (h : m.Carries call) (typed : call.IsTyped) {w : List Char}
    (hw : w ∈ found declared? m.serverBody.text) :
    w ∈ (m.serverBody.locals ++ m.serverBody.results).map (·.toList) := by
  have request : ∀ p ∈ call.request, Cpp.IsTyped p.value.text :=
    fun p hp => typed p (List.mem_append_left _ hp)
  have stored : ∀ p ∈ call.stored, Cpp.IsTyped p.value.text :=
    fun p hp => typed p (List.mem_append_right _ (call.stored_subset hp))
  have read := found_readParts_declared "request" m.call.style (isTyped_held h.inputs request)
  have method : found declared? ["const QString method = request.name();"] = ["method".toList] :=
    found_of_eq_some rfl
  have returned : found declared? ["return;"] = [] := found_of_eq_none rfl
  have called := h.found_implementationCall typed
  rw [serverBody, found_cons, method, ServerClass.dispatch, found_ifThen] at hw
  simp only [found_append, found_declareVariable h.inputs request,
    found_declareVariable h.outputs stored, read, CallMethod.sent, found_respond, returned,
    List.append_nil] at hw
  have own : ∀ l ∈ ServerClass.locals, l.toList ∈
      (m.serverBody.locals ++ m.serverBody.results).map (·.toList) :=
    fun l hl => List.mem_map_of_mem (List.mem_append_left _ hl)
  have parameter : ∀ a ∈ m.inputs ++ m.outputs, a.name.toList ∈
      (m.serverBody.locals ++ m.serverBody.results).map (·.toList) :=
    fun a ha => List.mem_map_of_mem (List.mem_append_right _ (List.mem_map_of_mem ha))
  simp only [List.mem_append, List.mem_singleton, List.mem_map] at hw
  rcases hw with rfl | ((⟨a, ha, rfl⟩ | ⟨_, _, rfl⟩) | ⟨a, ha, rfl⟩) | hw
  · exact own "method" (by decide)
  · exact parameter a (List.mem_append_left _ ha)
  · exact own "item" (by decide)
  · exact parameter a (List.mem_append_right _ ha)
  · rw [List.mem_singleton.mp (called hw)]
    exact own "result" (by decide)

end CallMethod

/-! ## All classes -/

namespace ClassContext

variable {c : ClassContext} {forms : ServiceForms} {s : BoundService}

theorem isTyped_valueType? (named : c.Named) {r : TypeRef} {value : ValueType}
    (h : c.valueType? r = some value) : IsTyped value.text := by
  refine ⟨(isSpelled_valueType? named h).chars, ?_⟩
  cases r with
  | builtin b =>
    cases h
    cases b <;> rfl
  | node id =>
    obtain ⟨name, hname, rfl⟩ := Option.map_eq_some_iff.mp h
    have word := (isTyped_of_isWord (named.classNames id name hname).word).solid
    split
    · exact word
    · exact word
  | unresolved name => cases h

theorem isTyped_call (named : c.Named) (s : BoundService) (op : BoundOperation) :
    (c.call s op).IsTyped := by
  intro p hp
  obtain ⟨r, hvalue⟩ := exists_type_of_part hp
  exact isTyped_valueType? named hvalue

end ClassContext

/-- The text of the body declares nothing but what is listed for it, and all of that where the body
is that of a method. What is listed for a server stands around the body as well. -/
structure MethodBody.Listed (b : MethodBody) : Prop where
  all : ∀ w ∈ found declared? b.text, w ∈ (b.locals ++ b.results).map (·.toList)
  only : b.method.kind ≠ .pureVirtual → ∀ w ∈ (b.locals ++ b.results).map (·.toList),
    w ∈ found declared? b.text

theorem MethodBody.listed_of_iff {b : MethodBody}
    (h : ∀ w, w ∈ found declared? b.text ↔ w ∈ (b.locals ++ b.results).map (·.toList)) :
    b.Listed :=
  ⟨fun w => (h w).mp, fun _ w => (h w).mpr⟩

theorem ClientOperation.Carries.listed {forms : ServiceForms} {call : Call} {o : ClientOperation}
    (h : o.Carries forms call) (typed : call.IsTyped) {className : String}
    (cls : IsWord className.toList) : ∀ b ∈ o.bodies className, b.Listed := by
  intro b hb
  rcases List.mem_append.mp hb with hb | hb
  · obtain ⟨m, hm, rfl⟩ := List.mem_map.mp hb
    have sync := h.sync
    split_ifs at sync
    · obtain ⟨m', hm', carries⟩ := sync
      rw [hm', Option.toList_some, List.mem_singleton] at hm
      obtain rfl := hm
      refine MethodBody.listed_of_iff fun w => ?_
      rw [CallMethod.syncBody, List.append_nil]
      exact carries.declared_syncDefinition typed cls w
    · simp [sync] at hm
  · obtain ⟨m, hm, rfl⟩ := List.mem_map.mp hb
    have async := h.async
    split_ifs at async
    · obtain ⟨m', hm', carries⟩ := async
      rw [hm', Option.toList_some, List.mem_singleton] at hm
      obtain rfl := hm
      exact MethodBody.listed_of_iff fun w => carries.declared_asyncDefinition typed cls w
    · simp [async] at hm

theorem ClassContext.OfService.listed {c : ClassContext} {forms : ServiceForms} {s : BoundService}
    {cls : Class} (h : OfService c forms s cls) (named : c.Named) :
    ∀ b ∈ cls.bodies, b.Listed := by
  intro b hb
  have hcode := named.code s.ns
  cases h with
  | client capital =>
    obtain ⟨operation, hoperation, hb⟩ := List.mem_flatMap.mp hb
    obtain ⟨op, _, scope, rfl⟩ := exists_of_mem_mapM hoperation
    have carries := carries_clientOperation (c := c) hcode forms s op scope
    exact carries.listed (isTyped_call named s op) capital.word b hb
  | job => cases hb
  | server =>
    obtain ⟨operation, hoperation, rfl⟩ := List.mem_map.mp hb
    obtain ⟨op, _, scope, rfl⟩ := exists_of_mem_mapM hoperation
    have word : IsWord (takeName (lowerCamel op.name) (c.code s.ns) scope).1.toList :=
      isWord_takeName hcode
    have carries := carries_callMethod hcode (c.call s op) word op.documentation
    exact ⟨fun w hw => carries.declared_serverBody (isTyped_call named s op) hw,
      fun other => absurd rfl other⟩

/-- A class with bodies is one that a service has. -/
theorem exists_ofService {forms : ServiceForms} {o : OrderedGraph} {services : List BoundService}
    {namespaces : List String} {wishes : NamespaceCodes.Wishes} {c : Class}
    (h : c ∈ classes forms o services (.ofNamespaces namespaces wishes)) {b : MethodBody}
    (hb : b ∈ c.bodies) : ∃ s, ClassContext.OfService
      (contextOf o (.ofNamespaces namespaces wishes)) forms s c := by
  rcases ofType_or_ofService h with ⟨id, htype⟩ | hservice
  · obtain ⟨_, _, _, _, ⟨_, _, _, rfl⟩ | ⟨_, _, _, rfl, _⟩⟩ := ClassContext.typeClass?_cases htype
    · exact absurd hb List.not_mem_nil
    · exact absurd hb List.not_mem_nil
  · exact hservice

/-- What is listed for the methods of all classes is what their text declares. -/
theorem listed_classes {forms : ServiceForms} {o : OrderedGraph} {services : List BoundService}
    {namespaces : List String} {wishes : NamespaceCodes.Wishes} {c : Class}
    (h : c ∈ classes forms o services (.ofNamespaces namespaces wishes)) {b : MethodBody}
    (hb : b ∈ c.bodies) : b.Listed := by
  obtain ⟨s, hservice⟩ := exists_ofService h hb
  exact hservice.listed (named_contextOf o namespaces wishes) b hb

end SoapBindings.Cpp
