import SoapBindings.Cpp.ServiceText
import SoapBindings.Proofs.Cpp.Carrying
import SoapBindings.Proofs.Cpp.Lines

/-!
# What statements do with messages

Definitions are read line by line, whatever level a line stands on (`found`). Two kinds of
statements count: those that put a value into a message, as the message itself or behind its other
children (`puts`), and those that take a value out, from the message itself or from the first child
of a name (`gots`). All other statements are passed over, for what they begin with or for what they
lack (`put?_of_quoteless`, `got?_of_head`).
-/

set_option autoImplicit false

namespace SoapBindings.Cpp

open Text

/-! ## Reading lines -/

/-- The statement on a line. -/
def statement (line : String) : List Char := line.toList.dropWhile (· == ' ')

section

variable {α : Type} {scan : List Char → Option α}

/-- What a scan finds in the statements of some lines. -/
def found (scan : List Char → Option α) (lines : List String) : List α :=
  lines.filterMap fun line => scan (statement line)

@[simp] theorem found_nil : found scan [] = [] := rfl

theorem found_cons (line : String) (lines : List String) :
    found scan (line :: lines) = found scan [line] ++ found scan lines := by
  rw [found, List.filterMap_cons, found, List.filterMap_cons, found]
  cases scan (statement line) with
  | none => rfl
  | some a => rfl

theorem found_append (lines more : List String) :
    found scan (lines ++ more) = found scan lines ++ found scan more :=
  List.filterMap_append

theorem found_flatMap {β : Type} (f : β → List String) (bs : List β) :
    found scan (bs.flatMap f) = bs.flatMap fun b => found scan (f b) := by
  induction bs with
  | nil => rfl
  | cons b bs ih => rw [List.flatMap_cons, found_append, ih, List.flatMap_cons]

theorem found_of_eq_none {line : String} (h : scan (statement line) = none) :
    found scan [line] = [] := by
  simp [found, h]

theorem found_of_eq_some {line : String} {a : α} (h : scan (statement line) = some a) :
    found scan [line] = [a] := by
  simp [found, h]

@[simp] theorem found_indented (lines : List String) :
    found scan (indented lines) = found scan lines := by
  rw [found, found, indented, List.filterMap_map]
  congr 1
  funext line
  simp [statement, String.toList_append, List.dropWhile]

theorem found_block (opening : String) (body : List String) (closing : String) :
    found scan (block opening body closing) =
      found scan [opening] ++ found scan body ++ found scan [closing] := by
  rw [block, List.cons_append, found_cons, found_append, found_indented, List.append_assoc]

/-- The scan finds nothing in braces. -/
structure PassesBraces (scan : List Char → Option α) : Prop where
  opening : scan ['\x7b'] = none
  closing : scan ['\x7d'] = none

theorem PassesBraces.found_braces (passes : PassesBraces scan) (body : List String) :
    found scan (braces body) = found scan body := by
  have opening : found scan ["\x7b"] = [] := found_of_eq_none passes.opening
  have closing : found scan ["\x7d"] = [] := found_of_eq_none passes.closing
  rw [braces, found_block, opening, closing, List.nil_append, List.append_nil]

end

/-- What begins with another character than a blank is a statement as it is. -/
theorem statement_append {opening : String} (solid : opening.toList.head?.any (· != ' '))
    (rest : String) : statement (opening ++ rest) = opening.toList ++ rest.toList := by
  rw [statement, String.toList_append]
  cases hopening : opening.toList with
  | nil => simp [hopening] at solid
  | cons c cs =>
    simp only [hopening, List.head?_cons, Option.any_some] at solid
    exact List.dropWhile_cons_of_neg (by simpa using solid)

theorem not_mem_statement {line : String} {c : Char} (h : c ∉ line.toList) :
    c ∉ statement line :=
  fun hc => h ((List.dropWhile_suffix _).subset hc)

/-! ## Beginnings -/

theorem after?_of_ne {o c : Char} (h : o ≠ c) (opening cs : List Char) :
    after? (o :: opening) (c :: cs) = none := by
  rw [after?, if_neg h]

theorem firstLiteral?_of_quoteless {cs : List Char} (quoteless : '"' ∉ cs) :
    firstLiteral? cs = none := by
  have skipped := firstLiteral?_skip quoteless []
  rwa [List.append_nil] at skipped

theorem bind_firstLiteral?_of_quoteless {cs : List Char} (quoteless : '"' ∉ cs)
    (opening : List Char) : (after? opening cs).bind firstLiteral? = none := by
  cases h : after? opening cs with
  | none => rfl
  | some rest =>
    refine firstLiteral?_of_quoteless fun quote => quoteless ?_
    rw [← append_of_after? h]
    exact List.mem_append_right opening quote

/-! ## Statements that fill a message -/

/-- What is done with a value of a name. -/
inductive Put where
  /-- The value becomes the message. -/
  | whole (name : List Char)
  /-- The value becomes a child, behind those that are there. -/
  | child (name : List Char)
  deriving DecidableEq

/-- What a statement puts into the message in a variable. -/
def put? (message : String) (cs : List Char) : Option Put :=
  (((after? (message ++ " = ").toList cs).bind firstLiteral?).map .whole).or
    (((after? (message ++ ".childValues().append(").toList cs).bind firstLiteral?).map .child)

section

variable {message : String} {cs : List Char}

theorem put?_of_quoteless (quoteless : '"' ∉ cs) : put? message cs = none := by
  rw [put?, bind_firstLiteral?_of_quoteless quoteless, bind_firstLiteral?_of_quoteless quoteless]
  rfl

theorem put?_of_head {m c : Char} (head : message.toList.head? = some m) (h : m ≠ c) :
    put? message (c :: cs) = none := by
  obtain ⟨ms, hmessage⟩ := List.head?_eq_some_iff.mp head
  rw [put?, String.toList_append, String.toList_append, hmessage, List.cons_append,
    List.cons_append, after?_of_ne h, after?_of_ne h]
  rfl

/-- What a statement does with the message is said behind the message. -/
theorem put?_append (rest : List Char) : put? message (message.toList ++ rest) = put? "" rest := by
  rw [put?, put?, String.toList_append, String.toList_append, after?_append_append,
    after?_append_append]
  rfl

theorem put?_whole {value name : List Char} (h : firstLiteral? value = some name) :
    put? "" (" = ".toList ++ value) = some (.whole name) := by
  have opening : ("" ++ " = ").toList = " = ".toList := rfl
  rw [put?, opening, after?_append, Option.bind_some, h]
  rfl

theorem put?_child {value name : List Char} (h : firstLiteral? value = some name) :
    put? "" (".childValues().append(".toList ++ value) = some (.child name) := by
  have opening : ("" ++ ".childValues().append(").toList = ".childValues().append(".toList := rfl
  have other : after? ("" ++ " = ").toList (".childValues().append(".toList ++ value) = none := rfl
  rw [put?, other, opening, after?_append, Option.bind_some, h]
  rfl

end

/-! ## Statements that read a message -/

/-- Where a value is taken from. -/
inductive Got where
  /-- The message is the value. -/
  | whole
  /-- The first child of the name. -/
  | child (name : List Char)
  deriving DecidableEq

/-- What a statement reads `item` from. -/
def itemSource? (cs : List Char) : Option (List Char) :=
  (after? "item.deserialize(".toList cs).or
    ((splitFirst '=' cs).bind fun (before, rest) =>
      if (after? "const ".toList before).isSome ∧
          (after? "item ".toList.reverse before.reverse).isSome then after? [' '] rest
      else none)

/-- What a statement that reads `item` takes out of the message in a variable. -/
def got? (message : String) (cs : List Char) : Option Got :=
  ((itemSource? cs).bind (after? message.toList)).map fun rest =>
    match (after? ".childValues().child(".toList rest).bind firstLiteral? with
    | none => .whole
    | some name => .child name

section

variable {message : String} {cs : List Char}

theorem got?_of_itemSource? (h : itemSource? cs = none) : got? message cs = none := by
  rw [got?, h]
  rfl

/-- Nothing is read by what begins otherwise, whatever follows. -/
theorem itemSource?_of_opening (opening : List Char) (equals : '=' ∉ opening)
    (object : ∀ rest, after? "item.deserialize(".toList (opening ++ rest) = none)
    (value : ∀ rest, after? "const ".toList (opening ++ rest) = none) (rest : List Char) :
    itemSource? (opening ++ rest) = none := by
  have split : splitFirst '=' (opening ++ rest) =
      (splitFirst '=' rest).map fun (before, after) => (opening ++ before, after) := by
    clear object value
    induction opening with
    | nil => simp
    | cons c opening ih =>
      rw [List.mem_cons, not_or] at equals
      have other : (c == '=') = false := beq_eq_false_iff_ne.mpr (Ne.symm equals.1)
      rw [List.cons_append, splitFirst, other, ih equals.2]
      cases splitFirst '=' rest <;> rfl
  rw [itemSource?, object, split, Option.none_or]
  cases splitFirst '=' rest with
  | none => rfl
  | some parts =>
    simp only [Option.map_some, Option.bind_some, value, Option.isSome_none, Bool.false_eq_true,
      false_and, if_false]

theorem itemSource?_of_head {c : Char} (reads : c ∉ ['c', 'i', '=']) (cs : List Char) :
    itemSource? (c :: cs) = none := by
  simp only [List.mem_cons, List.not_mem_nil, or_false, not_or] at reads
  obtain ⟨value, object, equals⟩ := reads
  exact itemSource?_of_opening [c] (by simpa using Ne.symm equals)
    (fun _ => after?_of_ne (Ne.symm object) _ _) (fun _ => after?_of_ne (Ne.symm value) _ _) cs

/-- A constant that is not called `item` is not what is read. -/
theorem itemSource?_of_other {before : List Char} (equals : '=' ∉ before)
    (object : ∀ rest, after? "item.deserialize(".toList (before ++ rest) = none)
    (other : after? "item ".toList.reverse before.reverse = none) (rest : List Char) :
    itemSource? (before ++ '=' :: rest) = none := by
  rw [itemSource?, object, splitFirst_append equals, Option.none_or, Option.bind_some]
  simp only [other, Option.isSome_none, Bool.false_eq_true, and_false, if_false]

theorem itemSource?_of_not_mem {c : Char} (has : c ∈ "item.deserialize(".toList)
    (none : c ∉ cs) (equals : '=' ∉ cs) : itemSource? cs = Option.none := by
  rw [itemSource?, after?_of_not_mem has none, splitFirst_of_not_mem equals]
  rfl

end

theorem passesBraces_got? {message : String} : PassesBraces (got? message) where
  opening := got?_of_itemSource? (itemSource?_of_head (by decide) _)
  closing := got?_of_itemSource? (itemSource?_of_head (by decide) _)

/-! ## Statements that call an operation -/

/-- How statements begin that call the interface. -/
def callOpenings : List String := [
  "clientInterface()->",
  "m_service->clientInterface()->",
  "m_lastReply = clientInterface()->",
  "KDSoapPendingCall pendingCall = clientInterface()->",
  "KDSoapPendingCall pendingCall = m_service->clientInterface()->"]

/-- The name that the interface is called with. -/
def invoked? (cs : List Char) : Option (List Char) :=
  callOpenings.findSome? fun opening => (after? opening.toList cs).bind firstLiteral?

theorem invoked?_of_quoteless {cs : List Char} (quoteless : '"' ∉ cs) : invoked? cs = none := by
  rw [invoked?, List.findSome?_eq_none_iff]
  exact fun opening _ => bind_firstLiteral?_of_quoteless quoteless opening.toList

/-- No opening begins as another does. -/
theorem after?_of_mem_callOpenings {opening other : String} (h : opening ∈ callOpenings)
    (h' : other ∈ callOpenings) (rest : List Char) :
    after? other.toList (opening.toList ++ rest) = if other = opening then some rest else none := by
  simp only [callOpenings, List.mem_cons, List.not_mem_nil, or_false] at h h'
  rcases h with rfl | rfl | rfl | rfl | rfl
  all_goals
    rcases h' with rfl | rfl | rfl | rfl | rfl
    all_goals rfl

theorem invoked?_append {opening : String} (h : opening ∈ callOpenings) {rest name : List Char}
    (first : firstLiteral? rest = some name) :
    invoked? (opening.toList ++ rest) = some name := by
  have each (other : String) (h' : other ∈ callOpenings) :
      (after? other.toList (opening.toList ++ rest)).bind firstLiteral? =
        if other = opening then some name else none := by
    rw [after?_of_mem_callOpenings h h']
    split_ifs
    · exact first
    · rfl
  -- Only the opening itself is found, so the order of the openings does not matter.
  cases found : invoked? (opening.toList ++ rest) with
  | none =>
    have own := List.findSome?_eq_none_iff.mp found opening h
    rw [each opening h, if_pos rfl] at own
    cases own
  | some name' =>
    obtain ⟨other, hother, own⟩ := List.exists_of_findSome?_eq_some found
    rw [each other hother] at own
    split_ifs at own
    exact own.symm

/-! ## Parts -/

/-- The part is the whole message. -/
def IsWhole (style : Wsdl.Style) (parts : List PartValue) : Prop :=
  style = .document ∧ parts.length = 1

instance (style : Wsdl.Style) (parts : List PartValue) : Decidable (IsWhole style parts) :=
  inferInstanceAs (Decidable (_ ∧ _))

/-- What a part that is written there puts into a message. -/
def PartTarget.put (name : String) : PartTarget → Put
  | .message => .whole name.toList
  | .nextChild => .child name.toList

/-- What is taken out of a message from there. -/
def PartSource.got : PartSource → Got
  | .message => .whole
  | .child name => .child name.toList

/-- What writing parts puts into a message. -/
def putsOf (style : Wsdl.Style) (parts : List PartValue) : List Put :=
  parts.map fun part => (partTarget style parts).put part.xml.name

/-- What reading parts takes out of a message. -/
def gotsOf (style : Wsdl.Style) (parts : List PartValue) : List Got :=
  parts.map fun part => (partSource style parts part).got

theorem partTarget_eq (style : Wsdl.Style) (parts : List PartValue) :
    partTarget style parts = if IsWhole style parts then .message else .nextChild := by
  unfold partTarget
  split
  · rfl
  · next other =>
    refine (if_neg fun whole => ?_).symm
    obtain ⟨part, single⟩ := List.length_eq_one_iff.mp whole.2
    exact other part whole.1 single

theorem partSource_eq (style : Wsdl.Style) (parts : List PartValue) (part : PartValue) :
    partSource style parts part =
      if IsWhole style parts then .message else .child part.xml.name := by
  rw [partSource]
  congr 1
  rw [Bool.and_eq_true, beq_iff_eq, beq_iff_eq]
  rfl

section

variable {message : String} (word : IsWord message.toList)

include word

theorem statement_of_isWord (rest : String) :
    statement (message ++ rest) = message.toList ++ rest.toList := by
  obtain ⟨c, cs, hc⟩ := List.exists_cons_of_ne_nil word.nonempty
  have solid : c ≠ ' ' := by
    rintro rfl
    exact absurd (word.chars ' ' (by simp [hc])) (by decide)
  exact statement_append (by simpa [hc] using solid) rest

/-- A statement of the message, by what it does with it. -/
theorem found_put? (rest : String) :
    found (put? message) [message ++ rest] = (put? "" rest.toList).toList := by
  have same : put? message (statement (message ++ rest)) = put? "" rest.toList := by
    rw [statement_of_isWord word, put?_append]
  cases hput : put? "" rest.toList with
  | none => exact found_of_eq_none (same.trans hput)
  | some put => exact found_of_eq_some (same.trans hput)

theorem found_writePart (target : PartTarget) {h : HeldPart} (quoteless : '"' ∉ h.holder.toList) :
    found (put? message) (writePart message target h) = [target.put h.part.xml.name] := by
  have literal (after : List Char) :=
    firstLiteral?_written h.part.value h.part.xml.name quoteless after
  cases target with
  | message =>
    have value (after : String) : found (put? message)
        [message ++ (" = " ++ (h.part.value.written h.part.xml.name h.holder ++ after))] =
          [.whole h.part.xml.name.toList] := by
      rw [found_put? word, String.toList_append, String.toList_append, put?_whole (literal _)]
      rfl
    have qualified : found (put? message) [message ++ ".setQualified(true);"] = [] :=
      found_put? word _
    have ns (rest : String) : found (put? message) [message ++ (".setNamespaceUri(" ++ rest)] = []
        := by
      rw [found_put? word, String.toList_append]
      rfl
    simp only [writePart, toString, String.append_assoc]
    rw [found_append, found_cons, value, qualified]
    cases h.part.xml.ns with
    | none => rfl
    | some name => exact congrArg _ (ns _)
  | nextChild =>
    simp only [writePart, toString, String.append_assoc]
    rw [found_put? word, String.toList_append, String.toList_append, put?_child (literal _)]
    rfl

/-- What writing parts puts into the message is one value for each part, in their order. -/
theorem found_writeParts {call : Call} {hs : List HeldPart}
    (quoteless : ∀ h ∈ hs, '"' ∉ h.holder.toList) :
    found (put? message) (writeParts message call hs) = putsOf call.style (hs.map (·.part)) := by
  have encoded : found (put? message) [message ++ ".setUse(KDSoapMessage::EncodedUse);"] = [] :=
    found_put? word _
  have use : found (put? message)
      (if call.encoded then [s!"{message}.setUse(KDSoapMessage::EncodedUse);"] else []) = [] := by
    split
    · exact encoded
    · rfl
  have each (h : HeldPart) (hh : h ∈ hs) := found_writePart word
    (partTarget call.style (hs.map (·.part))) (quoteless h hh)
  rw [writeParts, found_append, use, List.append_nil, found_flatMap, List.flatMap_congr each,
    putsOf, List.map_map]
  exact List.map_eq_flatMap.symm

end

/-- A constant that is called `item` is what is read. -/
theorem itemSource?_constant {type : List Char} (equals : '=' ∉ type) (source : List Char) :
    itemSource? ("const ".toList ++ (type ++ (" item = ".toList ++ source))) = some source := by
  have object : after? "item.deserialize(".toList
      ("const ".toList ++ (type ++ (" item = ".toList ++ source))) = none := rfl
  have whole : "const ".toList ++ (type ++ (" item = ".toList ++ source)) =
      ("const ".toList ++ (type ++ " item ".toList)) ++ '=' :: (' ' :: source) := by
    simp [List.append_assoc]
  have before : '=' ∉ "const ".toList ++ (type ++ " item ".toList) := by
    simp only [List.mem_append, not_or]
    exact ⟨by decide, equals, by decide⟩
  rw [itemSource?, object, Option.none_or, whole, splitFirst_append before, Option.bind_some]
  simp [after?]

theorem itemSource?_object (source : List Char) :
    itemSource? ("item.deserialize(".toList ++ source) = some source := by
  rw [itemSource?, after?_append, Option.some_or]

/-- What is read where a source stands. -/
theorem got?_text {message : String} {cs : List Char} {source : PartSource} (after : List Char)
    (h : itemSource? cs = some ((source.text message).toList ++ after))
    (ends : after? ".childValues().child(".toList after = none)
    (plain : ∀ name, source = .child name → IsPlain name) :
    got? message cs = some source.got := by
  rw [got?, h, Option.bind_some]
  cases source with
  | message =>
    rw [PartSource.text, after?_append, Option.map_some, ends]
    rfl
  | child name =>
    simp only [PartSource.text, toString, String.toList_append, List.append_assoc]
    rw [after?_append, Option.map_some, after?_append, Option.bind_some,
      firstLiteral?_comparedName (plain name rfl)]
    rfl

/-- Storing what was read reads nothing. -/
theorem itemSource?_store {holder : String} (word : IsWord holder.toList) :
    itemSource? (statement s!"{holder} = item;") = none := by
  have line : statement s!"{holder} = item;" =
      (holder.toList ++ [' ']) ++ '=' :: " item;".toList := by
    simp only [toString]
    rw [statement_of_isWord word]
    simp
  have solid : ' ' ∉ holder.toList := word.not_mem (by decide)
  have object : after? "item.deserialize(".toList
      ((holder.toList ++ [' ']) ++ '=' :: " item;".toList) = none := by
    have dot : '.' ∉ holder.toList := word.not_mem (by decide)
    refine after?_of_not_mem (c := '.') (by decide) ?_
    simp [dot]
  have equals : '=' ∉ holder.toList ++ [' '] := by
    have equals : '=' ∉ holder.toList := word.not_mem (by decide)
    simp [equals]
  rw [line, itemSource?, object, splitFirst_append equals, Option.none_or, Option.bind_some]
  refine if_neg fun ⟨value, called⟩ => ?_
  -- The only blank is the last character, so a constant would be called `const`.
  obtain ⟨rest, hrest⟩ := Option.isSome_iff_exists.mp value
  have whole : "const ".toList ++ rest = holder.toList ++ ' ' :: [] := append_of_after? hrest
  have first : splitFirst ' ' ("const".toList ++ ' ' :: rest) = some ("const".toList, rest) :=
    splitFirst_append (by decide) rest
  rw [show "const".toList ++ ' ' :: rest = "const ".toList ++ rest from rfl, whole,
    splitFirst_append solid] at first
  obtain ⟨same, -⟩ := Prod.mk.inj (Option.some.inj first)
  rw [same] at called
  exact absurd called (by decide)

/-- The type of the part is spelled with words, and its name can stand in a literal. -/
structure PartValue.IsPlain (p : PartValue) : Prop where
  type : IsSpelled p.value.text
  name : Cpp.IsPlain p.xml.name

/-- A plain part, held by what is called by a word. -/
structure HeldPart.IsPlain (h : HeldPart) : Prop where
  holder : IsWord h.holder.toList
  part : h.part.IsPlain

theorem IsSpelled.not_mem {type : String} (h : IsSpelled type) {c : Char} (other : ¬ IsTypeChar c) :
    c ∉ type.toList :=
  fun hc => other (h.chars c hc)

theorem found_readItem {message : String} {v : ValueType} (spelled : IsSpelled v.text)
    {source : PartSource} (plain : ∀ name, source = .child name → IsPlain name) :
    found (got? message) (v.readItem (source.text message)) = [source.got] := by
  have constant (type after : String) (equals : '=' ∉ type.toList)
      (ends : after? ".childValues().child(".toList after.toList = none) :
      found (got? message) ["const " ++ (type ++ (" item = " ++ (source.text message ++ after)))] =
        [source.got] := by
    refine found_of_eq_some (got?_text after.toList ?_ ends plain)
    rw [statement_append (by decide), String.toList_append, String.toList_append,
      itemSource?_constant equals, String.toList_append]
  have object : found (got? message)
      ["item.deserialize(" ++ (source.text message ++ ");")] = [source.got] := by
    refine found_of_eq_some (got?_text ");".toList ?_ rfl plain)
    rw [statement_append (by decide), itemSource?_object, String.toList_append]
  have declared : found (got? message) [v.text ++ " item;"] = [] := by
    refine found_of_eq_none (got?_of_itemSource? (itemSource?_of_not_mem (c := '.') (by decide)
      (not_mem_statement ?_) (not_mem_statement ?_)))
    · simp [String.toList_append, spelled.not_mem (c := '.') (by decide)]
    · simp [String.toList_append, spelled.not_mem (c := '=') (by decide)]
  unfold ValueType.readItem
  simp only [toString, String.append_assoc]
  split
  · exact constant "KDSoapValue" ";" (by decide) rfl
  · refine constant _ _ (spelled.not_mem (by decide)) ?_
    rw [String.toList_append]
    rfl
  · rw [found_cons, declared, object]
    rfl
  · rw [found_cons, declared, object]
    rfl

theorem found_readPart (message : String) (style : Wsdl.Style) (parts : List PartValue)
    {h : HeldPart} (plain : h.IsPlain) :
    found (got? message) (readPart message style parts h) =
      [(partSource style parts h.part).got] := by
  have stored : found (got? message) [s!"{h.holder} = item;"] = [] :=
    found_of_eq_none (got?_of_itemSource? (itemSource?_store plain.holder))
  have read : found (got? message)
      (h.part.value.readItem ((partSource style parts h.part).text message)) =
        [(partSource style parts h.part).got] := by
    refine found_readItem plain.part.type fun name hname => ?_
    rw [partSource_eq] at hname
    split_ifs at hname
    obtain rfl := PartSource.child.inj hname
    exact plain.part.name
  rw [readPart, passesBraces_got?.found_braces, found_append, read, stored, List.append_nil]

/-- What reading parts takes out of the message is one value for each part, in their order. -/
theorem found_readParts {message : String} (style : Wsdl.Style) {hs : List HeldPart}
    (plain : ∀ h ∈ hs, h.IsPlain) :
    found (got? message) (readParts message style hs) = gotsOf style (hs.map (·.part)) := by
  have each (h : HeldPart) (hh : h ∈ hs) :=
    found_readPart message style (hs.map (·.part)) (plain h hh)
  rw [readParts, found_flatMap, List.flatMap_congr each, gotsOf, List.map_map]
  exact List.map_eq_flatMap.symm

/-! ## Parts for other scans -/

section

variable {α : Type} {scan : List Char → Option α}

/-- A scan that finds nothing in assignments to the message and in calls of its methods finds
nothing where it is filled. -/
theorem found_writeParts_eq_nil {message : String} (word : IsWord message.toList)
    (assignment : ∀ cs, scan (message.toList ++ ' ' :: '=' :: cs) = none)
    (invocation : ∀ cs, scan (message.toList ++ '.' :: cs) = none) (call : Call)
    (hs : List HeldPart) : found scan (writeParts message call hs) = [] := by
  have assigned (rest : String) : found scan [message ++ (" = " ++ rest)] = [] := by
    refine found_of_eq_none ?_
    rw [statement_of_isWord word, String.toList_append]
    exact assignment _
  have invoked (opening : String) (dot : opening.toList.head? = some '.') (rest : String) :
      found scan [message ++ (opening ++ rest)] = [] := by
    refine found_of_eq_none ?_
    obtain ⟨cs, hcs⟩ := List.head?_eq_some_iff.mp dot
    rw [statement_of_isWord word, String.toList_append, hcs]
    exact invocation _
  have single (opening : String) (dot : opening.toList.head? = some '.') :
      found scan [message ++ opening] = [] := by
    rw [← String.append_empty (s := opening)]
    exact invoked opening dot ""
  have each (h : HeldPart) (target : PartTarget) :
      found scan (writePart message target h) = [] := by
    cases target with
    | message =>
      simp only [writePart, toString, String.append_assoc]
      rw [found_append, found_cons, assigned, single _ rfl]
      cases h.part.xml.ns with
      | none => rfl
      | some ns => exact invoked _ rfl _
    | nextChild =>
      simp only [writePart, toString, String.append_assoc]
      exact invoked _ rfl _
  rw [writeParts, found_append, found_flatMap, List.flatMap_congr fun h _ => each h _,
    List.flatMap_eq_nil_iff.mpr fun _ _ => rfl]
  split
  · exact single _ rfl
  · rfl

/-- The scan finds nothing where values are read. -/
structure PassesReading (scan : List Char → Option α) : Prop where
  quoteless : ∀ cs, '"' ∉ cs → scan cs = none
  constant : ∀ cs, scan ("const ".toList ++ cs) = none
  object : ∀ cs, scan ("item.deserialize(".toList ++ cs) = none

namespace PassesReading

variable (passes : PassesReading scan)

include passes

theorem passesBraces : PassesBraces scan where
  opening := passes.quoteless _ (by decide)
  closing := passes.quoteless _ (by decide)

theorem found_readItem {v : ValueType} (spelled : IsSpelled v.text) (source : String) :
    found scan (v.readItem source) = [] := by
  have quotes : '"' ∉ v.text.toList := spelled.not_mem (by decide)
  have declared : found scan [v.text ++ " item;"] = [] :=
    found_of_eq_none (passes.quoteless _ (not_mem_statement (by
      simp [String.toList_append, quotes])))
  have constant (rest : String) : found scan ["const " ++ rest] = [] :=
    found_of_eq_none (by rw [statement_append (by decide), passes.constant])
  have value (rest : String) : found scan ["const KDSoapValue item = " ++ rest] = [] := by
    refine found_of_eq_none ?_
    rw [statement_append (by decide)]
    exact passes.constant ("KDSoapValue item = ".toList ++ rest.toList)
  have object (rest : String) : found scan ["item.deserialize(" ++ rest] = [] :=
    found_of_eq_none (by rw [statement_append (by decide), passes.object])
  unfold ValueType.readItem
  simp only [toString, String.append_assoc]
  split
  · exact value _
  · exact constant _
  · rw [found_cons, declared, object]
    rfl
  · rw [found_cons, declared, object]
    rfl

theorem found_readParts (message : String) (style : Wsdl.Style) {hs : List HeldPart}
    (plain : ∀ h ∈ hs, h.IsPlain) : found scan (readParts message style hs) = [] := by
  have each (h : HeldPart) (hh : h ∈ hs) :
      found scan (readPart message style (hs.map (·.part)) h) = [] := by
    have quotes : '"' ∉ h.holder.toList := (plain h hh).holder.not_mem (by decide)
    have stored : found scan [h.holder ++ " = item;"] = [] :=
      found_of_eq_none (passes.quoteless _ (not_mem_statement (by
        simp [String.toList_append, quotes])))
    rw [readPart, passes.passesBraces.found_braces, found_append,
      passes.found_readItem (plain h hh).part.type, List.nil_append]
    exact stored
  rw [readParts, found_flatMap, List.flatMap_congr each]
  exact List.flatMap_eq_nil_iff.mpr fun _ _ => rfl

end PassesReading

theorem passesReading_invoked? : PassesReading invoked? :=
  ⟨fun _ => invoked?_of_quoteless, fun _ => rfl, fun _ => rfl⟩

end

end SoapBindings.Cpp
