import Mathlib.Data.List.Basic
import SoapBindings.Cpp.ServiceText
import SoapBindings.Text.Digits

/-!
# What a compiler makes of a literal

A compiler reads the bytes of a file. To it a literal is bytes as well: those that its characters
have in the file, and those that escape sequences stand for (`body?`). At run time each byte is
taken for a character of its own (`latin1`). A text goes through all of this unchanged exactly where
it is free of carriage returns, which are left in the literal and end its line, and of characters
past the first 128, which have several bytes in the file (`denotesItself_iff`).

A name is sent in such a literal. Where a name is asked for, be it that of a member, of a part or of
a request, it stands in its literal as it is. The two literals have the same bytes exactly where
nothing in the name needs to be escaped (`agrees_iff`). One direction is about lengths: every
character of a name has at least one byte, and an escape sequence stands for fewer bytes than it has
characters (`body?_cases`), so a name in which a compiler finds one is not read as itself.
-/

set_option autoImplicit false

namespace SoapBindings.Cpp

open Text

/-! ## Escape sequences -/

/-- The letters behind a backslash, and the bytes that they stand for. -/
def letterEscapes : List (Char × UInt8) := [
  ('"', 0x22), ('\x27', 0x27), ('?', 0x3F), ('\\', 0x5C), ('a', 0x07), ('b', 0x08), ('t', 0x09),
  ('n', 0x0A), ('v', 0x0B), ('f', 0x0C), ('r', 0x0D)]

/-- The digits that a text begins with. -/
def leadingDigits (base : Nat) (cs : List Char) : List Char :=
  cs.takeWhile fun c => (digitValue? base c).isSome

/-- The byte of a number that is none too large. -/
def byte? (base : Nat) (digits : List Char) : Option UInt8 :=
  ((number? base digits).filter (· < 256)).map UInt8.ofNat

/-- The bytes of the character whose number takes as many digits. -/
def universal? (digits : Nat) (cs : List Char) : Option (List UInt8) :=
  let written := leadingDigits 16 (cs.take digits)
  let number := (number? 16 written).filter fun n => n.isValidChar && written.length == digits
  number.map fun n => String.utf8EncodeChar (Char.ofNat n)

/-- What an escape sequence stands for, and how many characters it has behind its backslash. -/
def escape? : List Char → Option (List UInt8 × Nat)
  | [] => none
  | c :: cs =>
    match letterEscapes.lookup c with
    | some byte => some ([byte], 1)
    | none =>
      let octal := leadingDigits 8 ((c :: cs).take 3)
      let hexadecimal := leadingDigits 16 cs
      if c = 'x' then (byte? 16 hexadecimal).map fun byte => ([byte], hexadecimal.length + 1)
      else if c = 'u' then (universal? 4 cs).map fun bytes => (bytes, 5)
      else if c = 'U' then (universal? 8 cs).map fun bytes => (bytes, 9)
      else (byte? 8 octal).map fun byte => ([byte], octal.length)

example : escape? "351 m".toList = some ([0xE9], 3) := by decide

/-! ## Literals -/

/-- The bytes of a literal from behind its opening quote, and what stands behind its closing one. A
literal ends on the line that it begins on. -/
def body? : List Char → Option (List UInt8 × List Char)
  | [] => none
  | c :: cs =>
    if c = '"' then some ([], cs)
    else if c = '\n' ∨ c = '\r' then none
    else if c = '\\' then
      (escape? cs).bind fun (bytes, n) =>
        (body? (cs.drop n)).map fun (more, rest) => (bytes ++ more, rest)
    else (body? cs).map fun (more, rest) => (String.utf8EncodeChar c ++ more, rest)
termination_by cs => cs.length
decreasing_by
  all_goals
    simp only [List.length_cons, List.length_drop]
    omega

/-- The bytes of a text that is one literal. -/
def literalBytes? : List Char → Option (List UInt8)
  | [] => none
  | c :: cs =>
    match body? cs with
    | some (bytes, []) => if c = '"' then some bytes else none
    | _ => none

/-- Between the two other texts there is one literal, and it has these bytes. -/
def HasLiteral (text before after : String) (bytes : List UInt8) : Prop :=
  ∃ literal, text = before ++ literal ++ after ∧ literalBytes? literal.toList = some bytes

/-- The bytes that a text has in a file. -/
def utf8 (text : List Char) : List UInt8 := text.flatMap String.utf8EncodeChar

/-- The text of bytes that are each taken for a character. -/
def latin1 (bytes : List UInt8) : List Char := bytes.map fun byte => Char.ofNat byte.toNat

theorem hasLiteral_iff {before literal after : String} {bytes : List UInt8} :
    HasLiteral (before ++ literal ++ after) before after bytes ↔
      literalBytes? literal.toList = some bytes := by
  refine ⟨fun ⟨found, same, h⟩ => ?_, fun h => ⟨literal, rfl, h⟩⟩
  obtain rfl : literal = found := by
    simpa [← String.toList_inj, String.toList_append] using same
  exact h

/-- The character stands for itself in a literal. -/
def IsVerbatim (c : Char) : Prop := c ≠ '"' ∧ c ≠ '\\' ∧ c ≠ '\n' ∧ c ≠ '\r'

theorem body?_quote (rest : List Char) : body? ('"' :: rest) = some ([], rest) := by
  rw [body?, if_pos rfl]

theorem body?_return (cs : List Char) : body? ('\r' :: cs) = none := by
  rw [body?, if_neg (by decide), if_pos (Or.inr rfl)]

theorem body?_verbatim {c : Char} (h : IsVerbatim c) (cs : List Char) :
    body? (c :: cs) =
      (body? cs).map fun (more, rest) => (String.utf8EncodeChar c ++ more, rest) := by
  obtain ⟨quote, backslash, lineFeed, carriageReturn⟩ := h
  rw [body?, if_neg quote, if_neg (not_or.mpr ⟨lineFeed, carriageReturn⟩), if_neg backslash]

/-! ## Texts that are escaped -/

theorem body?_escapeChar {c : Char} (h : c ≠ '\r') (cs : List Char) :
    body? (escapeChar c ++ cs) =
      (body? cs).map fun (more, rest) => (String.utf8EncodeChar c ++ more, rest) := by
  have escaped {letter : Char} {byte : UInt8} (known : letterEscapes.lookup letter = some byte) :
      body? ('\\' :: letter :: cs) =
        (body? cs).map fun (more, rest) => ([byte] ++ more, rest) := by
    rw [body?, if_neg (by decide), if_neg (by decide), if_pos rfl, escape?, known]
    rfl
  unfold escapeChar
  split
  · exact escaped rfl
  · exact escaped rfl
  · exact escaped rfl
  · next quote backslash lineFeed => exact body?_verbatim ⟨quote, backslash, lineFeed, h⟩ cs

theorem body?_escaped (text rest : List Char) :
    body? (text.flatMap escapeChar ++ '"' :: rest) =
      if '\r' ∈ text then none else some (utf8 text, rest) := by
  induction text with
  | nil => exact body?_quote rest
  | cons c text ih =>
    rw [List.flatMap_cons, List.append_assoc]
    -- The one character that is neither escaped nor left as it is by a compiler.
    by_cases carriageReturn : c = '\r'
    · rw [carriageReturn, if_pos List.mem_cons_self]
      exact body?_return _
    · rw [body?_escapeChar carriageReturn, ih]
      by_cases later : '\r' ∈ text
      · simp [later]
      · simp [later, Ne.symm carriageReturn, utf8]

theorem literalBytes?_literal (text : String) :
    literalBytes? (literal text).toList =
      if '\r' ∈ text.toList then none else some (utf8 text.toList) := by
  have shape : (literal text).toList = '"' :: (text.toList.flatMap escapeChar ++ ['"']) := by
    simp [literal, String.toList_append]
  rw [shape, literalBytes?, body?_escaped]
  by_cases carriageReturn : '\r' ∈ text.toList
  · rw [if_pos carriageReturn, if_pos carriageReturn]
  · rw [if_neg carriageReturn, if_neg carriageReturn]
    exact if_pos rfl

theorem hasLiteral_stringOf_iff {text : String} {bytes : List UInt8} :
    HasLiteral (stringOf text) "QString::fromLatin1(" ")" bytes ↔
      '\r' ∉ text.toList ∧ bytes = utf8 text.toList := by
  have between : HasLiteral (stringOf text) "QString::fromLatin1(" ")" bytes ↔ _ := hasLiteral_iff
  rw [between, literalBytes?_literal]
  by_cases carriageReturn : '\r' ∈ text.toList
  · simp [carriageReturn]
  · simp [carriageReturn, eq_comm]

/-! ## What is left of a text -/

theorem utf8Size_eq_one_iff {c : Char} : c.utf8Size = 1 ↔ c.toNat < 128 := by
  rw [Char.utf8Size_eq_one_iff, UInt32.le_iff_toNat_le]
  exact Nat.lt_succ_iff.symm

theorem length_utf8_cons (c : Char) (text : List Char) :
    (utf8 (c :: text)).length = c.utf8Size + (utf8 text).length := by
  rw [utf8, List.flatMap_cons, List.length_append, String.length_utf8EncodeChar]
  rfl

theorem length_le_length_utf8 (text : List Char) : text.length ≤ (utf8 text).length := by
  induction text with
  | nil => exact Nat.le_refl 0
  | cons c text ih =>
    have positive := c.utf8Size_pos
    rw [length_utf8_cons, List.length_cons]
    omega

theorem length_utf8_eq_iff {text : List Char} :
    (utf8 text).length = text.length ↔ ∀ c ∈ text, c.toNat < 128 := by
  induction text with
  | nil => simp [utf8]
  | cons c text ih =>
    have positive := c.utf8Size_pos
    have longer := length_le_length_utf8 text
    rw [List.forall_mem_cons, ← ih, ← utf8Size_eq_one_iff, length_utf8_cons, List.length_cons]
    omega

theorem latin1_utf8 {text : List Char} (ascii : ∀ c ∈ text, c.toNat < 128) :
    latin1 (utf8 text) = text := by
  induction text with
  | nil => rfl
  | cons c text ih =>
    obtain ⟨small, others⟩ := List.forall_mem_cons.mp ascii
    have byte : latin1 (String.utf8EncodeChar c) = [c] := by
      have whole : c.toNat % 256 = c.toNat := Nat.mod_eq_of_lt (Nat.lt_trans small (by decide))
      rw [String.utf8EncodeChar_eq_singleton (utf8Size_eq_one_iff.mpr small)]
      show [Char.ofNat (c.toNat % 256)] = [c]
      rw [whole, Char.ofNat_toNat]
    rw [utf8, List.flatMap_cons, latin1, List.map_append, ← latin1, byte]
    exact congrArg (c :: ·) (ih others)

/-- A text is left as it is where each of its characters is one byte. -/
theorem latin1_utf8_iff {text : List Char} :
    latin1 (utf8 text) = text ↔ ∀ c ∈ text, c.toNat < 128 := by
  refine ⟨fun same => ?_, latin1_utf8⟩
  -- Bytes and characters are as many on the left, so no character can have had a second byte.
  rw [← length_utf8_eq_iff, ← List.length_map, ← latin1, same]

/-- The expression of a text is one literal, and at run time it is the text. -/
def DenotesItself (text : String) : Prop :=
  ∃ bytes, HasLiteral (stringOf text) "QString::fromLatin1(" ")" bytes ∧ latin1 bytes = text.toList

/-- The expression of a text has one literal if there is no carriage return in the text, and stands
for the text if all characters are among the first 128 as well. -/
theorem denotesItself_iff (text : String) :
    ((∃ bytes, HasLiteral (stringOf text) "QString::fromLatin1(" ")" bytes) ↔
        '\r' ∉ text.toList) ∧
      (DenotesItself text ↔ ∀ c ∈ text.toList, c.toNat < 128 ∧ c ≠ '\r') := by
  simp only [DenotesItself, hasLiteral_stringOf_iff]
  constructor
  · exact ⟨fun ⟨_, absent, _⟩ => absent, fun absent => ⟨_, absent, rfl⟩⟩
  · constructor
    · rintro ⟨_, ⟨absent, rfl⟩, same⟩ c hc
      exact ⟨latin1_utf8_iff.mp same c hc, ne_of_mem_of_not_mem hc absent⟩
    · intro each
      have absent : '\r' ∉ text.toList := fun present => (each _ present).2 rfl
      exact ⟨_, ⟨absent, rfl⟩, latin1_utf8 fun c hc => (each c hc).1⟩

/-- The two bytes of an accented letter are taken for two characters. -/
theorem not_denotesItself_accented : ¬ DenotesItself "é" := by
  rintro ⟨bytes, written, same⟩
  obtain ⟨_, rfl⟩ := hasLiteral_stringOf_iff.mp written
  exact absurd (latin1_utf8_iff.mp same 'é' (by simp)) (by decide)

/-! ## Texts that are not escaped -/

theorem length_leadingDigits (base : Nat) (cs : List Char) :
    (leadingDigits base cs).length ≤ cs.length := (List.takeWhile_sublist _).length_le

theorem length_byte? {base : Nat} {digits : List Char} {byte : UInt8}
    (h : byte? base digits = some byte) : 1 ≤ digits.length := by
  cases digits with
  | nil => simp [byte?, number?] at h
  | cons d ds => exact Nat.succ_pos _

theorem length_universal? {digits : Nat} {cs : List Char} {bytes : List UInt8}
    (h : universal? digits cs = some bytes) : bytes.length ≤ 4 ∧ digits ≤ cs.length := by
  obtain ⟨n, hn, rfl⟩ := Option.map_eq_some_iff.mp h
  obtain ⟨_, valid⟩ := Option.filter_eq_some_iff.mp hn
  rw [Bool.and_eq_true, beq_iff_eq] at valid
  rw [String.length_utf8EncodeChar]
  refine ⟨Char.utf8Size_le_four _, ?_⟩
  calc digits = (leadingDigits 16 (cs.take digits)).length := valid.2.symm
    _ ≤ (cs.take digits).length := length_leadingDigits _ _
    _ ≤ cs.length := (List.take_sublist _ _).length_le

/-- An escape sequence stands for no more bytes than it has characters behind its backslash. -/
theorem length_escape? {cs : List Char} {bytes : List UInt8} {n : Nat}
    (h : escape? cs = some (bytes, n)) : bytes.length ≤ n ∧ n ≤ cs.length := by
  cases cs with
  | nil => simp [escape?] at h
  | cons c cs =>
    have octal : (leadingDigits 8 ((c :: cs).take 3)).length ≤ (c :: cs).length :=
      Nat.le_trans (length_leadingDigits _ _) (List.take_sublist _ _).length_le
    have hexadecimal := length_leadingDigits 16 cs
    rw [List.length_cons] at octal ⊢
    simp only [escape?] at h
    split at h
    · obtain ⟨rfl, rfl⟩ := Prod.mk.inj (Option.some.inj h)
      exact ⟨Nat.le_refl 1, by omega⟩
    · split_ifs at h
      all_goals obtain ⟨found, hfound, same⟩ := Option.map_eq_some_iff.mp h
      all_goals obtain ⟨rfl, rfl⟩ := Prod.mk.inj same
      · exact ⟨Nat.le_add_left _ _, by omega⟩
      · have := length_universal? hfound
        omega
      · have := length_universal? hfound
        omega
      · exact ⟨length_byte? hfound, octal⟩

/-- A literal that is not its own characters is longer than its bytes. -/
theorem body?_cases {cs rest : List Char} {bytes : List UInt8} (h : body? cs = some (bytes, rest)) :
    ∃ body, cs = body ++ '"' :: rest ∧
      (bytes = utf8 body ∧ (∀ c ∈ body, IsVerbatim c) ∨ bytes.length < (utf8 body).length) := by
  fun_induction body? cs generalizing bytes with
  | case1 => exact nomatch h
  | case2 cs =>
    obtain ⟨rfl, rfl⟩ := Prod.mk.inj (Option.some.inj h)
    exact ⟨[], rfl, .inl ⟨rfl, by simp⟩⟩
  | case3 => exact nomatch h
  | case4 cs _ _ ih =>
    obtain ⟨⟨first, n⟩, escape, h⟩ := Option.bind_eq_some_iff.mp h
    obtain ⟨⟨more, _⟩, read, same⟩ := Option.map_eq_some_iff.mp h
    obtain ⟨rfl, rfl⟩ := Prod.mk.inj same
    obtain ⟨few, whole⟩ := length_escape? escape
    obtain ⟨body, split, bytes⟩ := ih n read
    refine ⟨'\\' :: (cs.take n ++ body), ?_, .inr ?_⟩
    · rw [List.cons_append, List.append_assoc, ← split, List.take_append_drop]
    · -- The sequence has a character for each of its bytes, and the backslash comes on top.
      have taken : n ≤ (utf8 (cs.take n)).length := by
        have := length_le_length_utf8 (cs.take n)
        rwa [List.length_take_of_le whole] at this
      have behind : more.length ≤ (utf8 body).length := by
        rcases bytes with ⟨rfl, _⟩ | shorter
        · exact Nat.le_refl _
        · exact Nat.le_of_lt shorter
      have positive := Char.utf8Size_pos '\\'
      rw [length_utf8_cons, utf8, List.flatMap_append, List.length_append, ← utf8, ← utf8,
        List.length_append]
      omega
  | case5 c cs quote newline backslash ih =>
    obtain ⟨⟨more, _⟩, read, same⟩ := Option.map_eq_some_iff.mp h
    obtain ⟨rfl, rfl⟩ := Prod.mk.inj same
    obtain ⟨body, rfl, bytes⟩ := ih read
    refine ⟨c :: body, rfl, ?_⟩
    rcases bytes with ⟨rfl, verbatim⟩ | shorter
    · have first : IsVerbatim c := ⟨quote, backslash, not_or.mp newline⟩
      exact .inl ⟨rfl, List.forall_mem_cons.mpr ⟨first, verbatim⟩⟩
    · refine .inr ?_
      rw [length_utf8_cons, List.length_append, String.length_utf8EncodeChar]
      omega

theorem body?_of_verbatim {body : List Char} (h : ∀ c ∈ body, IsVerbatim c) (rest : List Char) :
    body? (body ++ '"' :: rest) = some (utf8 body, rest) := by
  induction body with
  | nil => exact body?_quote rest
  | cons c body ih =>
    obtain ⟨first, others⟩ := List.forall_mem_cons.mp h
    rw [List.cons_append, body?_verbatim first, ih others]
    rfl

theorem literalBytes?_quoted_iff {name : List Char} :
    literalBytes? ('"' :: (name ++ ['"'])) = some (utf8 name) ↔ ∀ c ∈ name, IsVerbatim c := by
  constructor
  · intro h
    rw [literalBytes?] at h
    split at h
    case h_1 bytes read =>
      obtain rfl : bytes = utf8 name := by simpa using h
      obtain ⟨body, split, bytes⟩ := body?_cases read
      obtain rfl := List.append_cancel_right split
      exact bytes.elim And.right fun shorter => absurd shorter (Nat.lt_irrefl _)
    case h_2 => exact nomatch h
  · intro verbatim
    rw [literalBytes?, body?_of_verbatim verbatim]
    exact if_pos rfl

/-! ## Where names are asked for -/

/-- A place where generated code asks for a name, and what is sent there under that name. -/
inductive NameSite where
  /-- A value of a member, which a branch is for. -/
  | member (style : OptionalStyle) (m : Member) (expression : String)
  /-- A part among the children of a message. -/
  | part (message : String) (p : PartValue) (expression : String)
  /-- A request, which a server has a branch for. Its name is that of its only part, or else the one
  that the client calls. -/
  | request (m : CallMethod) (expression client function : String)

namespace NameSite

def name : NameSite → String
  | .member _ m _ => m.xml.name
  | .part _ p _ => p.xml.name
  | .request m _ _ _ => ServerClass.dispatchName m.call

/-- The text that asks for the name. -/
def asked : NameSite → String
  | .member style m _ => (m.readBranch style).1
  | .part message p _ => (PartSource.child p.xml.name).text message
  | .request m _ _ _ => (ServerClass.dispatch m).headD ""

/-- The text that sends the name. -/
def sent : NameSite → String
  | .member _ m expression => m.value.written m.xml.name expression
  | .part _ p expression => p.value.written p.xml.name expression
  | .request m expression client function =>
    match m.call.style, m.call.request with
    | .document, [p] => p.value.written p.xml.name expression
    | _, _ => m.call.invoke client function

/-- What stands before the name that is asked for. -/
def before : NameSite → String
  | .member _ _ _ => "name == "
  | .part message _ _ => message ++ ".childValues().child("
  | .request _ _ _ _ => "if (" ++ "method == "

def after : NameSite → String
  | .member _ _ _ => ""
  | .part _ _ _ => ")"
  | .request _ _ _ _ => ") \x7b"

/-- The name is sent in a literal of these bytes, and asked for in one of the same bytes. -/
structure AgreesOn (s : NameSite) (bytes : List UInt8) : Prop where
  asked : HasLiteral s.asked (s.before ++ "QLatin1String(") (")" ++ s.after) bytes
  sent : (stringOf s.name).toList <:+: s.sent.toList
  literal : HasLiteral (stringOf s.name) "QString::fromLatin1(" ")" bytes

def Agrees (s : NameSite) : Prop := ∃ bytes, s.AgreesOn bytes

theorem comparedName_eq (name : String) :
    comparedName name = "QLatin1String(" ++ ("\"" ++ name ++ "\"") ++ ")" := by
  have opening : "QLatin1String(\"" = "QLatin1String(" ++ "\"" := by decide
  have closing : "\")" = "\"" ++ ")" := by decide
  -- By `show`, since the equation of the definition compares long literals letter by letter.
  show "QLatin1String(\"" ++ name ++ "\")" = _
  simp only [opening, closing, String.append_assoc]

theorem asked_eq (s : NameSite) : s.asked = s.before ++ comparedName s.name ++ s.after := by
  cases s with
  | member style m expression => exact (String.append_empty ..).symm
  | part message p expression => rfl
  | request m expression client function =>
    show "if (" ++ ("method == " ++ comparedName _) ++ ") \x7b" = _
    rw [← String.append_assoc]
    rfl

/-- A name is asked for in a literal of its own bytes exactly where each character is verbatim. -/
theorem hasLiteral_asked_iff {s : NameSite} :
    HasLiteral s.asked (s.before ++ "QLatin1String(") (")" ++ s.after) (utf8 s.name.toList) ↔
      ∀ c ∈ s.name.toList, IsVerbatim c := by
  have text : s.asked =
      s.before ++ "QLatin1String(" ++ ("\"" ++ s.name ++ "\"") ++ (")" ++ s.after) := by
    simp only [asked_eq, comparedName_eq, String.append_assoc]
  have quoted : ("\"" ++ s.name ++ "\"").toList = '"' :: (s.name.toList ++ ['"']) := by
    simp [String.toList_append]
  rw [text, hasLiteral_iff, quoted, literalBytes?_quoted_iff]

theorem infix_between (before part after : String) :
    part.toList <:+: (before ++ part ++ after).toList := by
  rw [String.toList_append, String.toList_append]
  exact ⟨_, _, rfl⟩

theorem infix_written (v : ValueType) (name expression : String) :
    (stringOf name).toList <:+: (v.written name expression).toList := by
  unfold ValueType.written
  split
  · simp only [toString, String.toList_append, List.append_assoc]
    exact List.infix_append' _ _ _
  · simp only [toString, String.toList_append, List.append_assoc]
    exact List.infix_append' _ _ _
  · exact infix_between _ _ _
  · exact infix_between _ _ _

theorem infix_sent (s : NameSite) : (stringOf s.name).toList <:+: s.sent.toList := by
  cases s with
  | member style m expression => exact infix_written _ _ _
  | part message p expression => exact infix_written _ _ _
  | request m expression client function =>
    have invoked : (stringOf m.call.operation).toList <:+:
        (m.call.invoke client function).toList := infix_between _ _ _
    simp only [sent, name, ServerClass.dispatchName]
    cases m.call.style with
    | rpc => exact invoked
    | document =>
      cases m.call.request with
      | nil => exact invoked
      | cons p parts =>
        cases parts with
        | nil => exact infix_written _ _ _
        | cons => exact invoked

theorem agreesOn_iff {s : NameSite} {bytes : List UInt8} :
    s.AgreesOn bytes ↔ bytes = utf8 s.name.toList ∧ ∀ c ∈ s.name.toList, IsVerbatim c := by
  constructor
  · rintro ⟨asked, _, literal⟩
    obtain ⟨_, rfl⟩ := hasLiteral_stringOf_iff.mp literal
    exact ⟨rfl, hasLiteral_asked_iff.mp asked⟩
  · rintro ⟨rfl, verbatim⟩
    have absent : '\r' ∉ s.name.toList := fun present => (verbatim _ present).2.2.2 rfl
    exact ⟨hasLiteral_asked_iff.mpr verbatim, s.infix_sent,
      hasLiteral_stringOf_iff.mpr ⟨absent, rfl⟩⟩

/-- What is sent and what is asked for agree exactly for names that need no escape sequence. -/
theorem agrees_iff (s : NameSite) : s.Agrees ↔ ∀ c ∈ s.name.toList, IsVerbatim c := by
  constructor
  · rintro ⟨bytes, agrees⟩
    exact (agreesOn_iff.mp agrees).2
  · intro verbatim
    exact ⟨utf8 s.name.toList, agreesOn_iff.mpr ⟨rfl, verbatim⟩⟩

def backslashMember : Member where
  name := "aB"
  setter := "setAB"
  xml := ⟨"a\\b", none⟩
  role := .element
  value := ⟨"QString", .builtin .string⟩
  storage := .value
  documentation := none

/-- The backslash of a name is sent as such, and asked for as the escape sequence of a backspace. -/
theorem not_agrees_backslash : ¬ (member .stdOptional backslashMember "m_aB").Agrees := by
  rintro ⟨bytes, agrees⟩
  have verbatim : IsVerbatim '\\' := (agreesOn_iff.mp agrees).2 '\\' (by decide)
  exact verbatim.2.1 rfl

end NameSite

end SoapBindings.Cpp
