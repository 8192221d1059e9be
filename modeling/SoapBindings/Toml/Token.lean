import SoapBindings.Text.Digits

/-!
# Tokens of a TOML document

Words, texts and punctuation. Blanks between tokens and comments leave no token, ends of lines do:
a key and its value stand on one line. Words are those of keys and truth values; numbers with a
sign or a fraction, dates and times are no words, so a document with one of them has no tokens.

Four kinds of text differ in two ways: whether a backslash writes a special character, and whether
the text may go over several lines. A text over several lines closes at three quotes, and up to two
quotes right before these belong to it; a line end right after its opening does not.
-/

set_option autoImplicit false

namespace SoapBindings.Toml

open Text

inductive Token where
  | word (text : String)
  | text (content : String)
  /-- A text that may go over several lines and so is no key. -/
  | lines (content : String)
  | dot
  | equals
  | comma
  | openBracket
  | closeBracket
  | openBrace
  | closeBrace
  | newline
  deriving DecidableEq, Repr, Inhabited

def isWordChar (c : Char) : Bool := isAsciiAlpha c || isAsciiDigit c || c == '_' || c == '-'

/-- A character that texts and comments hold as it is: a tab or no control. -/
def isPlain (c : Char) : Bool := c == '\t' || (' ' ≤ c && c != '\x7f')

/-! ## Backslashes -/

/-- The character with a code point written in hexadecimal. -/
def coded? (digits : List Char) : Option Char :=
  (number? 16 digits).bind fun n => if n.isValidChar then some (Char.ofNat n) else none

/-- Something read from the front of a list, and what follows it. -/
structure Taken {ι : Type} (α : Type) (cs : List ι) where
  value : α
  rest : List ι
  shorter : rest.length < cs.length

theorem length_lt_cons_append (c : Char) (front rest : List Char) :
    rest.length < (c :: front ++ rest).length := by
  rw [List.length_append, List.length_cons]
  omega

/-- The character that is written after a backslash. -/
def escape? : (cs : List Char) → Option (Taken Char cs)
  | 'b' :: rest => some ⟨'\x08', rest, by simp⟩
  | 't' :: rest => some ⟨'\t', rest, by simp⟩
  | 'n' :: rest => some ⟨'\n', rest, by simp⟩
  | 'f' :: rest => some ⟨'\x0c', rest, by simp⟩
  | 'r' :: rest => some ⟨'\r', rest, by simp⟩
  | 'e' :: rest => some ⟨'\x1b', rest, by simp⟩
  | '"' :: rest => some ⟨'"', rest, by simp⟩
  | '\\' :: rest => some ⟨'\\', rest, by simp⟩
  | 'x' :: a :: b :: rest =>
    (coded? [a, b]).map (⟨·, rest, length_lt_cons_append 'x' [a, b] rest⟩)
  | 'u' :: a :: b :: c :: d :: rest =>
    (coded? [a, b, c, d]).map (⟨·, rest, length_lt_cons_append 'u' [a, b, c, d] rest⟩)
  | 'U' :: a :: b :: c :: d :: e :: f :: g :: h :: rest =>
    (coded? [a, b, c, d, e, f, g, h]).map
      (⟨·, rest, length_lt_cons_append 'U' [a, b, c, d, e, f, g, h] rest⟩)
  | _ => none

/-- What follows blanks and line ends. -/
def afterBlankLines : List Char → List Char
  | ' ' :: rest | '\t' :: rest | '\n' :: rest | '\r' :: '\n' :: rest => afterBlankLines rest
  | cs => cs

theorem length_afterBlankLines_le (cs : List Char) : (afterBlankLines cs).length ≤ cs.length := by
  fun_induction afterBlankLines cs <;> grind

/-- A backslash before the end of a line takes away the blanks up to the next line that has anything
else. -/
def afterLineBreak? : (cs : List Char) → Option { rest : List Char // rest.length ≤ cs.length }
  | ' ' :: rest | '\t' :: rest =>
    (afterLineBreak? rest).map fun r => ⟨r.1, by have := r.2; simp only [List.length_cons]; omega⟩
  | '\n' :: rest | '\r' :: '\n' :: rest =>
    some ⟨afterBlankLines rest, by
      have := length_afterBlankLines_le rest
      simp only [List.length_cons]; omega⟩
  | _ => none

/-! ## Texts

Each reader gets what it has read so far in reverse. -/

/-- The rest of a text between single quotes. -/
def literal? (read : List Char) : (cs : List Char) → Option (Taken String cs)
  | '\'' :: rest => some ⟨String.ofList read.reverse, rest, by simp⟩
  | c :: rest =>
    if isPlain c then
      (literal? (c :: read) rest).map fun t =>
        ⟨t.value, t.rest, Nat.lt_succ_of_lt t.shorter⟩
    else none
  | [] => none

/-- A line end or a character that a text over several lines holds as it is. -/
def lineChar? : (cs : List Char) → Option (Taken (List Char) cs)
  | '\n' :: rest => some ⟨['\n'], rest, by simp⟩
  | '\r' :: '\n' :: rest => some ⟨['\n', '\r'], rest, by simp only [List.length_cons]; omega⟩
  | c :: rest => if isPlain c then some ⟨[c], rest, by simp⟩ else none
  | [] => none

/-- The end of a text over several lines, with the quotes before it that belong to the text. -/
def closing? (quote : Char) (cs : List Char) : Option (Taken (List Char) cs) :=
  let quotes := (cs.takeWhile (· == quote)).length
  if enough : 3 ≤ quotes then
    let belonging := min (quotes - 3) 2
    some ⟨List.replicate belonging quote, cs.drop (belonging + 3), by
      have := (List.takeWhile_prefix (· == quote) (l := cs)).length_le
      simp only [List.length_drop]; omega⟩
  else none

/-- The rest of a text between three single quotes. -/
def longLiteral? (read : List Char) (cs : List Char) : Option (Taken String cs) :=
  match closing? '\'' cs with
  | some t => some ⟨String.ofList (t.value ++ read).reverse, t.rest, t.shorter⟩
  | none =>
    match lineChar? cs with
    | none => none
    | some t =>
      (longLiteral? (t.value ++ read) t.rest).map fun u =>
        ⟨u.value, u.rest, Nat.lt_trans u.shorter t.shorter⟩
termination_by cs.length
decreasing_by exact t.shorter

/-- The rest of a text between double quotes. -/
def basic? (read : List Char) (cs : List Char) : Option (Taken String cs) :=
  match cs with
  | [] => none
  | '"' :: rest => some ⟨String.ofList read.reverse, rest, by simp⟩
  | '\\' :: rest =>
    match escape? rest with
    | none => none
    | some t =>
      (basic? (t.value :: read) t.rest).map fun u =>
        ⟨u.value, u.rest, Nat.lt_succ_of_lt (Nat.lt_trans u.shorter t.shorter)⟩
  | c :: rest =>
    if isPlain c then
      (basic? (c :: read) rest).map fun u => ⟨u.value, u.rest, Nat.lt_succ_of_lt u.shorter⟩
    else none
termination_by cs.length
decreasing_by
  · exact Nat.lt_succ_of_lt t.shorter
  · simp

/-- The rest of a text between three double quotes. -/
def longBasic? (read : List Char) (cs : List Char) : Option (Taken String cs) :=
  match closing? '"' cs with
  | some t => some ⟨String.ofList (t.value ++ read).reverse, t.rest, t.shorter⟩
  | none =>
    match cs with
    | '\\' :: rest =>
      match afterLineBreak? rest with
      | some next =>
        (longBasic? read next.1).map fun u =>
          ⟨u.value, u.rest, Nat.lt_succ_of_lt (Nat.lt_of_lt_of_le u.shorter next.2)⟩
      | none =>
        match escape? rest with
        | none => none
        | some t =>
          (longBasic? (t.value :: read) t.rest).map fun u =>
            ⟨u.value, u.rest, Nat.lt_succ_of_lt (Nat.lt_trans u.shorter t.shorter)⟩
    | cs =>
      match lineChar? cs with
      | none => none
      | some t =>
        (longBasic? (t.value ++ read) t.rest).map fun u =>
          ⟨u.value, u.rest, Nat.lt_trans u.shorter t.shorter⟩
termination_by cs.length
decreasing_by
  · exact Nat.lt_succ_of_le next.2
  · exact Nat.lt_succ_of_lt t.shorter
  · exact t.shorter

/-- What follows a line end right after the opening of a text over several lines. -/
def afterFirstLineEnd : List Char → List Char
  | '\n' :: rest | '\r' :: '\n' :: rest => rest
  | cs => cs

theorem length_afterFirstLineEnd_le (cs : List Char) :
    (afterFirstLineEnd cs).length ≤ cs.length := by
  fun_cases afterFirstLineEnd cs <;> grind

/-! ## Tokens -/

def punctuation? : Char → Option Token
  | '.' => some .dot
  | '=' => some .equals
  | ',' => some .comma
  | '[' => some .openBracket
  | ']' => some .closeBracket
  | '\x7b' => some .openBrace
  | '\x7d' => some .closeBrace
  | '\n' => some .newline
  | _ => none

/-- What follows a comment: the end of its line. -/
def afterComment? : (cs : List Char) → Option { rest : List Char // rest.length ≤ cs.length }
  | '\n' :: rest => some ⟨'\n' :: rest, Nat.le_refl _⟩
  | '\r' :: '\n' :: rest => some ⟨'\r' :: '\n' :: rest, Nat.le_refl _⟩
  | c :: rest =>
    if isPlain c then (afterComment? rest).map fun r => ⟨r.1, Nat.le_succ_of_le r.2⟩ else none
  | [] => some ⟨[], Nat.le_refl _⟩

/-- The first token, unless nothing or a comment stands before it. -/
def first? : (cs : List Char) → Option (Taken (Option Token) cs)
  | ' ' :: rest | '\t' :: rest => some ⟨none, rest, by simp⟩
  | '\r' :: '\n' :: rest => some ⟨some .newline, rest, by simp only [List.length_cons]; omega⟩
  | '#' :: rest => (afterComment? rest).map fun r => ⟨none, r.1, Nat.lt_succ_of_le r.2⟩
  | '"' :: '"' :: '"' :: rest =>
    (longBasic? [] (afterFirstLineEnd rest)).map fun t =>
      ⟨some (.lines t.value), t.rest, by
        have := t.shorter
        have := length_afterFirstLineEnd_le rest
        simp only [List.length_cons]; omega⟩
  | '"' :: rest =>
    (basic? [] rest).map fun t => ⟨some (.text t.value), t.rest, Nat.lt_succ_of_lt t.shorter⟩
  | '\'' :: '\'' :: '\'' :: rest =>
    (longLiteral? [] (afterFirstLineEnd rest)).map fun t =>
      ⟨some (.lines t.value), t.rest, by
        have := t.shorter
        have := length_afterFirstLineEnd_le rest
        simp only [List.length_cons]; omega⟩
  | '\'' :: rest =>
    (literal? [] rest).map fun t => ⟨some (.text t.value), t.rest, Nat.lt_succ_of_lt t.shorter⟩
  | c :: rest =>
    if isWordChar c then
      some ⟨some (.word (String.ofList (c :: rest.takeWhile isWordChar))),
        rest.dropWhile isWordChar,
        Nat.lt_succ_of_le (List.dropWhile_suffix isWordChar).length_le⟩
    else (punctuation? c).map fun token => ⟨some token, rest, by simp⟩
  | [] => none

/-- The tokens of a document. -/
def tokens? (cs : List Char) : Option (List Token) :=
  match cs with
  | [] => some []
  | c :: rest =>
    match first? (c :: rest) with
    | none => none
    | some t => (tokens? t.rest).map (t.value.toList ++ ·)
termination_by cs.length
decreasing_by exact t.shorter

end SoapBindings.Toml
