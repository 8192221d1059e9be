import SoapBindings.Text.CodePoints
import SoapBindings.Text.Split
import SoapBindings.Xml.Fault

/-!
# Tokens of a document

A document is cut into tokens before anything in it is understood. `Token.source` gives the text of
a token back, and every step of the tokenizer carries the proof that the token and the remaining
text make up the text it started from: nothing is skipped, and the tokenizer ends because no token
is empty.

A `>` between quotes does not end a tag, and a `<!DOCTYPE` ends at the `>` that balances it. Names
are not looked at here. Whatever cannot be cut is reported at its first character.
-/

set_option autoImplicit false

namespace SoapBindings.Xml

open Text

inductive Token where
  /-- Characters between markup and references. -/
  | text (chars : List Char)
  /-- An entity or character reference without `&` and `;`. -/
  | reference (name : List Char)
  | cdata (chars : List Char)
  | comment (chars : List Char)
  /-- A processing instruction or the declaration of the document. -/
  | instruction (chars : List Char)
  /-- A document type, from the first letter of its keyword. -/
  | doctype (chars : List Char)
  /-- An end tag without `</` and `>`. -/
  | closing (chars : List Char)
  /-- A start tag or an empty tag without `<` and `>`. -/
  | opening (chars : List Char)
  deriving DecidableEq, Repr

namespace Token

def cdataOpening : List Char := ['<', '!', '[', 'C', 'D', 'A', 'T', 'A', '[']

/-- The text of a token as it stands in the document. -/
def source : Token → List Char
  | text chars => chars
  | reference name => '&' :: name ++ [';']
  | cdata chars => cdataOpening ++ chars ++ [']', ']', '>']
  | comment chars => ['<', '!', '-', '-'] ++ chars ++ ['-', '-', '>']
  | instruction chars => ['<', '?'] ++ chars ++ ['?', '>']
  | doctype chars => '<' :: '!' :: chars ++ [ '>' ]
  | closing chars => '<' :: '/' :: chars ++ [ '>' ]
  | opening chars => '<' :: chars ++ [ '>' ]

/-- The number of bytes of a token. -/
def width (t : Token) : Nat := byteWidth t.source

end Token

/-- A token taken off the front of a text. -/
structure Taken (cs : List Char) where
  token : Token
  rest : List Char
  whole : token.source ++ rest = cs
  nonempty : token.source ≠ []

theorem Taken.rest_shorter {cs : List Char} (t : Taken cs) : t.rest.length < cs.length := by
  have positive := List.length_pos_iff.mpr t.nonempty
  have total := congrArg List.length t.whole
  rw [List.length_append] at total
  omega

/-! ## Ends of tags -/

/-- The `>` that ends a tag, given the quote in which the text begins. -/
def tagEnd? : Option Char → (cs : List Char) → Option (Cut [ '>' ] cs)
  | _, [] => none
  | none, c :: cs =>
    if h : c = '>' then some ⟨[], cs, by simp [h]⟩
    else
      let quote := if c = '"' ∨ c = '\'' then some c else none
      (tagEnd? quote cs).map fun cut =>
        ⟨c :: cut.before, cut.after, congrArg (c :: ·) cut.whole⟩
  | some quote, c :: cs =>
    (tagEnd? (if c = quote then none else some quote) cs).map fun cut =>
      ⟨c :: cut.before, cut.after, congrArg (c :: ·) cut.whole⟩

/-- The `>` that closes a text in which `depth` further `<` are open. -/
def balancedEnd? : Nat → (cs : List Char) → Option (Cut [ '>' ] cs)
  | _, [] => none
  | depth, c :: cs =>
    if h : c = '>' ∧ depth = 0 then some ⟨[], cs, by simp [h.1]⟩
    else
      let inner := if c = '<' then depth + 1 else if c = '>' then depth - 1 else depth
      (balancedEnd? inner cs).map fun cut =>
        ⟨c :: cut.before, cut.after, congrArg (c :: ·) cut.whole⟩

/-! ## One token -/

section

variable {cs : List Char}

/-- Markup that opens with a fixed text and ends at the first place of another. -/
def delimited (opening ending : List Char) (make : List Char → Token)
    (whole : ∀ body, (make body).source = opening ++ body ++ ending)
    (fault : Fault) (solid : opening ≠ []) (cs : List Char) : Except Fault (Taken cs) :=
  match h : after? opening cs with
  | none => .error fault
  | some rest =>
    match cut? ending rest with
    | none => .error fault
    | some cut => .ok {
        token := make cut.before
        rest := cut.after
        whole := by
          rw [whole, List.append_assoc, List.append_assoc, ← List.append_assoc cut.before,
            cut.whole]
          exact append_of_after? h
        nonempty := by
          rw [whole]
          intro empty
          exact solid (List.append_eq_nil_iff.mp (List.append_eq_nil_iff.mp empty).1).1 }

def takeComment : (cs : List Char) → Except Fault (Taken cs) :=
  delimited ['<', '!', '-', '-'] ['-', '-', '>'] .comment (fun _ => rfl) .unclosedComment
    (List.cons_ne_nil _ _)

def takeCData : (cs : List Char) → Except Fault (Taken cs) :=
  delimited Token.cdataOpening [']', ']', '>'] .cdata (fun _ => rfl) .unclosedCData
    (List.cons_ne_nil _ _)

def takeInstruction : (cs : List Char) → Except Fault (Taken cs) :=
  delimited ['<', '?'] ['?', '>'] .instruction (fun _ => rfl) .unclosedInstruction
    (List.cons_ne_nil _ _)

/-- The keyword of a document type, in any case of its letters. -/
def isDoctype (chars : List Char) : Bool :=
  (chars.take 7).map asciiLower == "doctype".toList

def takeDoctype (body : List Char) : Except Fault (Taken ('<' :: '!' :: body)) :=
  match balancedEnd? 0 body with
  | none => .error .unclosedDoctype
  | some cut =>
    if isDoctype cut.before then
      .ok {
        token := .doctype cut.before
        rest := cut.after
        whole := congrArg (fun tail => '<' :: '!' :: tail) cut.whole
        nonempty := List.cons_ne_nil _ _ }
    else .error .unclosedDoctype

def takeClosing (body : List Char) : Except Fault (Taken ('<' :: '/' :: body)) :=
  match tagEnd? none body with
  | none => .error .unclosedTag
  | some cut => .ok {
      token := .closing cut.before
      rest := cut.after
      whole := congrArg (fun tail => '<' :: '/' :: tail) cut.whole
      nonempty := List.cons_ne_nil _ _ }

def takeOpening (body : List Char) : Except Fault (Taken ('<' :: body)) :=
  match tagEnd? none body with
  | none => .error .unclosedTag
  | some cut => .ok {
      token := .opening cut.before
      rest := cut.after
      whole := congrArg ('<' :: ·) cut.whole
      nonempty := List.cons_ne_nil _ _ }

/-- The second character of markup tells its kind. In `<?>` one question mark would have to be both
the first and the last, so it is no instruction whatever follows. -/
def takeMarkup : (body : List Char) → Except Fault (Taken ('<' :: body))
  | '!' :: '[' :: body => takeCData ('<' :: '!' :: '[' :: body)
  | '!' :: '-' :: body => takeComment ('<' :: '!' :: '-' :: body)
  | '!' :: c :: body =>
    if c = 'D' ∨ c = 'd' then takeDoctype (c :: body) else .error .unknownMarkup
  | ['!'] => .error .unknownMarkup
  | '/' :: body => takeClosing body
  | '?' :: '>' :: _ => .error .unclosedInstruction
  | '?' :: body => takeInstruction ('<' :: '?' :: body)
  | body => takeOpening body

/-- A character that ends a reference or shows that it has no end. -/
def endsReference (c : Char) : Bool := c == ';' || c == '&' || c == '<'

def takeReference (body : List Char) : Except Fault (Taken ('&' :: body)) :=
  match h : body.dropWhile (!endsReference ·) with
  | ';' :: rest => .ok {
      token := .reference (body.takeWhile (!endsReference ·))
      rest := rest
      whole := by
        have := List.takeWhile_append_dropWhile (p := (!endsReference ·)) (l := body)
        rw [h] at this
        exact congrArg ('&' :: ·) ((List.append_assoc _ _ _).trans this)
      nonempty := List.cons_ne_nil _ _ }
  | _ => .error .unclosedReference

/-- A character that belongs to a text token. -/
def isPlain (c : Char) : Bool := c != '<' && c != '&'

/-- The first token of a text that is not empty. -/
def takeToken : (cs : List Char) → cs ≠ [] → Except Fault (Taken cs)
  | '<' :: body, _ => takeMarkup body
  | '&' :: body, _ => takeReference body
  | c :: body, _ => .ok {
      token := .text (c :: body.takeWhile isPlain)
      rest := body.dropWhile isPlain
      whole := congrArg (c :: ·) (List.takeWhile_append_dropWhile (p := isPlain) (l := body))
      nonempty := List.cons_ne_nil _ _ }

end

/-! ## All tokens -/

/-- The tokens of a text up to the first place that cannot be cut, with the fault found there. -/
def tokenize (cs : List Char) : List Token × Option Fault :=
  if h : cs = [] then ([], none)
  else
    match takeToken cs h with
    | .error fault => ([], some fault)
    | .ok taken =>
      have := taken.rest_shorter
      let (tokens, fault) := tokenize taken.rest
      (taken.token :: tokens, fault)
termination_by cs.length

end SoapBindings.Xml
