import SoapBindings.Toml.Table
import SoapBindings.Toml.Token

/-!
# Reading TOML

Of TOML this is what options need: texts, truth values, arrays and tables. Numbers, dates and
arrays of tables are values of no option, so a document that holds one of them is refused as a
whole, like a document that is not well formed.

Line ends separate the keys of a table and the headers; between brackets and braces they mean
nothing, except inside a key and between a key and its value. A comma may follow the last item.
-/

set_option autoImplicit false

namespace SoapBindings.Toml

/-- A key with dots: the keys of the tables on the way, and the last one. -/
structure Key where
  path : List String
  last : String

def keyPart? : Token → Option String
  | .word text | .text text => some text
  | _ => none

/-- A key from the front of some tokens. -/
def key? : (ts : List Token) → Option (Taken Key ts)
  | first :: .dot :: rest =>
    match keyPart? first, key? rest with
    | some part, some t =>
      some ⟨⟨part :: t.value.path, t.value.last⟩, t.rest, by
        have := t.shorter
        simp only [List.length_cons]; omega⟩
    | _, _ => none
  | first :: rest => (keyPart? first).map fun part => ⟨⟨[], part⟩, rest, by simp⟩
  | [] => none

/-- A key and the equals sign after it. -/
def keyEquals? (ts : List Token) : Option (Taken Key ts) :=
  match key? ts with
  | some ⟨key, .equals :: rest, shorter⟩ => some ⟨key, rest, Nat.lt_trans (by simp) shorter⟩
  | _ => none

def isNewline (t : Token) : Bool := t == .newline

/-- What follows line ends. -/
def afterNewlines (ts : List Token) : List Token := ts.dropWhile isNewline

theorem length_afterNewlines_le (ts : List Token) : (afterNewlines ts).length ≤ ts.length :=
  (List.dropWhile_suffix isNewline).length_le

/-- What follows an item inside `close`: a comma, or the end, which is left standing. -/
def afterItem? (close : Token) (ts : List Token) :
    Option { rest : List Token // rest.length ≤ ts.length } :=
  match h : afterNewlines ts with
  | .comma :: rest =>
    some ⟨rest, by
      have := length_afterNewlines_le ts
      simp only [h, List.length_cons] at this; omega⟩
  | t :: rest =>
    if t == close then some ⟨t :: rest, h ▸ length_afterNewlines_le ts⟩ else none
  | [] => none

mutual

def value? (ts : List Token) : Option (Taken Value ts) :=
  match ts with
  | .text content :: rest | .lines content :: rest => some ⟨.text content, rest, by simp⟩
  | .word "true" :: rest => some ⟨.boolean true, rest, by simp⟩
  | .word "false" :: rest => some ⟨.boolean false, rest, by simp⟩
  | .openBracket :: rest =>
    (items? [] rest).map fun t => ⟨.array t.value, t.rest, Nat.lt_succ_of_lt t.shorter⟩
  | .openBrace :: rest =>
    (members? [] rest).map fun t => ⟨.table .braces t.value, t.rest, Nat.lt_succ_of_lt t.shorter⟩
  | _ => none
termination_by (ts.length, 0)
decreasing_by all_goals (apply Prod.Lex.left; simp)

/-- The items of an array up to its closing bracket; `read` holds those before in reverse. -/
def items? (read : List Value) (ts : List Token) : Option (Taken (List Value) ts) :=
  match ts with
  | [] => none
  | .newline :: rest =>
    (items? read rest).map fun t => ⟨t.value, t.rest, Nat.lt_succ_of_lt t.shorter⟩
  | .closeBracket :: rest => some ⟨read.reverse, rest, by simp⟩
  | t :: rest =>
    match value? (t :: rest) with
    | none => none
    | some item =>
      match afterItem? .closeBracket item.rest with
      | none => none
      | some next =>
        (items? (item.value :: read) next.1).map fun u =>
          ⟨u.value, u.rest, Nat.lt_trans u.shorter (Nat.lt_of_le_of_lt next.2 item.shorter)⟩
termination_by (ts.length, 1)
decreasing_by
  · apply Prod.Lex.left; simp
  · apply Prod.Lex.right; simp
  · apply Prod.Lex.left; exact Nat.lt_of_le_of_lt next.2 item.shorter

/-- The members of a table in braces up to the closing one. -/
def members? (read : Members) (ts : List Token) : Option (Taken Members ts) :=
  match ts with
  | [] => none
  | .newline :: rest =>
    (members? read rest).map fun t => ⟨t.value, t.rest, Nat.lt_succ_of_lt t.shorter⟩
  | .closeBrace :: rest => some ⟨read, rest, by simp⟩
  | t :: rest =>
    match keyEquals? (t :: rest) with
    | none => none
    | some key =>
      match value? key.rest with
      | none => none
      | some item =>
        match Members.set key.value.path key.value.last item.value .braces read,
            afterItem? .closeBrace item.rest with
        | some (_, read), some next =>
          (members? read next.1).map fun u =>
            ⟨u.value, u.rest, Nat.lt_trans u.shorter
              (Nat.lt_of_le_of_lt next.2 (Nat.lt_trans item.shorter key.shorter))⟩
        | _, _ => none
termination_by (ts.length, 1)
decreasing_by
  · apply Prod.Lex.left; simp
  · apply Prod.Lex.left; exact key.shorter
  · apply Prod.Lex.left
    exact Nat.lt_of_le_of_lt next.2 (Nat.lt_trans item.shorter key.shorter)

end

/-- What follows the end of a line; the end of the document is one. -/
def afterLine? : (ts : List Token) → Option { rest : List Token // rest.length ≤ ts.length }
  | [] => some ⟨[], Nat.le_refl _⟩
  | .newline :: rest => some ⟨rest, by simp⟩
  | _ => none

/-- One line of a document. -/
inductive Line where
  | header (key : Key)
  | setting (key : Key) (value : Value)

/-- The line at the front of some tokens, with its end. -/
def line? (ts : List Token) : Option (Taken Line ts) :=
  match ts with
  | .openBracket :: rest =>
    match key? rest with
    | some ⟨key, .closeBracket :: rest, shorter⟩ =>
      (afterLine? rest).map fun next =>
        ⟨.header key, next.1, by
          have := next.2
          simp only [List.length_cons] at shorter ⊢; omega⟩
    | _ => none
  | ts =>
    match keyEquals? ts with
    | none => none
    | some key =>
      match value? key.rest with
      | none => none
      | some item =>
        (afterLine? item.rest).map fun next =>
          ⟨.setting key.value item.value, next.1,
            Nat.lt_of_le_of_lt next.2 (Nat.lt_trans item.shorter key.shorter)⟩

/-- The lines of a document. -/
def lines? (ts : List Token) : Option (List Line) :=
  match ts with
  | [] => some []
  | .newline :: rest => lines? rest
  | t :: rest =>
    match line? (t :: rest) with
    | none => none
    | some l => (lines? l.rest).map (l.value :: ·)
termination_by ts.length
decreasing_by
  · simp
  · exact l.shorter

/-- A document under way: the header that was read last and the root table. -/
structure Document where
  header : List String
  origin : Origin
  members : Members

namespace Document

def addLine (d : Document) : Line → Option Document
  | .header key =>
    (Members.changeAt .implied (Members.openTable key.last) key.path d.origin d.members).map
      fun (origin, members) => ⟨key.path ++ [key.last], origin, members⟩
  | .setting key value =>
    (Members.changeAt .implied (Members.set key.path key.last value) d.header d.origin
      d.members).map fun (origin, members) => ⟨d.header, origin, members⟩

end Document

/-- The root table of a document. A mark of the byte order may stand before it. -/
def read? (text : String) : Option Members := do
  let content := match text.toList with
    | '\uFEFF' :: rest => rest
    | cs => cs
  let lines ← lines? (← tokens? content)
  let document ← lines.foldlM Document.addLine ⟨[], .opened, []⟩
  return document.members

end SoapBindings.Toml
