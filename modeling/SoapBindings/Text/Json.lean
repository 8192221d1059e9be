import SoapBindings.Text.CodePoints

/-!
# JSON

Values and their text: one value on a line, members in the order in which they are given, each level
indented by two spaces. In strings only quotes, backslashes and control characters are escaped.
-/

set_option autoImplicit false

namespace SoapBindings.Text

inductive Json where
  | null
  | bool (b : Bool)
  | str (text : String)
  | arr (items : List Json)
  | obj (members : List (String × Json))

namespace Json

/-- A hexadecimal digit in lower case. -/
def hexDigit (n : Nat) : Char :=
  if n < 10 then Char.ofNat ('0'.toNat + n) else Char.ofNat ('a'.toNat + (n - 10))

def escapeChar (c : Char) : List Char :=
  match c with
  | '"' => ['\\', '"']
  | '\\' => ['\\', '\\']
  | '\n' => ['\\', 'n']
  | '\r' => ['\\', 'r']
  | '\t' => ['\\', 't']
  | '\x08' => ['\\', 'b']
  | '\x0c' => ['\\', 'f']
  | c =>
    if c.toNat < 0x20 then ['\\', 'u', '0', '0', hexDigit (c.toNat / 16), hexDigit (c.toNat % 16)]
    else [c]

def quote (text : String) : String :=
  "\"" ++ String.ofList (text.toList.flatMap escapeChar) ++ "\""

mutual

/-- The text of a value that stands at a level; `indent` begins its lines but the first. -/
def render (indent : String) : Json → String
  | null => "null"
  | bool b => if b then "true" else "false"
  | str text => quote text
  | arr [] => "[]"
  | arr (item :: items) =>
    let inner := indent ++ "  "
    "[\n" ++ inner ++ render inner item ++ renderItems inner items ++ "\n" ++ indent ++ "]"
  | obj [] => "\x7b\x7d"
  | obj ((key, value) :: members) =>
    let inner := indent ++ "  "
    "\x7b\n" ++ inner ++ quote key ++ ": " ++ render inner value ++ renderMembers inner members ++
      "\n" ++ indent ++ "\x7d"

/-- The items after the first. -/
def renderItems (indent : String) : List Json → String
  | [] => ""
  | item :: items => ",\n" ++ indent ++ render indent item ++ renderItems indent items

/-- The members after the first. -/
def renderMembers (indent : String) : List (String × Json) → String
  | [] => ""
  | (key, value) :: members =>
    ",\n" ++ indent ++ quote key ++ ": " ++ render indent value ++ renderMembers indent members

end

def toText (j : Json) : String := j.render ""

/-- The value or null. -/
def option {α : Type} (f : α → Json) : Option α → Json
  | none => null
  | some a => f a

def optionalText : Option String → Json := option str

/-- Values of one kind. -/
def list {α : Type} (f : α → Json) (as : List α) : Json := arr (as.map f)

end Json

end SoapBindings.Text
