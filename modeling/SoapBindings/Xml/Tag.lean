import SoapBindings.Xml.Fault

/-!
# Tags

What stands between the angle brackets of a start tag: a name up to the first white space, then
attributes. A value is in quotes, an equals sign may have white space around it, and nothing need
stand between two attributes. The same key may not occur twice. Only the four characters of
`isSpace` count as white space inside a tag.
-/

set_option autoImplicit false

namespace SoapBindings.Xml

def isSpace (c : Char) : Bool := c == ' ' || c == '\t' || c == '\n' || c == '\r'

/-- An attribute as written, with the offset of its key. -/
structure RawAttribute where
  offset : Nat
  key : List Char
  value : List Char
  deriving Repr

/-- One attribute at the front of a text, and what follows it. -/
structure ReadAttribute (cs : List Char) where
  raw : RawAttribute
  rest : List Char
  restOffset : Nat
  shorter : rest.length < cs.length

/-- A character that ends a key. -/
def endsKey (c : Char) : Bool := c == '=' || isSpace c

/-- Reads the value after an equals sign; `offset` is that of `cs`. Gives the value, what follows
its closing quote and the offset there. -/
def readValue (cs : List Char) (offset : Nat) :
    Except TagFault (List Char × { rest : List Char // rest.length ≤ cs.length } × Nat) :=
  let blank := cs.takeWhile isSpace
  let start := offset + byteWidth blank
  match h : cs.dropWhile isSpace with
  | [] => .error (.missingValue start)
  | quote :: body =>
    if quote = '"' ∨ quote = '\'' then
      let value := body.takeWhile (· ≠ quote)
      match h' : body.dropWhile (· ≠ quote) with
      | [] => .error (.unclosedQuote (start + 1 + byteWidth value) quote)
      | _ :: rest =>
        .ok (value, ⟨rest, by
          have inner := (List.dropWhile_suffix (l := body) (· ≠ quote)).length_le
          have outer := (List.dropWhile_suffix (l := cs) isSpace).length_le
          rw [h'] at inner
          rw [h] at outer
          simp only [List.length_cons] at inner outer
          omega⟩, start + 2 + byteWidth value)
    else .error (.unquotedValue start)

/-- Reads the attribute whose key begins with `first`; `offset` is that of the key and `earlier`
holds the attributes before it. -/
def readAttribute (earlier : List RawAttribute) (first : Char) (cs : List Char) (offset : Nat) :
    Except TagFault (ReadAttribute (first :: cs)) :=
  let key := first :: cs.takeWhile (!endsKey ·)
  let blank := (cs.dropWhile (!endsKey ·)).takeWhile isSpace
  let equals := offset + byteWidth key + byteWidth blank
  match h : (cs.dropWhile (!endsKey ·)).dropWhile isSpace with
  | '=' :: body =>
    match earlier.find? (·.key = key) with
    | some twin => .error (.duplicate offset twin.offset)
    | none =>
      match readValue body (equals + 1) with
      | .error fault => .error fault
      | .ok (value, rest, restOffset) => .ok {
          raw := ⟨offset, key, value⟩
          rest := rest.1
          restOffset := restOffset
          shorter := by
            have bound := rest.2
            have inner := (List.dropWhile_suffix (l := cs.dropWhile (!endsKey ·)) isSpace).length_le
            have outer := (List.dropWhile_suffix (l := cs) (!endsKey ·)).length_le
            rw [h] at inner
            simp only [List.length_cons] at inner ⊢
            omega }
  | _ => .error (.missingEquals equals)

/-- The attributes of a text in their order; `earlier` holds those before it, the nearest first. -/
def readAttributes (earlier : List RawAttribute) (cs : List Char) (offset : Nat) :
    Except TagFault (List RawAttribute) :=
  match h : cs.dropWhile isSpace with
  | [] => .ok earlier.reverse
  | first :: body =>
    match readAttribute earlier first body (offset + byteWidth (cs.takeWhile isSpace)) with
    | .error fault => .error fault
    | .ok read =>
      have : read.rest.length < cs.length := by
        have bound := read.shorter
        have outer := (List.dropWhile_suffix (l := cs) isSpace).length_le
        rw [h] at outer
        omega
      readAttributes (read.raw :: earlier) read.rest read.restOffset
termination_by cs.length

/-- The name of a tag. -/
def tagName (content : List Char) : List Char := content.takeWhile (!isSpace ·)

/-- The attributes of a tag as written. -/
def tagAttributes (content : List Char) : Except TagFault (List RawAttribute) :=
  readAttributes [] (content.dropWhile (!isSpace ·)) (byteWidth (tagName content))

end SoapBindings.Xml
