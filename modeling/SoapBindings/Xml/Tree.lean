import SoapBindings.Xml.Element
import SoapBindings.Xml.Reference
import SoapBindings.Xml.Tag
import SoapBindings.Xml.Token

/-!
# From text to tree

Tokens build the tree from left to right. Open elements wait on a stack, innermost first, and an
element joins its parent when its end tag is read; white space around its text goes at that moment.
Text, references and character data outside the root are dropped, though a reference has to name a
character there too. The first fault in the order of the document is the one reported, and a place
where the text cannot be cut into tokens comes after every token before it.
-/

set_option autoImplicit false

namespace SoapBindings.Xml

open Text

/-! ## Start tags -/

/-- A name in two parts at its first colon. -/
def splitName (name : List Char) : Option String × String :=
  match splitFirst ':' name with
  | some (bound, localName) => (some (String.ofList bound), String.ofList localName)
  | none => (none, String.ofList name)

/-- What an attribute declares, if it is a namespace declaration. -/
def declaration? (a : RawAttribute) : Option Declaration :=
  if a.key = ['x', 'm', 'l', 'n', 's'] then some (none, String.ofList (attributeValue a.value))
  else
    (after? ['x', 'm', 'l', 'n', 's', ':'] a.key).map fun bound =>
      (some (String.ofList bound), String.ofList (attributeValue a.value))

/-- The namespace that a name in a tag is bound to. -/
def boundNamespace (scope : Scope) (bound : String) : Except Fault String :=
  match scope.find? (some bound) with
  | some ns => .ok ns
  | none => .error (.unboundPrefix bound)

/-- The namespace of an element. No namespace and an empty default namespace are the same. -/
def elementNamespace (scope : Scope) : Option String → Except Fault (Option String)
  | some bound => (boundNamespace scope bound).map some
  | none => .ok ((scope.find? none).filter (· ≠ ""))

/-- An attribute with its name resolved. -/
def resolveAttribute (scope : Scope) (a : RawAttribute) : Except Fault Attribute :=
  let value := String.ofList (attributeValue a.value)
  match splitName a.key with
  | (some bound, name) => (boundNamespace scope bound).map (⟨some ·, name, value⟩)
  | (none, name) => .ok ⟨none, name, value⟩

/-- The element that a start tag opens where `outer` is in effect. Of two declarations for one name
the later counts. -/
def openElement (outer : Scope) (content : List Char) (position : Nat) : Except Fault Element := do
  let raw ← (tagAttributes content).mapError .tag
  let scope := (raw.filterMap declaration?).reverse ++ outer
  let (bound, name) := splitName (tagName content)
  let ns ← elementNamespace scope bound
  let attributes ← (raw.filter (declaration? · |>.isNone)).mapM (resolveAttribute scope)
  return {
    ns := ns
    name := name
    attributes := attributes
    children := []
    text := ""
    position := position
    scope := scope }

/-! ## Open elements -/

/-- An element whose end tag is still to come. -/
structure OpenElement where
  /-- The name as written, which the end tag has to repeat. -/
  written : List Char
  /-- The element as its start tag gives it. -/
  start : Element
  /-- The children so far, newest first. -/
  children : List Element
  /-- The pieces of text so far, newest first. -/
  pieces : List (List Char)

/-- The element once its end tag is read. -/
def OpenElement.finish (o : OpenElement) : Element :=
  { o.start with
    children := o.children.reverse
    text := String.ofList (stripBoth isBlank o.pieces.reverse.flatten) }

structure Builder where
  /-- The open elements, innermost first. -/
  stack : List OpenElement
  root : Option Element

namespace Builder

def empty : Builder := ⟨[], none⟩

/-- The declarations in effect for the next element. -/
def scope (b : Builder) : Scope :=
  match b.stack with
  | [] => []
  | top :: _ => top.start.scope

def addText (b : Builder) (chars : List Char) : Builder :=
  match b.stack with
  | [] => b
  | top :: below => { b with stack := { top with pieces := chars :: top.pieces } :: below }

/-- Gives a finished element to its parent, or makes it the root. -/
def attach (b : Builder) (e : Element) : Except Error Builder :=
  match b.stack with
  | parent :: below =>
    .ok { b with stack := { parent with children := e :: parent.children } :: below }
  | [] =>
    match b.root with
    | none => .ok { b with root := some e }
    | some _ => .error ⟨e.position, .secondRoot⟩

/-- Reads an end tag. White space after its name does not count. -/
def close (b : Builder) (content : List Char) (position : Nat) : Except Error Builder :=
  let name := if content.all isSpace then content else stripEnd isSpace content
  match b.stack with
  | [] => .error ⟨position, .unmatchedEnd (String.ofList name)⟩
  | top :: below =>
    if top.written = name then { b with stack := below }.attach top.finish
    else .error ⟨position, .mismatchedEnd (String.ofList top.written) (String.ofList name)⟩

/-- Reads a start tag, or an empty tag if a slash ends it. -/
def openTag (b : Builder) (content : List Char) (position : Nat) : Except Error Builder :=
  let isEmpty := content.getLast? = some '/'
  let content := if isEmpty then content.dropLast else content
  match openElement b.scope content position with
  | .error fault => .error ⟨position, fault⟩
  | .ok start =>
    let opened : OpenElement := ⟨tagName content, start, [], []⟩
    if isEmpty then b.attach opened.finish
    else .ok { b with stack := opened :: b.stack }

/-- The keyword of a document type has to be followed by a name. -/
def checkDoctype (b : Builder) (chars : List Char) (position : Nat) : Except Error Builder :=
  if (chars.drop 7).all isSpace then
    .error ⟨position + byteWidth chars + 2, .namelessDoctype⟩
  else .ok b

/-- Reads the token that begins at a byte offset. -/
def read (b : Builder) (position : Nat) : Token → Except Error Builder
  | .text chars | .cdata chars => .ok (b.addText chars)
  | .reference name =>
    match resolve? name with
    | some c => .ok (b.addText [c])
    | none => .error ⟨position, .unknownReference (String.ofList name)⟩
  | .comment _ | .instruction _ => .ok b
  | .doctype chars => b.checkDoctype chars position
  | .closing content => b.close content position
  | .opening content => b.openTag content position

/-- Reads tokens from a byte offset on and gives the offset behind them as well. -/
def readAll (b : Builder) (position : Nat) : List Token → Except Error (Builder × Nat)
  | [] => .ok (b, position)
  | token :: tokens =>
    match b.read position token with
    | .error e => .error e
    | .ok next => next.readAll (position + token.width) tokens

/-- The root, once every element is closed. -/
def finish (b : Builder) : Except Error Element :=
  match b.stack with
  | top :: _ => .error ⟨top.start.position, .unclosedElement top.start.name⟩
  | [] =>
    match b.root with
    | some root => .ok root
    | none => .error ⟨0, .noRoot⟩

end Builder

/-! ## Documents -/

/-- A text without the byte order marks in front of it; offsets count from there. -/
def withoutMarks (text : String) : List Char := text.toList.dropWhile (· == '\uFEFF')

/-- The element tree of a document. -/
def Element.ofText (text : String) : Except Error Element :=
  let (tokens, fault) := tokenize (withoutMarks text)
  match Builder.empty.readAll 0 tokens with
  | .error e => .error e
  | .ok (b, position) =>
    match fault with
    | some fault => .error ⟨position, fault⟩
    | none => b.finish

end SoapBindings.Xml
