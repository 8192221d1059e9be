import SoapBindings.Document.Misreading
import SoapBindings.Schema.Declaration
import SoapBindings.Text.Digits
import SoapBindings.Xml.Element

/-!
# Reading attributes

What all readers of declarations share: how a construct is named in a message, how attributes are
read as names, truth values and counts, and where a construct that is passed over is noted. White
space around a value does not count where the value is a name of something else or one of a few
words.

Readers give a value and the constructs that they passed over, or the first misreading.
-/

set_option autoImplicit false

namespace SoapBindings

open Text Xml

/-- A construct that was passed over. -/
structure Skipped where
  construct : String
  position : Nat
  deriving DecidableEq, Repr

/-- Readers collect the constructs they pass over, newest first. -/
abbrev Reading := StateT (List Skipped) (Except Misreading)

/-- A construct by its element name and its `name` or `ref`. -/
def describe (e : Element) : String :=
  match e.attribute? "name", e.attribute? "ref" with
  | some name, _ => e.name ++ " " ++ quoted name
  | none, some ref => e.name ++ " ref " ++ quoted ref
  | none, none => e.name

def misread {α : Type} (e : Element) (fault : SyntaxFault) : Except Misreading α :=
  .error ⟨describe e, e.position, fault⟩

/-- Notes that a construct is passed over. -/
def skip (e : Element) : Reading Unit :=
  let construct := match e.ns with
    | some ns =>
      if ns == Namespaces.schema || ns == Namespaces.wsdl then describe e
      else "\x7b" ++ ns ++ "\x7d" ++ describe e
    | none => describe e
  modify (⟨construct, e.position⟩ :: ·)

/-- The value of an attribute that has to be there and not to be blank. -/
def required (e : Element) (name : String) : Except Misreading String :=
  match e.attribute? name with
  | some value => if isBlankText value then misread e (.missingAttribute name) else .ok value
  | none => misread e (.missingAttribute name)

/-- The value of an attribute without white space around it. -/
def trimmed? (e : Element) (name : String) : Option String := (e.attribute? name).map trim

/-- What the readers of one schema, or of one set of definitions, have to know about it. -/
structure Context where
  targetNamespace : String
  /-- The namespace comes from the including schema, and names in no namespace come into it. -/
  isAdopted : Bool
  elementForm : Schema.Form
  attributeForm : Schema.Form
  deriving Repr

namespace Context

def ofNamespace (targetNamespace : String) : Context :=
  ⟨targetNamespace, false, .unqualified, .unqualified⟩

/-- The name that a value stands for. -/
def qname (ctx : Context) (e : Element) (value : String) : Except Misreading QName :=
  match e.resolve value with
  | .error bound => misread e (.unboundPrefix bound)
  | .ok name =>
    .ok (if ctx.isAdopted && name.ns.isEmpty then { name with ns := ctx.targetNamespace } else name)

/-- The name in an attribute. -/
def qname? (ctx : Context) (e : Element) (name : String) : Except Misreading (Option QName) :=
  match e.attribute? name with
  | none => .ok none
  | some value => (ctx.qname e value).map some

/-- The name in an attribute that has to be there. -/
def requiredQName (ctx : Context) (e : Element) (name : String) : Except Misreading QName := do
  match ← ctx.qname? e name with
  | some q => return q
  | none => misread e (.missingAttribute name)

end Context

/-- A truth value; an attribute that is absent is false. -/
def readBool (e : Element) (name : String) : Except Misreading Bool :=
  match trimmed? e name with
  | none => .ok false
  | some value =>
    if value == "false" || value == "0" then .ok false
    else if value == "true" || value == "1" then .ok true
    else misread e (.invalidAttribute name value)

/-- One of a few words; `absent` stands for an attribute that is not there. -/
def readWord {α : Type} (e : Element) (name : String) (absent : α) (words : List (String × α)) :
    Except Misreading α :=
  match trimmed? e name with
  | none => .ok absent
  | some value =>
    match words.lookup value with
    | some a => .ok a
    | none => misread e (.invalidAttribute name value)

/-- A count of at most 32 bits; a plus sign may stand before it. -/
def count? (text : String) : Option Nat :=
  let digits := match text.toList with
    | '+' :: rest => rest
    | cs => cs
  (number? 10 digits).filter (· < 4294967296)

def readMinOccurs (e : Element) : Except Misreading Nat :=
  match e.attribute? "minOccurs" with
  | none => .ok 1
  | some value =>
    match count? (trim value) with
    | some n => .ok n
    | none => misread e (.invalidAttribute "minOccurs" value)

def readMaxOccurs (e : Element) : Except Misreading Schema.MaxOccurs :=
  match e.attribute? "maxOccurs" with
  | none => .ok (.bounded 1)
  | some value =>
    if trim value == "unbounded" then .ok .unbounded
    else
      match count? (trim value) with
      | some n => .ok (.bounded n)
      | none => misread e (.invalidAttribute "maxOccurs" value)

/-- How often a particle occurs: once, unless the attributes say otherwise. -/
def readOccurs (e : Element) : Except Misreading Schema.Occurs := do
  let min ← readMinOccurs e
  let max ← readMaxOccurs e
  match max with
  | .bounded n =>
    if n < min then misread e (.invalidAttribute "maxOccurs" (toString n)) else return ⟨min, max⟩
  | .unbounded => return ⟨min, max⟩

/-- The documentation of a construct; a blank text is none. -/
def documentation? (e : Element) : Option String :=
  let inSchema := (e.child? Namespaces.schema "annotation").bind
    (·.child? Namespaces.schema "documentation")
  let element := inSchema.or (e.child? Namespaces.wsdl "documentation")
  (element.map (trim ·.text)).filter (· ≠ "")

end SoapBindings
