import SoapBindings.QName
import SoapBindings.Text.Blank
import SoapBindings.Text.Split

/-!
# Element trees

An element with resolved names. Every element keeps the namespace declarations in effect where it
stands, nearest first, because values such as `type="tns:Order"` are names as well and are resolved
long after the tree is built. An element's own declarations are the front of its scope, so the scope
of a child ends in that of its parent.
-/

set_option autoImplicit false

namespace SoapBindings.Xml

open Text

/-- A name for a namespace; the absent one is the default namespace. -/
abbrev Declaration := Option String × String

/-- The declarations in effect at a place, nearest first. -/
abbrev Scope := List Declaration

/-- The namespace bound to a name. The name `xml` is bound everywhere and cannot be bound anew. -/
def Scope.find? (scope : Scope) (name : Option String) : Option String :=
  if name = some "xml" then some Namespaces.xml else scope.lookup name

structure Attribute where
  /-- Only an attribute with a colon in its name has a namespace. -/
  ns : Option String
  name : String
  value : String
  deriving DecidableEq, Repr

structure Element where
  ns : Option String
  name : String
  /-- The attributes that are not namespace declarations. -/
  attributes : List Attribute
  children : List Element
  /-- The text between the children without the white space at its two ends. -/
  text : String
  /-- The byte offset of the start tag. -/
  position : Nat
  scope : Scope
  deriving Repr, Inhabited

namespace Element

def is (e : Element) (ns name : String) : Bool := e.name == name && e.ns == some ns

/-- The value of an attribute in no namespace. -/
def attribute? (e : Element) (name : String) : Option String :=
  (e.attributes.find? fun a => a.ns.isNone && a.name == name).map (·.value)

/-- The value of an attribute of a namespace. -/
def attributeIn? (e : Element) (ns name : String) : Option String :=
  (e.attributes.find? fun a => a.ns == some ns && a.name == name).map (·.value)

def childrenIn (e : Element) (ns : String) : List Element :=
  e.children.filter (·.ns == some ns)

def child? (e : Element) (ns name : String) : Option Element :=
  e.children.find? (·.is ns name)

/-- The name that a value stands for where the element stands, or the name before the colon if it is
bound to nothing. A value without a colon is in the default namespace. -/
def resolve (e : Element) (value : String) : Except String QName :=
  let value := trim value
  match splitFirst ':' value.toList with
  | some (bound, localName) =>
    let bound := String.ofList bound
    match e.scope.find? (some bound) with
    | some ns => .ok ⟨ns, String.ofList localName⟩
    | none => .error bound
  | none => .ok ⟨(e.scope.find? none).getD "", value⟩

end Element

end SoapBindings.Xml
