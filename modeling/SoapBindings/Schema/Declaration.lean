import SoapBindings.QName

/-!
# Schema declarations

What one schema declares, as far as it matters for bindings. Names in it are resolved, so nothing
here depends on the prefixes of the document, but no name is looked up: whether anything has that
name is a question about all documents together.

A type may be declared where it is used and then has no name; types, groups, elements and
attributes therefore contain one another.
-/

set_option autoImplicit false

namespace SoapBindings.Schema

/-- Whether names of local declarations are in the namespace of their schema. -/
inductive Form where
  | unqualified
  | qualified
  deriving DecidableEq, Repr, Inhabited

inductive MaxOccurs where
  | bounded (n : Nat)
  | unbounded
  deriving DecidableEq, Repr, Inhabited

/-- How often a particle may occur. -/
structure Occurs where
  min : Nat
  max : MaxOccurs
  deriving DecidableEq, Repr, Inhabited

namespace Occurs

def once : Occurs := ⟨1, .bounded 1⟩

/-- It can occur more than once. -/
def isRepeated (o : Occurs) : Bool :=
  match o.max with
  | .bounded n => n > 1
  | .unbounded => true

/-- It can be absent. -/
def isOptional (o : Occurs) : Bool := o.min == 0

end Occurs

/-- A facet that is not an enumeration. -/
structure Facet where
  name : String
  value : String
  deriving DecidableEq, Repr, Inhabited

structure Facets where
  /-- The literals of an enumeration in their order. -/
  enumeration : List String
  others : List Facet
  deriving DecidableEq, Repr, Inhabited

inductive Compositor where
  | sequence
  | choice
  | all
  deriving DecidableEq, Repr, Inhabited

/-- Whether an attribute may or must be there. -/
inductive Usage where
  | optional
  | required
  | prohibited
  deriving DecidableEq, Repr, Inhabited

mutual

/-- A type where it is used: by its name, or declared in place. -/
inductive TypeUse where
  | named (name : QName)
  | anonymous (type : TypeDecl)

inductive TypeDecl where
  | simple (type : SimpleType)
  | complex (type : ComplexType)

structure SimpleType where
  name : Option String
  documentation : Option String
  derivation : Derivation

/-- How a simple type comes from others. -/
inductive Derivation where
  | restriction (base : TypeUse) (facets : Facets)
  | list (item : TypeUse)
  | union (members : List TypeUse)

structure ComplexType where
  name : Option String
  documentation : Option String
  isAbstract : Bool
  mixed : Bool
  content : Content
  attributes : List AttributeItem
  /-- Attributes that are not declared are allowed. -/
  anyAttribute : Bool
  /-- The type of the items if the type is an encoded array. -/
  arrayItem : Option QName

inductive Content where
  | empty
  | group (group : ModelGroup)
  | extension (base : QName) (group : Option ModelGroup)
  | restriction (base : QName) (group : Option ModelGroup)
  | simpleExtension (base : QName)
  | simpleRestriction (base : QName) (facets : Facets)

structure ModelGroup where
  compositor : Compositor
  occurs : Occurs
  items : List GroupItem

inductive GroupItem where
  | element (decl : ElementDecl) (occurs : Occurs)
  /-- An element that is declared at the top of some schema. -/
  | elementRef (name : QName) (occurs : Occurs)
  | group (group : ModelGroup)
  | groupRef (name : QName) (occurs : Occurs)
  /-- An element of any name. -/
  | any (occurs : Occurs)

structure ElementDecl where
  name : String
  /-- The namespace of the name; local names may have none. -/
  ns : Option String
  /-- Without a type the content is free. -/
  type : Option TypeUse
  nillable : Bool
  isAbstract : Bool
  substitutionGroup : Option QName
  default : Option String
  fixed : Option String
  documentation : Option String

inductive AttributeItem where
  | own (decl : AttributeDecl)
  | ref (name : QName) (usage : Usage)
  | groupRef (name : QName)

structure AttributeDecl where
  name : String
  ns : Option String
  /-- Without a type the value is any simple one. -/
  type : Option TypeUse
  usage : Usage
  default : Option String
  fixed : Option String

end

instance : Inhabited ModelGroup := ⟨⟨.sequence, .once, []⟩⟩

def TypeDecl.name : TypeDecl → Option String
  | .simple t => t.name
  | .complex t => t.name

structure GroupDecl where
  name : String
  group : ModelGroup

structure AttributeGroupDecl where
  name : String
  attributes : List AttributeItem

/-- How a document is asked for by another. -/
inductive ImportKind where
  | imported
  | included
  /-- Read like an inclusion; what is redefined stays as it is. -/
  | redefined
  | wsdlImported
  deriving DecidableEq, Repr

/-- A reference to another document. -/
structure Import where
  kind : ImportKind
  /-- The namespace that is imported; of an inclusion, that of the including schema. -/
  ns : Option String
  location : Option String
  /-- The namespace of the schema that holds the reference. -/
  importer : String
  deriving DecidableEq, Repr

/-- One schema of a document. -/
structure Declarations where
  targetNamespace : String
  elementForm : Form
  attributeForm : Form
  imports : List Import
  types : List TypeDecl
  elements : List ElementDecl
  attributes : List AttributeDecl
  groups : List GroupDecl
  attributeGroups : List AttributeGroupDecl

end SoapBindings.Schema
