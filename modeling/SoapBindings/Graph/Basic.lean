import SoapBindings.Builtin
import SoapBindings.Locator
import SoapBindings.Schema.Declaration

/-!
# Type graphs

All types that a set of documents declares, named or not, and the elements at the top of its
schemas. Types refer to one another by their identity alone, so types that contain themselves need
no special shape. Each node is stored under its identity and holds no second copy of it.

A type without a name is known by the path of the declarations around it, for instance
`Order/item`, in the namespace of their schema.
-/

set_option autoImplicit false

namespace SoapBindings

inductive TypeId where
  | named (name : QName)
  /-- The path stands in place of a local name. -/
  | anonymous (path : QName)
  deriving DecidableEq, Hashable, Repr, Inhabited

namespace TypeId

/-- The name, or the path in the namespace of its schema. -/
def qname : TypeId → QName
  | named q | anonymous q => q

def isAnonymous : TypeId → Bool
  | named _ => false
  | anonymous _ => true

/-- Named types stand before anonymous ones. -/
def rank : TypeId → Nat
  | named _ => 0
  | anonymous _ => 1

instance : Ord TypeId where
  compare := compareLex (compareOn rank) (compareOn qname)

instance : Std.TransOrd TypeId :=
  inferInstanceAs (Std.TransCmp (compareLex (compareOn rank) (compareOn qname)))

instance : Std.LawfulEqOrd TypeId where
  compare_self := Std.ReflCmp.compare_self
  eq_of_compare := by
    intro a b h
    obtain ⟨rank, name⟩ := compareLex_eq_eq.mp h
    have rank : a.rank = b.rank := Std.LawfulEqCmp.eq_of_compare rank
    have name : a.qname = b.qname := Std.LawfulEqCmp.eq_of_compare name
    cases a <;> cases b <;> simp_all [TypeId.rank, qname]

def ns (id : TypeId) : String := id.qname.ns

/-- The segments of the path of an anonymous type. -/
def segments (id : TypeId) : List (List Char) :=
  Text.splitWhere (· == '/') id.qname.localName.toList

/-- A segment without the sign of an attribute. -/
def plainSegment (segment : List Char) : List Char := segment.dropWhile (· == '@')

/-- The name, or the last segment of the path. -/
def localName : TypeId → String
  | named q => q.localName
  | id@(anonymous _) => String.ofList (plainSegment (id.segments.getLast?.getD []))

def toText : TypeId → String
  | named q => q.toText
  | anonymous q => q.toText ++ " (anonymous)"

end TypeId

inductive TypeRef where
  | node (id : TypeId)
  | builtin (type : Builtin)
  /-- A type that no document declares. -/
  | unresolved (name : QName)
  deriving DecidableEq, Repr, Inhabited

/-- The node of the graph that is referred to. -/
def TypeRef.node? : TypeRef → Option TypeId
  | node id => some id
  | _ => none

def TypeRef.unresolved? : TypeRef → Option QName
  | unresolved name => some name
  | _ => none

/-- How a member holds its value. -/
inductive Holding where
  /-- Within its owner, so its type has to be complete before. -/
  | byValue
  /-- At the end of a pointer; a type that is declared ahead is enough. -/
  | byReference
  deriving DecidableEq, Repr, Inhabited

inductive ParticleKind where
  | element
  | attr
  deriving DecidableEq, Repr, Inhabited

/-- An element or attribute that a type contains. -/
structure Particle where
  name : String
  /-- The namespace of the name; local names may have none. -/
  ns : Option String
  kind : ParticleKind
  type : TypeRef
  occurs : Schema.Occurs
  nillable : Bool
  holding : Holding
  documentation : Option String
  deriving DecidableEq, Repr

namespace Particle

/-- It can be absent, or there without a value. -/
def isOptional (p : Particle) : Bool := p.occurs.isOptional || p.nillable

def isRepeated (p : Particle) : Bool := p.occurs.isRepeated

end Particle

/-- The content of a complex type. -/
inductive TypeContent where
  | empty
  | sequence (particles : List Particle)
  | choice (particles : List Particle)
  | all (particles : List Particle)
  /-- A text of some simple type. -/
  | value (type : TypeRef)
  deriving DecidableEq, Repr, Inhabited

namespace TypeContent

def particles : TypeContent → List Particle
  | sequence ps | choice ps | all ps => ps
  | empty | value _ => []

def mapParticles (f : List Particle → List Particle) : TypeContent → TypeContent
  | sequence ps => sequence (f ps)
  | choice ps => choice (f ps)
  | all ps => all (f ps)
  | empty => empty
  | value r => value r

end TypeContent

inductive TypeKind where
  /-- A restriction of a simple type. -/
  | simple (base : TypeRef) (facets : List Schema.Facet)
  /-- Some texts of a simple type, in their order. -/
  | enumeration (base : TypeRef) (values : List String)
  /-- Values separated by white space. -/
  | list (item : TypeRef)
  | complex (content : TypeContent) (attributes : List Particle) (mixed anyAttribute : Bool)
  deriving DecidableEq, Repr, Inhabited

/-- How a complex type comes from its base. -/
inductive DerivationKind where
  /-- It adds members to those of the base. -/
  | extension
  /-- It states its members anew. -/
  | restriction
  deriving DecidableEq, Repr, Inhabited

structure BaseType where
  type : TypeRef
  derivation : DerivationKind
  deriving DecidableEq, Repr

structure TypeNode where
  kind : TypeKind
  base : Option BaseType
  isAbstract : Bool
  documentation : Option String
  /-- The declaring document. -/
  origin : Locator
  deriving DecidableEq, Repr

/-- What a type needs another type for. -/
inductive Need where
  | base
  /-- A member by its position, elements before attributes. -/
  | member (position : Nat) (holding : Holding)
  | item
  | simpleBase
  | value
  deriving DecidableEq, Repr

/-- The other type has to be complete. -/
def Need.isByValue : Need → Bool
  | member _ .byReference => false
  | _ => true

namespace TypeNode

/-- The elements and then the attributes. -/
def members (n : TypeNode) : List Particle :=
  match n.kind with
  | .complex content attributes _ _ => content.particles ++ attributes
  | _ => []

/-- What the node needs of other types. The base of a restriction is not needed, as a restriction
restates its members. -/
def needs (n : TypeNode) : List (Need × TypeRef) :=
  let base := match n.base with
    | some ⟨type, .extension⟩ => [(.base, type)]
    | _ => []
  let own := match n.kind with
    | .simple base _ | .enumeration base _ => [(.simpleBase, base)]
    | .list item => [(.item, item)]
    | .complex (.value type) _ _ _ => [(.value, type)]
    | .complex .. => []
  base ++ own ++ n.members.mapIdx fun i p => (.member i p.holding, p.type)

/-- All types that the node refers to: what it needs, and its base in any case. -/
def references (n : TypeNode) : List TypeRef :=
  n.needs.map (·.2) ++ n.base.toList.map (·.type)

/-- The names in the node that no document declares. -/
def unresolved (n : TypeNode) : List QName :=
  let restated := match n.base with
    | some ⟨type, .restriction⟩ => [type]
    | _ => []
  (n.needs.map (·.2) ++ restated).filterMap (·.unresolved?)

/-- Changes the way in which one member holds its value. -/
def hold (n : TypeNode) (position : Nat) (holding : Holding) : TypeNode :=
  match n.kind with
  | .complex content attributes mixed anyAttribute =>
    let change (p : Particle) : Particle := { p with holding := holding }
    let count := content.particles.length
    let kind := if position < count then
        .complex (content.mapParticles (·.modify position change)) attributes mixed anyAttribute
      else .complex content (attributes.modify (position - count) change) mixed anyAttribute
    { n with kind := kind }
  | _ => n

end TypeNode

/-- An element at the top of a schema. -/
structure ElementNode where
  type : TypeRef
  nillable : Bool
  isAbstract : Bool
  substitutionGroup : Option QName
  documentation : Option String
  deriving DecidableEq, Repr

/-- The types of a graph by identity. -/
abbrev TypeTable := Std.ExtTreeMap TypeId TypeNode

structure TypeGraph where
  types : TypeTable
  elements : NameTable ElementNode

end SoapBindings
