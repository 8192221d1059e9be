import SoapBindings.Cpp.Class
import SoapBindings.Cpp.Scope
import SoapBindings.Cpp.Words
import SoapBindings.Graph.Order

/-!
# Classes of types

Each type of an ordered graph gets a class, and a class name that no other class has. A complex type
has a member for each of its particles, a simple type one for its value, a list one for its entries.
The members of a class get names that differ from one another, from their setters, from the methods
that every class has, and from the class.
-/

set_option autoImplicit false

namespace SoapBindings.Cpp

/-- Work that takes names of a scope. -/
abbrev Naming := StateM Scope

/-- Takes a name of the scope. -/
def takeName (candidate code : String) : Naming String := fun s => s.take candidate code

/-- What the classes of one unit are generated from. -/
structure ClassContext where
  types : TypeTable
  codes : NamespaceCodes
  /-- The names of the classes of types. -/
  classNames : Std.ExtTreeMap TypeId String

namespace ClassContext

/-- The code of a namespace, or that of the empty one for a namespace without a code. -/
def code (c : ClassContext) (ns : String) : String := (c.codes.code? ns).getD "ns"

/-- The type of the values of a reference. -/
def valueType? (c : ClassContext) : TypeRef → Option ValueType
  | .builtin b => some ⟨b.cppType, .builtin b⟩
  | .node id =>
    c.classNames[id]?.map fun name =>
      match c.types[id]? with
      | some ⟨.enumeration .., _, _, _, _⟩ => ⟨name, .enumeration⟩
      | _ => ⟨name, .object⟩
  | .unresolved _ => none

end ClassContext

/-- The name that the class of a type would like to have: that of the type, or all names on the path
to it. -/
def classCandidate (id : TypeId) : String :=
  match id with
  | .named q => upperCamel q.localName
  | .anonymous _ =>
    String.join (id.segments.map fun s => upperCamel (String.ofList (TypeId.plainSegment s)))

/-- Takes class names for types in their order. -/
def takeClassNames (codes : NamespaceCodes) (ids : List TypeId) :
    Naming (Std.ExtTreeMap TypeId String) :=
  ids.foldlM (fun names id => do
    let name ← takeName (classCandidate id) ((codes.code? id.ns).getD "ns")
    return names.insert id name) ∅

/-- The names that every class of a type uses itself. -/
def codecNames : List String := ["serialize", "deserialize"]

def enumerationNames : List String := codecNames ++ ["toString", "fromString", "type", "Type"]

namespace ClassContext

/-- The role of a particle among the members. -/
def roleOf : ParticleKind → MemberRole
  | .element => .element
  | .attr => .attr

/-- The member of a particle; one whose type is not resolved has none. -/
def member? (c : ClassContext) (code : String) (p : Particle) : Naming (Option Member) :=
  match c.valueType? p.type with
  | none => return none
  | some value => do
    let code := (p.ns.map c.code).getD code
    let name ← takeName (lowerCamel p.name) code
    let setter ← takeName ("set" ++ upperCamel name) code
    return some {
      name := name
      setter := setter
      xml := ⟨p.name, p.ns⟩
      role := roleOf p.kind
      value := value
      storage := .of p.isOptional p.isRepeated (p.holding == .byReference)
      documentation := p.documentation }

/-- The members of some particles. -/
def members (c : ClassContext) (code : String) (ps : List Particle) : Naming (List Member) := do
  return (← ps.mapM (c.member? code)).filterMap id

/-- A particle for what stands between the tags of an element. -/
def contentParticle (name : String) (type : TypeRef) (occurs : Schema.Occurs) : Particle :=
  ⟨name, none, .element, type, occurs, false, .byValue, none⟩

/-- The member that holds the text of an element. -/
def contentMember (c : ClassContext) (code name : String) (type : TypeRef)
    (occurs : Schema.Occurs) : Naming (List Member) := do
  let member ← c.member? code (contentParticle name type occurs)
  return member.toList.map ({ · with role := .content })

/-- The scope of the members of a class. -/
def memberScope (reserved : List String) (className code : String) : Scope :=
  ((Scope.reserving reserved).take className code).2

/-- The members of a type: what stands between its tags, then its elements and attributes. -/
def membersOf (c : ClassContext) (code : String) (n : TypeNode) : Naming (List Member) :=
  match n.kind with
  | .simple base _ => c.contentMember code "value" base .once
  | .list item => c.contentMember code "entries" item ⟨0, .unbounded⟩
  | .complex content .. => do
    let value ← match content with
      | .value type => c.contentMember code "value" type .once
      | _ => pure []
    return value ++ (← c.members code n.members)
  | .enumeration .. => return []

/-- The class that a type derives from. -/
def baseClass? (c : ClassContext) (n : TypeNode) : Option String :=
  match n.base with
  | some ⟨.node id, .extension⟩ => c.classNames[id]?
  | _ => none

/-- The name of a literal. -/
def enumeratorCandidate (literal : String) : String :=
  let words := upperCamel literal
  if words.isEmpty then "Value" else words

def enumerators (code : String) (literals : List String) : Naming (List Enumerator) :=
  literals.mapM fun literal => do
    return ⟨← takeName (enumeratorCandidate literal) code, literal⟩

/-- The name of a type that has one. -/
def xmlName? : TypeId → Option XmlName
  | .named q => some ⟨q.localName, some q.ns⟩
  | .anonymous _ => none

def objectClass (c : ClassContext) (kind : ObjectKind) (base : Option String) (id : TypeId)
    (name : String) (n : TypeNode) : ObjectClass :=
  let code := c.code id.ns
  { name := name
    kind := kind
    xml := xmlName? id
    base := base
    members := (c.membersOf code n (memberScope codecNames name code)).1
    documentation := n.documentation }

def enumerationClass (c : ClassContext) (id : TypeId) (name : String) (n : TypeNode)
    (literals : List String) : EnumerationClass :=
  let code := c.code id.ns
  { name := name
    xml := xmlName? id
    values := (enumerators code literals (memberScope enumerationNames name code)).1
    documentation := n.documentation }

/-- The class of a type. -/
def typeClass? (c : ClassContext) (id : TypeId) : Option Class :=
  match c.types[id]?, c.classNames[id]? with
  | some n, some name =>
    some (match n.kind with
      | .complex .. => .object (c.objectClass .complex (c.baseClass? n) id name n)
      | .simple .. => .object (c.objectClass .wrapper none id name n)
      | .list _ => .object (c.objectClass .list none id name n)
      | .enumeration _ literals => .enumeration (c.enumerationClass id name n literals))
  | _, _ => none

end ClassContext

end SoapBindings.Cpp
