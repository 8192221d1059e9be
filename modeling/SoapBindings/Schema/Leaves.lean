import SoapBindings.Graph.Basic
import SoapBindings.Schema.Site

/-!
# Leaves of content models

A content model is a tree of groups; what a type contains in the end are its leaves: elements,
wildcards and attributes, in the order of the document. References to groups are replaced by what
the group holds. Each leaf gets the bounds that all groups around it allow together: bounds
multiply, and what stands in a choice may always be absent.

A group that refers to itself adds nothing when it is come to again within itself, so the groups
that are not being expanded bound the depth. What a leaf says about its type is a `Use`: it is not
resolved yet, because types declared in place are named later.
-/

set_option autoImplicit false

namespace SoapBindings.Schema

/-- The largest count, which is that of 32 bits. -/
def maxCount : Nat := 4294967295

/-- The product of two counts, or the largest count if that is less. -/
def timesCount (a b : Nat) : Nat := min (a * b) maxCount

/-- The bounds of a member in a group, given the bounds of the group. -/
def Occurs.within (member group : Occurs) (optional : Bool) : Occurs where
  min := if optional then 0 else timesCount group.min member.min
  max := match group.max, member.max with
    | .bounded a, .bounded b => .bounded (timesCount a b)
    | _, _ => .unbounded

/-- A type where it is used. -/
inductive Use where
  | builtin (type : Builtin)
  | named (reference : Reference)
  /-- A type declared in place, with the path that it is named by. -/
  | inline (site : Site) (path : String)
  /-- What would tell the type is not declared. -/
  | missing (reference : Reference)
  deriving DecidableEq, Repr

/-- The declaration around a leaf: where it stands, and the path that types in it begin with. -/
structure Enclosure where
  site : Site
  path : String
  deriving DecidableEq, Repr

namespace Enclosure

/-- The declaration itself, at the top of a schema. -/
def top (kind : DeclarationKind) (name : QName) : Enclosure := ⟨.top kind name, name.localName⟩

/-- The step `i` into the declaration; the path stays. -/
def step (e : Enclosure) (i : Nat) : Enclosure := { e with site := e.site.step i }

/-- The step `i` into the declaration, with a segment that names what stands there. -/
def child (e : Enclosure) (i : Nat) (segment : String) : Enclosure :=
  ⟨e.site.step i, e.path ++ "/" ++ segment⟩

end Enclosure

/-- The use that a declaration makes of a type. Without a type it is `absent`; a type declared in
place is known by where it stands. -/
def Use.ofTypeUse (absent : Builtin) (place : Enclosure) (context : String) : Option TypeUse → Use
  | none => builtin absent
  | some (.named name) => named ⟨name, .type, context⟩
  | some (.anonymous _) => inline place.site place.path

structure Leaf where
  name : String
  ns : Option String
  kind : ParticleKind
  use : Use
  occurs : Occurs
  nillable : Bool
  documentation : Option String
  deriving DecidableEq, Repr

/-- A leaf, or a reference to a group that is not declared. -/
inductive Piece where
  | leaf (leaf : Leaf)
  | missing (reference : Reference)
  deriving DecidableEq, Repr

namespace Piece

def leaf? : Piece → Option Leaf
  | leaf l => some l
  | missing _ => none

def use : Piece → Use
  | leaf l => l.use
  | missing r => .missing r

end Piece

namespace Symbols

/-- The use that an element at the top of a schema makes of its type. -/
def elementUse (name : QName) (decl : ElementDecl) : Use :=
  .ofTypeUse .anyType (.top .element name) ("element " ++ name.toText) decl.type

/-- The leaf of a reference to an element at the top of a schema. -/
def elementLeaf (s : Symbols) (context : String) (name : QName) (occurs : Occurs) : Leaf :=
  match s.elements[name]? with
  | some d =>
    ⟨name.localName, some name.ns, .element, elementUse name d.decl, occurs, d.decl.nillable,
      d.decl.documentation⟩
  | none =>
    ⟨name.localName, some name.ns, .element, .missing ⟨name, .element, context⟩, occurs, false,
      none⟩

/-- The groups that a content model may still be expanded with. -/
abbrev Groups := NameTable (Declared GroupDecl)

/-- The leaves of the items of one group from index `i` on. The group has the bounds `occurs`, all
groups around it counted; `optional` holds within a choice. -/
def itemPieces (s : Symbols) (context : String) (available : Groups) (occurs : Occurs)
    (optional : Bool) (place : Enclosure) (i : Nat) : List GroupItem → List Piece
  | [] => []
  | .element d own :: rest =>
    .leaf ⟨d.name, d.ns, .element, .ofTypeUse .anyType (place.child i d.name) context d.type,
        own.within occurs optional, d.nillable, d.documentation⟩ ::
      itemPieces s context available occurs optional place (i + 1) rest
  | .elementRef name own :: rest =>
    .leaf (s.elementLeaf context name (own.within occurs optional)) ::
      itemPieces s context available occurs optional place (i + 1) rest
  | .group ⟨compositor, own, items⟩ :: rest =>
    itemPieces s context available (own.within occurs optional)
        (optional || compositor == .choice) (place.step i) 0 items ++
      itemPieces s context available occurs optional place (i + 1) rest
  | .groupRef name own :: rest =>
    (match h : available[name]? with
      | some d =>
        have : (available.erase name).size < available.size := size_erase_lt_of_getElem? h
        let group := d.decl.group
        let around := own.within occurs optional
        itemPieces s context (available.erase name) (group.occurs.within around optional)
          (optional || group.compositor == .choice) ⟨.top .group name, d.decl.name⟩ 0 group.items
      | none => if s.groups.contains name then [] else [.missing ⟨name, .group, context⟩]) ++
      itemPieces s context available occurs optional place (i + 1) rest
  | .any own :: rest =>
    .leaf ⟨"any", none, .element, .builtin .anyType, own.within occurs optional, false, none⟩ ::
      itemPieces s context available occurs optional place (i + 1) rest
termination_by items => (available.size, sizeOf items)

/-- A reference to a group, without the proof that what is available becomes less. -/
theorem itemPieces_cons_groupRef (s : Symbols) (context : String) (available : Groups)
    (occurs : Occurs) (optional : Bool) (place : Enclosure) (i : Nat) (name : QName) (own : Occurs)
    (rest : List GroupItem) :
    s.itemPieces context available occurs optional place i (.groupRef name own :: rest) =
      (match available[name]? with
        | some d => s.itemPieces context (available.erase name)
            (d.decl.group.occurs.within (own.within occurs optional) optional)
            (optional || d.decl.group.compositor == .choice) ⟨.top .group name, d.decl.name⟩ 0
            d.decl.group.items
        | none => if s.groups.contains name then [] else [.missing ⟨name, .group, context⟩]) ++
      s.itemPieces context available occurs optional place (i + 1) rest := by
  rw [itemPieces]
  congr 1
  split
  · next d hd => simp only [hd]
  · next absent => simp only [absent]

/-- The leaves of a group. -/
def groupPieces (s : Symbols) (context : String) (place : Enclosure) (g : ModelGroup) :
    List Piece :=
  s.itemPieces context s.groups (g.occurs.within .once false) (g.compositor == .choice) place 0
    g.items

/-- An attribute is there once, or perhaps not at all. -/
def attributeOccurs (usage : Usage) : Occurs := ⟨if usage == .required then 1 else 0, .bounded 1⟩

def attributeLeaf (context : String) (place : Enclosure) (d : AttributeDecl) (usage : Usage) :
    Leaf :=
  ⟨d.name, d.ns, .attr, .ofTypeUse .anySimpleType place context d.type, attributeOccurs usage,
    false, none⟩

/-- The leaf of a reference to an attribute at the top of a schema. Attributes of the built-in
namespaces are texts. -/
def attributeRefLeaf (s : Symbols) (context : String) (name : QName) (usage : Usage) : Leaf :=
  match s.attributes[name]? with
  | some d =>
    attributeLeaf context ⟨.top .attr name, "@" ++ name.localName⟩ d.decl usage
  | none =>
    let use := if Namespaces.isBuiltin name.ns then .builtin .string
      else .missing ⟨name, .attr, context⟩
    ⟨name.localName, some name.ns, .attr, use, attributeOccurs usage, false, none⟩

abbrev AttributeGroups := NameTable (Declared AttributeGroupDecl)

/-- The leaves of attributes from index `i` on. An attribute that is prohibited is none. -/
def attributePieces (s : Symbols) (context : String) (available : AttributeGroups)
    (place : Enclosure) (i : Nat) : List AttributeItem → List Piece
  | [] => []
  | .own d :: rest =>
    (if d.usage == .prohibited then []
      else [.leaf (attributeLeaf context (place.child i ("@" ++ d.name)) d d.usage)]) ++
      attributePieces s context available place (i + 1) rest
  | .ref name usage :: rest =>
    (if usage == .prohibited then [] else [.leaf (s.attributeRefLeaf context name usage)]) ++
      attributePieces s context available place (i + 1) rest
  | .groupRef name :: rest =>
    (match h : available[name]? with
      | some d =>
        have : (available.erase name).size < available.size := size_erase_lt_of_getElem? h
        attributePieces s context (available.erase name) ⟨.top .attributeGroup name, d.decl.name⟩ 0
          d.decl.attributes
      | none =>
        if s.attributeGroups.contains name then []
        else [.missing ⟨name, .attributeGroup, context⟩]) ++
      attributePieces s context available place (i + 1) rest
termination_by items => (available.size, sizeOf items)

theorem attributePieces_cons_groupRef (s : Symbols) (context : String) (available : AttributeGroups)
    (place : Enclosure) (i : Nat) (name : QName) (rest : List AttributeItem) :
    s.attributePieces context available place i (.groupRef name :: rest) =
      (match available[name]? with
        | some d => s.attributePieces context (available.erase name)
            ⟨.top .attributeGroup name, d.decl.name⟩ 0 d.decl.attributes
        | none =>
          if s.attributeGroups.contains name then []
          else [.missing ⟨name, .attributeGroup, context⟩]) ++
      s.attributePieces context available place (i + 1) rest := by
  rw [attributePieces]
  congr 1
  split
  · next d hd => simp only [hd]
  · next absent => simp only [absent]

/-! ## What a type uses -/

/-- The encoded array, whose restrictions say what they are arrays of. -/
def isEncodedArray (name : QName) : Bool :=
  name.localName == "Array" &&
    (name.ns == Namespaces.soap11Encoding || name.ns == Namespaces.soap12Encoding)

/-- The type is an encoded array; nothing but its item type counts. -/
def isArray (t : ComplexType) : Bool :=
  match t.content with
  | .restriction base _ => isEncodedArray base
  | _ => false

/-- The group in the content of a type. -/
def contentGroup? (t : ComplexType) : Option ModelGroup :=
  match t.content with
  | .group g => some g
  | .extension _ g => g
  | .restriction base g => if isEncodedArray base then none else g
  | _ => none

/-- The elements of a complex type. -/
def elementsOf (s : Symbols) (context : String) (place : Enclosure) (t : ComplexType) :
    List Piece :=
  ((contentGroup? t).map (s.groupPieces context (place.step 0))).getD []

/-- The attributes of a complex type. -/
def attributesOf (s : Symbols) (context : String) (place : Enclosure) (t : ComplexType) :
    List Piece :=
  if isArray t then []
  else s.attributePieces context s.attributeGroups (place.step 1) 0 t.attributes

/-- The type that a complex type comes from, or the type of the items of an array. -/
def origin? (context : String) (t : ComplexType) : Option Use :=
  match t.content with
  | .empty | .group _ => none
  | .restriction base _ =>
    if isEncodedArray base then
      some (match t.arrayItem with
        | some item => .named ⟨item, .type, context⟩
        | none => .builtin .anyType)
    else some (.named ⟨base, .type, context⟩)
  | .extension base _ | .simpleExtension base | .simpleRestriction base _ =>
    some (.named ⟨base, .type, context⟩)

/-- The type that a simple type comes from. A union is read as a text. -/
def simpleOrigin (context : String) (place : Enclosure) (t : SimpleType) : Use :=
  match t.derivation with
  | .restriction base _ => .ofTypeUse .anySimpleType (place.child 0 "base") context (some base)
  | .list item => .ofTypeUse .anySimpleType (place.child 0 "item") context (some item)
  | .union _ => .builtin .string

/-- All that a type uses, in order. -/
def uses (s : Symbols) (context : String) (place : Enclosure) : TypeDecl → List Use
  | .simple t => [simpleOrigin context place t]
  | .complex t =>
    (origin? context t).toList ++
      (s.elementsOf context place t ++ s.attributesOf context place t).map (·.use)

end Symbols

end SoapBindings.Schema
