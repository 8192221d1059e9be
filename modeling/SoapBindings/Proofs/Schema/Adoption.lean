import SoapBindings.Document.Basic

/-!
# Declarations that come into a namespace

A schema without a namespace of its own takes that of the schema that includes it. Here this is said
of what has been read: `adopt` puts a namespace in the place of the empty one in every name that
stands anywhere in a declaration. A name without a namespace, as local elements and attributes may
have one, stays as it is, and so does the namespace that an import asks for.
-/

set_option autoImplicit false

namespace SoapBindings

/-- A namespace in the place of the empty one. -/
def adopted (ns other : String) : String := if other.isEmpty then ns else other

def QName.adopt (ns : String) (q : QName) : QName := { q with ns := adopted ns q.ns }

namespace Schema

mutual

def TypeUse.adopt (ns : String) : TypeUse → TypeUse
  | .named name => .named (name.adopt ns)
  | .anonymous t => .anonymous (t.adopt ns)

def TypeDecl.adopt (ns : String) : TypeDecl → TypeDecl
  | .simple t => .simple (t.adopt ns)
  | .complex t => .complex (t.adopt ns)

def SimpleType.adopt (ns : String) : SimpleType → SimpleType
  | ⟨name, documentation, derivation⟩ => ⟨name, documentation, derivation.adopt ns⟩

def Derivation.adopt (ns : String) : Derivation → Derivation
  | .restriction base facets => .restriction (base.adopt ns) facets
  | .list item => .list (item.adopt ns)
  | .union members => .union (adoptUses ns members)

def adoptUses (ns : String) : List TypeUse → List TypeUse
  | [] => []
  | use :: uses => use.adopt ns :: adoptUses ns uses

def adoptUse (ns : String) : Option TypeUse → Option TypeUse
  | none => none
  | some use => some (use.adopt ns)

def ComplexType.adopt (ns : String) : ComplexType → ComplexType
  | ⟨name, documentation, isAbstract, mixed, content, attributes, anyAttribute, arrayItem⟩ =>
    ⟨name, documentation, isAbstract, mixed, content.adopt ns, adoptAttributes ns attributes,
      anyAttribute, arrayItem.map (·.adopt ns)⟩

def Content.adopt (ns : String) : Content → Content
  | .empty => .empty
  | .group g => .group (g.adopt ns)
  | .extension base g => .extension (base.adopt ns) (adoptGroup ns g)
  | .restriction base g => .restriction (base.adopt ns) (adoptGroup ns g)
  | .simpleExtension base => .simpleExtension (base.adopt ns)
  | .simpleRestriction base facets => .simpleRestriction (base.adopt ns) facets

def adoptGroup (ns : String) : Option ModelGroup → Option ModelGroup
  | none => none
  | some g => some (g.adopt ns)

def ModelGroup.adopt (ns : String) : ModelGroup → ModelGroup
  | ⟨compositor, occurs, items⟩ => ⟨compositor, occurs, adoptItems ns items⟩

def adoptItems (ns : String) : List GroupItem → List GroupItem
  | [] => []
  | item :: items => item.adopt ns :: adoptItems ns items

def GroupItem.adopt (ns : String) : GroupItem → GroupItem
  | .element decl occurs => .element (decl.adopt ns) occurs
  | .elementRef name occurs => .elementRef (name.adopt ns) occurs
  | .group g => .group (g.adopt ns)
  | .groupRef name occurs => .groupRef (name.adopt ns) occurs
  | .any occurs => .any occurs

def ElementDecl.adopt (ns : String) : ElementDecl → ElementDecl
  | ⟨name, own, type, nillable, isAbstract, substitutionGroup, default, fixed, documentation⟩ =>
    ⟨name, own.map (adopted ns), adoptUse ns type, nillable, isAbstract,
      substitutionGroup.map (·.adopt ns), default, fixed, documentation⟩

def adoptAttributes (ns : String) : List AttributeItem → List AttributeItem
  | [] => []
  | item :: items => item.adopt ns :: adoptAttributes ns items

def AttributeItem.adopt (ns : String) : AttributeItem → AttributeItem
  | .own decl => .own (decl.adopt ns)
  | .ref name usage => .ref (name.adopt ns) usage
  | .groupRef name => .groupRef (name.adopt ns)

def AttributeDecl.adopt (ns : String) : AttributeDecl → AttributeDecl
  | ⟨name, own, type, usage, default, fixed⟩ =>
    ⟨name, own.map (adopted ns), adoptUse ns type, usage, default, fixed⟩

end

def GroupDecl.adopt (ns : String) (g : GroupDecl) : GroupDecl := { g with group := g.group.adopt ns }

def AttributeGroupDecl.adopt (ns : String) (g : AttributeGroupDecl) : AttributeGroupDecl :=
  { g with attributes := adoptAttributes ns g.attributes }

/-- The namespace of an inclusion is that of the including schema; that of an import is its own. -/
def Import.adopt (ns : String) (i : Import) : Import :=
  { i with
    ns := match i.kind with
      | .included | .redefined => i.ns.map (adopted ns)
      | .imported | .wsdlImported => i.ns
    importer := adopted ns i.importer }

def Declarations.adopt (ns : String) (d : Declarations) : Declarations where
  targetNamespace := adopted ns d.targetNamespace
  elementForm := d.elementForm
  attributeForm := d.attributeForm
  imports := d.imports.map (·.adopt ns)
  types := d.types.map (·.adopt ns)
  elements := d.elements.map (·.adopt ns)
  attributes := d.attributes.map (·.adopt ns)
  groups := d.groups.map (·.adopt ns)
  attributeGroups := d.attributeGroups.map (·.adopt ns)

end Schema

/-- A schema document in a namespace. -/
def Document.adopt (ns : String) (d : Document) : Document :=
  { d with
    targetNamespace := adopted ns d.targetNamespace
    schemas := d.schemas.map (·.adopt ns) }

namespace Schema

variable {ns : String}

theorem adoptUses_eq (uses : List TypeUse) : adoptUses ns uses = uses.map (·.adopt ns) := by
  induction uses with
  | nil => rw [adoptUses, List.map_nil]
  | cons use uses ih => rw [adoptUses, List.map_cons, ih]

theorem adoptItems_eq (items : List GroupItem) : adoptItems ns items = items.map (·.adopt ns) := by
  induction items with
  | nil => rw [adoptItems, List.map_nil]
  | cons item items ih => rw [adoptItems, List.map_cons, ih]

theorem adoptAttributes_eq (items : List AttributeItem) :
    adoptAttributes ns items = items.map (·.adopt ns) := by
  induction items with
  | nil => rw [adoptAttributes, List.map_nil]
  | cons item items ih => rw [adoptAttributes, List.map_cons, ih]

theorem adoptUse_eq (use : Option TypeUse) : adoptUse ns use = use.map (·.adopt ns) := by
  cases use with
  | none => rw [adoptUse, Option.map_none]
  | some use => rw [adoptUse, Option.map_some]

theorem adoptGroup_eq (g : Option ModelGroup) : adoptGroup ns g = g.map (·.adopt ns) := by
  cases g with
  | none => rw [adoptGroup, Option.map_none]
  | some g => rw [adoptGroup, Option.map_some]

theorem ComplexType.adopt_eq (t : ComplexType) : t.adopt ns =
    { t with
      content := t.content.adopt ns
      attributes := t.attributes.map (·.adopt ns)
      arrayItem := t.arrayItem.map (·.adopt ns) } := by
  obtain ⟨name, documentation, isAbstract, mixed, content, attributes, anyAttribute, arrayItem⟩ := t
  rw [ComplexType.adopt, adoptAttributes_eq]

end Schema

end SoapBindings
