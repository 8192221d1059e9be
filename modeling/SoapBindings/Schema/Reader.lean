import SoapBindings.Document.Context

/-!
# Reading schemas

Readers for the declarations of one schema. A reader looks at the children of its element that are
of the schema namespace, annotations apart (`declaring`); elements of other namespaces say nothing
about types. What a reader does not know it passes over and notes.

Types, groups, elements and attributes contain one another, so their readers call one another, each
on a child of its element or, for the same element, the one further down in the list below.
-/

set_option autoImplicit false

namespace SoapBindings.Schema

open Xml

theorem sizeOf_child_lt {c e : Element} (h : c ∈ e.children) : sizeOf c < sizeOf e := by
  cases e
  have := List.sizeOf_lt_of_mem h
  simp only [Element.mk.sizeOf_spec]
  simp only at this
  omega

/-- A child of an element. -/
abbrev Child (e : Element) := { c : Element // c ∈ e.children }

theorem Child.sizeOf_lt {e : Element} (c : Child e) : sizeOf c.1 < sizeOf e :=
  sizeOf_child_lt c.2

/-- The children that declare something. -/
def declaring (e : Element) : List (Child e) :=
  e.children.attach.filter fun c => c.1.ns == some Namespaces.schema && c.1.name != "annotation"

/-- The first declaring child with one of some names. -/
def firstOf? (e : Element) (names : List String) : Option (Child e) :=
  (declaring e).find? fun c => names.contains c.1.name

def groupNames : List String := ["sequence", "choice", "all"]

/-! ## Leaves -/

def readForm (e : Element) (name : String) (absent : Form) : Except Misreading Form :=
  readWord e name absent [("qualified", .qualified), ("unqualified", .unqualified)]

def readUsage (e : Element) : Except Misreading Usage :=
  readWord e "use" .optional
    [("optional", .optional), ("required", .required), ("prohibited", .prohibited)]

def facetNames : List String :=
  ["pattern", "length", "minLength", "maxLength", "minInclusive", "maxInclusive", "minExclusive",
    "maxExclusive", "totalDigits", "fractionDigits", "whiteSpace"]

/-- Adds the facet that an element declares, if it declares one. -/
def addFacet (facets : Facets) (e : Element) : Except Misreading Facets := do
  if e.name == "enumeration" then
    return { facets with enumeration := facets.enumeration ++ [← required e "value"] }
  else if facetNames.contains e.name then
    return { facets with others := facets.others ++ [⟨e.name, ← required e "value"⟩] }
  else return facets

def readFacets (e : Element) : Except Misreading Facets :=
  (declaring e).foldlM (fun facets c => addFacet facets c.1) ⟨[], []⟩

/-- The name of a type, which only a type at the top of a schema has to have. -/
def readTypeName (e : Element) (isGlobal : Bool) : Except Misreading (Option String) :=
  if isGlobal then (required e "name").map some else .ok (e.attribute? "name")

def readGroupRef (ctx : Context) (e : Element) : Except Misreading GroupItem := do
  let name ← ctx.requiredQName e "ref"
  return .groupRef name (← readOccurs e)

/-- A group that holds nothing but a reference. -/
def readGroupUse (ctx : Context) (e : Element) : Except Misreading ModelGroup := do
  return ⟨.sequence, .once, [← readGroupRef ctx e]⟩

/-- The namespace of a declared name: global names have one, local names if their form says so. -/
def readNamespace (ctx : Context) (e : Element) (isGlobal : Bool) (absent : Form) :
    Except Misreading (Option String) := do
  if isGlobal then return some ctx.targetNamespace
  else
    match ← readForm e "form" absent with
    | .qualified => return some ctx.targetNamespace
    | .unqualified => return none

/-- The item type that a restricted array names, in the first attribute that names one. -/
def readArrayItem (ctx : Context) (e : Element) : Except Misreading (Option QName) :=
  let named := (declaring e).findSome? fun c =>
    if c.1.name == "attribute" then
      (c.1.attributeIn? Namespaces.wsdl "arrayType").map (c.1, ·)
    else none
  match named with
  | none => .ok none
  | some (c, arrayType) =>
    let item := Text.stripEnd (fun c => c == '[' || c == ']' || c == ',')
      (Text.trim arrayType).toList
    (ctx.qname c (String.ofList item)).map some

/-- What a derivation adds to its base, while its children are read. -/
structure Additions where
  group : Option ModelGroup
  attributes : List AttributeItem
  anyAttribute : Bool

/-! ## Simple types -/

mutual

/-- A simple type that is declared in place of a name. -/
def readInlineSimple (ctx : Context) (e : Element) : Reading (Option TypeUse) :=
  match firstOf? e ["simpleType"] with
  | none => return none
  | some c =>
    have := c.sizeOf_lt
    return some (.anonymous (.simple (← readSimpleType ctx c.1 false)))
termination_by (sizeOf e, 0)

/-- A base or item type: named by an attribute, or declared in place. -/
def readTypeUse (ctx : Context) (e : Element) (name : String) : Reading TypeUse := do
  match ← ctx.qname? e name with
  | some q => return .named q
  | none =>
    match ← readInlineSimple ctx e with
    | some use => return use
    | none => misread e (.missingOneOf name "simpleType")
termination_by (sizeOf e, 1)

def readDerivation (ctx : Context) (e : Element) : Reading Derivation := do
  match e.name with
  | "restriction" =>
    let base ← readTypeUse ctx e "base"
    return .restriction base (← readFacets e)
  | "list" => return .list (← readTypeUse ctx e "itemType")
  | _ =>
    let names := (Text.splitWhere Text.isBlank ((e.attribute? "memberTypes").getD "").toList).filter
      (!·.isEmpty)
    let named ← names.mapM fun name => return TypeUse.named (← ctx.qname e (String.ofList name))
    let declared ← ((declaring e).filter (·.1.name == "simpleType")).mapM fun c =>
      have := c.sizeOf_lt
      return TypeUse.anonymous (.simple (← readSimpleType ctx c.1 false))
    return .union (named ++ declared)
termination_by (sizeOf e, 2)

def readSimpleType (ctx : Context) (e : Element) (isGlobal : Bool) : Reading SimpleType := do
  let name ← readTypeName e isGlobal
  match firstOf? e ["restriction", "list", "union"] with
  | none => misread e (.missingChild "restriction, list or union")
  | some c =>
    have := c.sizeOf_lt
    let derivation ← readDerivation ctx c.1
    return ⟨name, documentation? e, derivation⟩
termination_by (sizeOf e, 3)

end

/-! ## Attributes -/

def readAttributeDecl (ctx : Context) (e : Element) (isGlobal : Bool) : Reading AttributeDecl := do
  let name := Text.trim (← required e "name")
  let ns ← readNamespace ctx e isGlobal ctx.attributeForm
  let type ← match ← ctx.qname? e "type" with
    | some q => pure (some (.named q))
    | none => readInlineSimple ctx e
  let usage ← readUsage e
  return ⟨name, ns, type, usage, e.attribute? "default", e.attribute? "fixed"⟩

/-- Adds the attributes that an element declares or refers to. -/
def addAttribute (ctx : Context) (e : Element) (known : Additions) : Reading Additions := do
  match e.name with
  | "attribute" =>
    match ← ctx.qname? e "ref" with
    | some name =>
      let item := AttributeItem.ref name (← readUsage e)
      return { known with attributes := known.attributes ++ [item] }
    | none =>
      let item := AttributeItem.own (← readAttributeDecl ctx e false)
      return { known with attributes := known.attributes ++ [item] }
  | "attributeGroup" =>
    let item := AttributeItem.groupRef (← ctx.requiredQName e "ref")
    return { known with attributes := known.attributes ++ [item] }
  | "anyAttribute" => return { known with anyAttribute := true }
  | _ =>
    skip e
    return known

/-! ## Complex types, groups and elements -/

mutual

/-- Adds what a child of a derivation declares: a group, or else attributes. -/
def addAddition (ctx : Context) (e : Element) (known : Additions) : Reading Additions := do
  if groupNames.contains e.name then
    return { known with group := some (← readModelGroup ctx e) }
  else if e.name == "group" then
    return { known with group := some (← readGroupUse ctx e) }
  else addAttribute ctx e known
termination_by (sizeOf e, 3)

/-- Reads the derivation inside complex or simple content into the type that has this content. -/
def readDerivedContent (ctx : Context) (e : Element) (type : ComplexType) :
    Reading ComplexType := do
  let mixed ← readBool e "mixed"
  match firstOf? e ["extension", "restriction"] with
  | none => misread e (.missingChild "extension or restriction")
  | some d =>
    let base ← ctx.requiredQName d.1 "base"
    let arrayItem ← readArrayItem ctx d.1
    let added ← (declaring d.1).foldlM (fun known c =>
      have := c.sizeOf_lt
      have := d.sizeOf_lt
      addAddition ctx c.1 known) ⟨none, type.attributes, type.anyAttribute⟩
    let content ← match e.name, d.1.name with
      | "complexContent", "extension" => pure (Content.extension base added.group)
      | "complexContent", _ => pure (Content.restriction base added.group)
      | _, "extension" => pure (Content.simpleExtension base)
      | _, _ => pure (Content.simpleRestriction base (← readFacets d.1))
    return { type with
      mixed := type.mixed || mixed
      content := content
      attributes := added.attributes
      anyAttribute := added.anyAttribute
      arrayItem := arrayItem.or type.arrayItem }
termination_by (sizeOf e, 0)

/-- Reads one child of a complex type into the type. -/
def addContent (ctx : Context) (e : Element) (type : ComplexType) : Reading ComplexType := do
  if groupNames.contains e.name then
    return { type with content := .group (← readModelGroup ctx e) }
  else
    match e.name with
    | "group" => return { type with content := .group (← readGroupUse ctx e) }
    | "complexContent" | "simpleContent" => readDerivedContent ctx e type
    | "attribute" | "attributeGroup" | "anyAttribute" =>
      let added ← addAttribute ctx e ⟨none, type.attributes, type.anyAttribute⟩
      return { type with attributes := added.attributes, anyAttribute := added.anyAttribute }
    | _ =>
      skip e
      return type
termination_by (sizeOf e, 3)

def readComplexType (ctx : Context) (e : Element) (isGlobal : Bool) : Reading ComplexType := do
  let name ← readTypeName e isGlobal
  let isAbstract ← readBool e "abstract"
  let mixed ← readBool e "mixed"
  let start : ComplexType :=
    ⟨name, documentation? e, isAbstract, mixed, .empty, [], false, none⟩
  (declaring e).foldlM (fun type c =>
    have := c.sizeOf_lt
    addContent ctx c.1 type) start
termination_by (sizeOf e, 0)

/-- Adds the item that a child of a group declares. -/
def addItem (ctx : Context) (e : Element) (items : List GroupItem) : Reading (List GroupItem) := do
  if groupNames.contains e.name then return items ++ [.group (← readModelGroup ctx e)]
  else
    match e.name with
    | "element" => return items ++ [← readElementItem ctx e]
    | "group" => return items ++ [← readGroupRef ctx e]
    | "any" => return items ++ [.any (← readOccurs e)]
    | _ =>
      skip e
      return items
termination_by (sizeOf e, 4)

def readModelGroup (ctx : Context) (e : Element) : Reading ModelGroup := do
  let compositor : Compositor := match e.name with
    | "choice" => .choice
    | "all" => .all
    | _ => .sequence
  let items ← (declaring e).foldlM (fun items c =>
    have := c.sizeOf_lt
    addItem ctx c.1 items) []
  return ⟨compositor, ← readOccurs e, items⟩
termination_by (sizeOf e, 0)

/-- An element in a group: a reference, or a declaration of its own. -/
def readElementItem (ctx : Context) (e : Element) : Reading GroupItem := do
  let occurs ← readOccurs e
  match ← ctx.qname? e "ref" with
  | some name => return .elementRef name occurs
  | none =>
    if (e.attribute? "name").isSome then return .element (← readElementDecl ctx e false) occurs
    else misread e (.missingOneOf "name" "ref")
termination_by (sizeOf e, 2)

def readElementDecl (ctx : Context) (e : Element) (isGlobal : Bool) : Reading ElementDecl := do
  let name := Text.trim (← required e "name")
  let ns ← readNamespace ctx e isGlobal ctx.elementForm
  let type ← readElementType ctx e
  ((declaring e).filter fun c => ["key", "keyref", "unique"].contains c.1.name).forM fun c =>
    skip c.1
  let nillable ← readBool e "nillable"
  let isAbstract ← readBool e "abstract"
  let substitutionGroup ← ctx.qname? e "substitutionGroup"
  return {
    name := name
    ns := ns
    type := type
    nillable := nillable
    isAbstract := isAbstract
    substitutionGroup := substitutionGroup
    default := e.attribute? "default"
    fixed := e.attribute? "fixed"
    documentation := documentation? e }
termination_by (sizeOf e, 1)

/-- The type of an element: named by an attribute, or the first type declared in it. -/
def readElementType (ctx : Context) (e : Element) : Reading (Option TypeUse) := do
  match ← ctx.qname? e "type" with
  | some q => return some (.named q)
  | none =>
    match firstOf? e ["complexType", "simpleType"] with
    | none => return none
    | some c =>
      have := c.sizeOf_lt
      if c.1.name == "complexType" then
        return some (.anonymous (.complex (← readComplexType ctx c.1 false)))
      else return some (.anonymous (.simple (← readSimpleType ctx c.1 false)))
termination_by (sizeOf e, 0)

end

/-! ## Schemas -/

def readImport (target : String) (e : Element) : Import :=
  ⟨.imported, trimmed? e "namespace", trimmed? e "schemaLocation", target⟩

/-- An inclusion or a redefinition has to say where the included document is. -/
def readInclusion (target : String) (kind : ImportKind) (e : Element) :
    Except Misreading Import := do
  let location ← required e "schemaLocation"
  return ⟨kind, some target, some (Text.trim location), target⟩

def readGroupDecl (ctx : Context) (e : Element) : Reading GroupDecl := do
  let name ← required e "name"
  match firstOf? e groupNames with
  | none => misread e (.missingChild "sequence, choice or all")
  | some c => return ⟨name, ← readModelGroup ctx c.1⟩

def readAttributeGroupDecl (ctx : Context) (e : Element) : Reading AttributeGroupDecl := do
  let name ← required e "name"
  let added ← (declaring e).foldlM (fun known c => addAttribute ctx c.1 known) ⟨none, [], false⟩
  return ⟨name, added.attributes⟩

/-- Reads one child of a schema element into the schema. -/
def addDeclaration (ctx : Context) (schema : Declarations) (e : Element) :
    Reading Declarations := do
  if e.ns != some Namespaces.schema then
    skip e
    return schema
  else
    match e.name with
    | "annotation" => return schema
    | "import" =>
      return { schema with imports := schema.imports ++ [readImport schema.targetNamespace e] }
    | "include" =>
      let inclusion ← readInclusion schema.targetNamespace .included e
      return { schema with imports := schema.imports ++ [inclusion] }
    | "redefine" =>
      skip e
      let inclusion ← readInclusion schema.targetNamespace .redefined e
      return { schema with imports := schema.imports ++ [inclusion] }
    | "complexType" =>
      let type ← readComplexType ctx e true
      return { schema with types := schema.types ++ [.complex type] }
    | "simpleType" =>
      let type ← readSimpleType ctx e true
      return { schema with types := schema.types ++ [.simple type] }
    | "element" =>
      let decl ← readElementDecl ctx e true
      return { schema with elements := schema.elements ++ [decl] }
    | "attribute" =>
      let decl ← readAttributeDecl ctx e true
      return { schema with attributes := schema.attributes ++ [decl] }
    | "group" =>
      let decl ← readGroupDecl ctx e
      return { schema with groups := schema.groups ++ [decl] }
    | "attributeGroup" =>
      let decl ← readAttributeGroupDecl ctx e
      return { schema with attributeGroups := schema.attributeGroups ++ [decl] }
    | _ =>
      skip e
      return schema

/-- Reads a schema element. The namespace comes from its own attribute, or from outside. -/
def readSchema (targetNamespace : String) (isAdopted : Bool) (e : Element) :
    Reading Declarations := do
  let elementForm ← readForm e "elementFormDefault" .unqualified
  let attributeForm ← readForm e "attributeFormDefault" .unqualified
  let ctx : Context := ⟨targetNamespace, isAdopted, elementForm, attributeForm⟩
  e.children.foldlM (addDeclaration ctx)
    ⟨targetNamespace, elementForm, attributeForm, [], [], [], [], [], []⟩

end SoapBindings.Schema
