import SoapBindings.Documents
import SoapBindings.Reference
import SoapBindings.Schema.Equality

/-!
# Tables of declarations

Everything that is declared at the top of a schema, by its name. A schema may be reached on several
ways and several documents may repeat a declaration: equal declarations of one name count once, and
the first of them stands in the table. Two that differ are a conflict.
-/

set_option autoImplicit false

namespace SoapBindings.Schema

/-- A declaration with the place it comes from. -/
structure Declared (α : Type) where
  decl : α
  /-- The namespace of the declaring schema. -/
  schemaNamespace : String
  /-- The declaring document. -/
  locator : Locator

/-- Two declarations of one name that differ. -/
structure Conflict where
  kind : DeclarationKind
  name : QName
  first : Locator
  second : Locator
  deriving DecidableEq, Repr

def Conflict.message (c : Conflict) : String :=
  "conflicting declarations of " ++ c.kind.label ++ " " ++ c.name.toText ++ ": " ++
    c.first.toText ++ " and " ++ c.second.toText

structure Symbols where
  types : NameTable (Declared TypeDecl)
  elements : NameTable (Declared ElementDecl)
  attributes : NameTable (Declared AttributeDecl)
  groups : NameTable (Declared GroupDecl)
  attributeGroups : NameTable (Declared AttributeGroupDecl)

namespace Symbols

def empty : Symbols := ⟨∅, ∅, ∅, ∅, ∅⟩

/-- Adds a declaration to a table unless an equal one is there. -/
def register {α : Type} [DecidableEq α] (kind : DeclarationKind) (table : NameTable (Declared α))
    (name : QName) (declared : Declared α) : Except Conflict (NameTable (Declared α)) :=
  match table[name]? with
  | none => .ok (table.insert name declared)
  | some first =>
    if first.decl = declared.decl then .ok table
    else .error ⟨kind, name, first.locator, declared.locator⟩

/-- Adds declarations of one schema in their order. -/
def registerAll {α : Type} [DecidableEq α] (kind : DeclarationKind) (ns : String)
    (locator : Locator) (table : NameTable (Declared α)) (decls : List (String × α)) :
    Except Conflict (NameTable (Declared α)) :=
  decls.foldlM (fun table (name, decl) =>
    register kind table ⟨ns, name⟩ ⟨decl, ns, locator⟩) table

/-- Adds what one schema declares. -/
def add (s : Symbols) (locator : Locator) (d : Declarations) : Except Conflict Symbols := do
  let ns := d.targetNamespace
  let types ← registerAll .type ns locator s.types
    (d.types.filterMap fun t => t.name.map (·, t))
  let elements ← registerAll .element ns locator s.elements (d.elements.map fun e => (e.name, e))
  let attributes ← registerAll .attr ns locator s.attributes
    (d.attributes.map fun a => (a.name, a))
  let groups ← registerAll .group ns locator s.groups (d.groups.map fun g => (g.name, g))
  let attributeGroups ← registerAll .attributeGroup ns locator s.attributeGroups
    (d.attributeGroups.map fun g => (g.name, g))
  return ⟨types, elements, attributes, groups, attributeGroups⟩

def ofDocuments (ds : Documents) : Except Conflict Symbols :=
  ds.schemas.foldlM (fun s (locator, d) => s.add locator d) empty

end Symbols

end SoapBindings.Schema
