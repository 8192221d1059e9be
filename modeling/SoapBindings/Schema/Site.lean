import SoapBindings.Schema.Symbols

/-!
# Types declared in place

A type without a name is known by its site: the declaration at the top of a schema in which it
stands, and the steps that lead to it from there. A site belongs to one declaration, on however
many ways it is come to: a group may be used by many types, but what is declared in the group is
declared once.

`Symbols.inlineTypes` lists all of them. The steps are counted within what surrounds the
declaration: a type has its content at step 0 and its attributes at step 1, a group each item at
its index.
-/

set_option autoImplicit false

namespace SoapBindings.Schema

structure Site where
  /-- What is declared at the top of the schema. -/
  kind : DeclarationKind
  name : QName
  /-- The way from there, last step first. -/
  steps : List Nat
  deriving DecidableEq, Repr

namespace Site

instance : Ord Site where
  compare := compareLex (compareOn (·.kind.rank))
    (compareLex (compareOn Site.name) (compareOn Site.steps))

instance : Std.TransOrd Site :=
  inferInstanceAs (Std.TransCmp (compareLex (compareOn (·.kind.rank))
    (compareLex (compareOn Site.name) (compareOn Site.steps))))

instance : Std.LawfulEqOrd Site where
  compare_self := Std.ReflCmp.compare_self
  eq_of_compare := by
    intro a b h
    obtain ⟨kind, h⟩ := compareLex_eq_eq.mp h
    obtain ⟨name, steps⟩ := compareLex_eq_eq.mp h
    have kind : a.kind = b.kind :=
      DeclarationKind.rank_injective (Std.LawfulEqCmp.eq_of_compare kind)
    have name : a.name = b.name := Std.LawfulEqCmp.eq_of_compare name
    have steps : a.steps = b.steps := Std.LawfulEqCmp.eq_of_compare steps
    cases a
    cases b
    simp_all

/-- The site of a declaration at the top of a schema. -/
def top (kind : DeclarationKind) (name : QName) : Site := ⟨kind, name, []⟩

def step (s : Site) (i : Nat) : Site := { s with steps := i :: s.steps }

end Site

mutual

def TypeUse.inlineTypes (site : Site) : TypeUse → List (Site × TypeDecl)
  | .named _ => []
  | .anonymous t => (site, t) :: t.inlineTypes site

def TypeDecl.inlineTypes (site : Site) : TypeDecl → List (Site × TypeDecl)
  | .simple t => t.inlineTypes site
  | .complex t => t.inlineTypes site

/-- The members of a union are not among them: a union is read as a text. -/
def SimpleType.inlineTypes (site : Site) : SimpleType → List (Site × TypeDecl)
  | ⟨_, _, .restriction base _⟩ => base.inlineTypes (site.step 0)
  | ⟨_, _, .list item⟩ => item.inlineTypes (site.step 0)
  | ⟨_, _, .union _⟩ => []

def ComplexType.inlineTypes (site : Site) : ComplexType → List (Site × TypeDecl)
  | ⟨_, _, _, _, content, attributes, _, _⟩ =>
    content.inlineTypes (site.step 0) ++ attributesInlineTypes (site.step 1) 0 attributes

def Content.inlineTypes (site : Site) : Content → List (Site × TypeDecl)
  | .group g | .extension _ (some g) | .restriction _ (some g) => g.inlineTypes site
  | _ => []

def ModelGroup.inlineTypes (site : Site) : ModelGroup → List (Site × TypeDecl)
  | ⟨_, _, items⟩ => itemsInlineTypes site 0 items

/-- The types declared in items of a group; `i` is the index of the first. -/
def itemsInlineTypes (site : Site) (i : Nat) : List GroupItem → List (Site × TypeDecl)
  | [] => []
  | .element ⟨_, _, some type, _, _, _, _, _, _⟩ _ :: rest =>
    type.inlineTypes (site.step i) ++ itemsInlineTypes site (i + 1) rest
  | .group g :: rest => g.inlineTypes (site.step i) ++ itemsInlineTypes site (i + 1) rest
  | _ :: rest => itemsInlineTypes site (i + 1) rest

/-- The types declared in attributes; `i` is the index of the first. -/
def attributesInlineTypes (site : Site) (i : Nat) : List AttributeItem → List (Site × TypeDecl)
  | [] => []
  | .own ⟨_, _, some type, _, _, _⟩ :: rest =>
    type.inlineTypes (site.step i) ++ attributesInlineTypes site (i + 1) rest
  | _ :: rest => attributesInlineTypes site (i + 1) rest

end

namespace Symbols

/-- All types declared in place. -/
def inlineTypes (s : Symbols) : Std.ExtTreeMap Site TypeDecl :=
  let types := s.types.toList.flatMap fun (q, d) => d.decl.inlineTypes (.top .type q)
  let elements := s.elements.toList.flatMap fun (q, d) =>
    d.decl.type.toList.flatMap (·.inlineTypes (.top .element q))
  let attributes := s.attributes.toList.flatMap fun (q, d) =>
    d.decl.type.toList.flatMap (·.inlineTypes (.top .attr q))
  let groups := s.groups.toList.flatMap fun (q, d) => d.decl.group.inlineTypes (.top .group q)
  let attributeGroups := s.attributeGroups.toList.flatMap fun (q, d) =>
    attributesInlineTypes (.top .attributeGroup q) 0 d.decl.attributes
  Std.ExtTreeMap.ofList (types ++ elements ++ attributes ++ groups ++ attributeGroups)

/-- The document that declares what stands at a site. -/
def locator? (s : Symbols) (site : Site) : Option Locator :=
  match site.kind with
  | .type => s.types[site.name]?.map (·.locator)
  | .element => s.elements[site.name]?.map (·.locator)
  | .attr => s.attributes[site.name]?.map (·.locator)
  | .group => s.groups[site.name]?.map (·.locator)
  | .attributeGroup => s.attributeGroups[site.name]?.map (·.locator)
  | _ => none

end Symbols

end SoapBindings.Schema
