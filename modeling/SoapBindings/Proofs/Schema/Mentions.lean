import SoapBindings.Schema.Leaves

/-!
# What declarations mention

Declarations ask for others by name, at any depth of what is declared in them: for types, as what an
element or attribute holds, as a base or as the item of a list, and for elements, attributes and
groups. `mentions` lists these names with the kind of what is asked for. Four places do not count:
the members of a union, prohibited attributes, all of a restriction of the encoded array but the
type of its items, and the type of the items of anything else.

`Symbols.Mentions` follows the names on: what the types and elements at the top of the schemas
mention, and what is mentioned in the groups and attributes that these ask for.
-/

set_option autoImplicit false

namespace SoapBindings

/-- A name with the kind of what is asked for. -/
structure Mention where
  name : QName
  kind : DeclarationKind
  deriving DecidableEq, Repr

/-- What a reference asks for, wherever it stands. -/
def Reference.mention (r : Reference) : Mention := ⟨r.name, r.kind⟩

namespace Schema

/-- The content of an encoded array. -/
def Content.isArray : Content → Bool
  | .restriction base _ => Symbols.isEncodedArray base
  | _ => false

theorem isArray_content (t : ComplexType) : Symbols.isArray t = t.content.isArray := by
  rw [Symbols.isArray]
  cases t.content <;> rfl

mutual

def TypeUse.mentions : TypeUse → List Mention
  | .named name => [⟨name, .type⟩]
  | .anonymous t => t.mentions

def TypeDecl.mentions : TypeDecl → List Mention
  | .simple t => t.mentions
  | .complex t => t.mentions

def SimpleType.mentions : SimpleType → List Mention
  | ⟨_, _, .restriction base _⟩ => base.mentions
  | ⟨_, _, .list item⟩ => item.mentions
  | ⟨_, _, .union _⟩ => []

def ComplexType.mentions : ComplexType → List Mention
  | ⟨_, _, _, _, content, attributes, _, arrayItem⟩ =>
    if content.isArray then arrayItem.toList.map (⟨·, .type⟩)
    else content.mentions ++ attributesMentions attributes

def Content.mentions : Content → List Mention
  | .empty => []
  | .group g => g.mentions
  | .extension base (some g) | .restriction base (some g) => ⟨base, .type⟩ :: g.mentions
  | .extension base none | .restriction base none | .simpleExtension base
  | .simpleRestriction base _ => [⟨base, .type⟩]

def ModelGroup.mentions : ModelGroup → List Mention
  | ⟨_, _, items⟩ => itemsMentions items

def itemsMentions : List GroupItem → List Mention
  | [] => []
  | .element ⟨_, _, some type, _, _, _, _, _, _⟩ _ :: rest => type.mentions ++ itemsMentions rest
  | .elementRef name _ :: rest => ⟨name, .element⟩ :: itemsMentions rest
  | .group g :: rest => g.mentions ++ itemsMentions rest
  | .groupRef name _ :: rest => ⟨name, .group⟩ :: itemsMentions rest
  | _ :: rest => itemsMentions rest

def attributesMentions : List AttributeItem → List Mention
  | [] => []
  | .own ⟨_, _, some type, usage, _, _⟩ :: rest =>
    (if usage == .prohibited then [] else type.mentions) ++ attributesMentions rest
  | .own ⟨_, _, none, _, _, _⟩ :: rest => attributesMentions rest
  | .ref name usage :: rest =>
    (if usage == .prohibited then [] else [⟨name, .attr⟩]) ++ attributesMentions rest
  | .groupRef name :: rest => ⟨name, .attributeGroup⟩ :: attributesMentions rest

end

/-- What a declaration mentions that may do without a type. -/
def optionMentions (type : Option TypeUse) : List Mention := type.toList.flatMap (·.mentions)

theorem itemsMentions_element (d : ElementDecl) (own : Occurs) (rest : List GroupItem) :
    itemsMentions (.element d own :: rest) = optionMentions d.type ++ itemsMentions rest := by
  obtain ⟨_, _, type, _, _, _, _, _, _⟩ := d
  cases type with
  | none => simp [itemsMentions, optionMentions]
  | some use => simp [itemsMentions, optionMentions]

theorem attributesMentions_own (d : AttributeDecl) (rest : List AttributeItem) :
    attributesMentions (.own d :: rest) =
      (if d.usage == .prohibited then [] else optionMentions d.type) ++
        attributesMentions rest := by
  obtain ⟨_, _, type, _, _, _⟩ := d
  cases type with
  | none => simp [attributesMentions, optionMentions]
  | some use => simp [attributesMentions, optionMentions]

theorem ComplexType.mentions_eq (t : ComplexType) : t.mentions =
    if Symbols.isArray t then t.arrayItem.toList.map (⟨·, .type⟩)
    else t.content.mentions ++ attributesMentions t.attributes := by
  rw [isArray_content]
  cases t
  rw [mentions]

theorem ModelGroup.mentions_eq (g : ModelGroup) : g.mentions = itemsMentions g.items := by
  cases g
  rw [mentions]

namespace Symbols

/-- The name is mentioned in a type or an element at the top of a schema, or in a group or an
attribute that is mentioned in turn. -/
inductive Mentions (s : Symbols) : Mention → Prop
  | inType {name : QName} {d : Declared TypeDecl} {m : Mention} :
      s.types[name]? = some d → m ∈ d.decl.mentions → Mentions s m
  | inElement {name : QName} {d : Declared ElementDecl} {m : Mention} :
      s.elements[name]? = some d → m ∈ optionMentions d.decl.type → Mentions s m
  | inAttribute {name : QName} {d : Declared AttributeDecl} {m : Mention} :
      Mentions s ⟨name, .attr⟩ → s.attributes[name]? = some d →
      m ∈ optionMentions d.decl.type → Mentions s m
  | inGroup {name : QName} {d : Declared GroupDecl} {m : Mention} :
      Mentions s ⟨name, .group⟩ → s.groups[name]? = some d →
      m ∈ d.decl.group.mentions → Mentions s m
  | inAttributeGroup {name : QName} {d : Declared AttributeGroupDecl} {m : Mention} :
      Mentions s ⟨name, .attributeGroup⟩ → s.attributeGroups[name]? = some d →
      m ∈ attributesMentions d.decl.attributes → Mentions s m

/-- Something has the name: a declaration of the kind that is asked for, or what needs no document,
that is a built-in type or any attribute of a built-in namespace. -/
def Finds (s : Symbols) : Mention → Prop
  | ⟨name, .type⟩ => (Builtin.ofQName? name).isSome ∨ name ∈ s.types
  | ⟨name, .element⟩ => name ∈ s.elements
  | ⟨name, .attr⟩ => Namespaces.isBuiltin name.ns ∨ name ∈ s.attributes
  | ⟨name, .group⟩ => name ∈ s.groups
  | ⟨name, .attributeGroup⟩ => name ∈ s.attributeGroups
  | _ => False

end Symbols

end Schema

end SoapBindings
