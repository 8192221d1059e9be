import SoapBindings.Proofs.Schema.Uses

/-!
# The namespaces of declared names

An element or attribute has a name in some namespace or in none. `DeclaresIn` says of any part of a
schema that each name declared in it, however deep, is in none or in one of some namespaces. What
holds of a declaration holds of the types declared in place in it, so it holds of all listed types
once it holds of the tables (`Symbols.DeclaresIn.listed`). A leaf is then in one of the namespaces,
or it is a reference to what no document declares (`Symbols.DeclaresIn.piecesOf`).
-/

set_option autoImplicit false

namespace SoapBindings.Schema

mutual

def TypeUse.DeclaresIn (p : String → Prop) : TypeUse → Prop
  | .named _ => True
  | .anonymous t => t.DeclaresIn p

def TypeDecl.DeclaresIn (p : String → Prop) : TypeDecl → Prop
  | .simple t => t.DeclaresIn p
  | .complex t => t.DeclaresIn p

def SimpleType.DeclaresIn (p : String → Prop) : SimpleType → Prop
  | ⟨_, _, derivation⟩ => derivation.DeclaresIn p

/-- The members of a union do not count, as a union is read as a text. -/
def Derivation.DeclaresIn (p : String → Prop) : Derivation → Prop
  | .restriction base _ => base.DeclaresIn p
  | .list item => item.DeclaresIn p
  | .union _ => True

def ComplexType.DeclaresIn (p : String → Prop) : ComplexType → Prop
  | ⟨_, _, _, _, content, attributes, _, _⟩ =>
    content.DeclaresIn p ∧ AttributesDeclareIn p attributes

def Content.DeclaresIn (p : String → Prop) : Content → Prop
  | .group g | .extension _ (some g) | .restriction _ (some g) => g.DeclaresIn p
  | _ => True

def ModelGroup.DeclaresIn (p : String → Prop) : ModelGroup → Prop
  | ⟨_, _, items⟩ => ItemsDeclareIn p items

def ItemsDeclareIn (p : String → Prop) : List GroupItem → Prop
  | [] => True
  | item :: items => item.DeclaresIn p ∧ ItemsDeclareIn p items

def GroupItem.DeclaresIn (p : String → Prop) : GroupItem → Prop
  | .element decl _ => decl.DeclaresIn p
  | .group g => g.DeclaresIn p
  | .elementRef _ _ | .groupRef _ _ | .any _ => True

def UseDeclaresIn (p : String → Prop) : Option TypeUse → Prop
  | none => True
  | some use => use.DeclaresIn p

def ElementDecl.DeclaresIn (p : String → Prop) : ElementDecl → Prop
  | ⟨_, ns, type, _, _, _, _, _, _⟩ => (∀ n, ns = some n → p n) ∧ UseDeclaresIn p type

def AttributesDeclareIn (p : String → Prop) : List AttributeItem → Prop
  | [] => True
  | item :: items => item.DeclaresIn p ∧ AttributesDeclareIn p items

def AttributeItem.DeclaresIn (p : String → Prop) : AttributeItem → Prop
  | .own decl => decl.DeclaresIn p
  | .ref _ _ | .groupRef _ => True

def AttributeDecl.DeclaresIn (p : String → Prop) : AttributeDecl → Prop
  | ⟨_, ns, type, _, _, _⟩ => (∀ n, ns = some n → p n) ∧ UseDeclaresIn p type

end

/-- All that one schema declares. -/
structure Declarations.DeclaresIn (p : String → Prop) (d : Declarations) : Prop where
  types : ∀ t ∈ d.types, t.DeclaresIn p
  elements : ∀ e ∈ d.elements, e.DeclaresIn p
  attributes : ∀ a ∈ d.attributes, a.DeclaresIn p
  groups : ∀ g ∈ d.groups, g.group.DeclaresIn p
  attributeGroups : ∀ g ∈ d.attributeGroups, AttributesDeclareIn p g.attributes

variable {p : String → Prop}

theorem itemsDeclareIn_append {items more : List GroupItem} :
    ItemsDeclareIn p (items ++ more) ↔ ItemsDeclareIn p items ∧ ItemsDeclareIn p more := by
  induction items with
  | nil => simp [ItemsDeclareIn]
  | cons item items ih => simp [ItemsDeclareIn, ih, and_assoc]

theorem attributesDeclareIn_append {items more : List AttributeItem} :
    AttributesDeclareIn p (items ++ more) ↔
      AttributesDeclareIn p items ∧ AttributesDeclareIn p more := by
  induction items with
  | nil => simp [AttributesDeclareIn]
  | cons item items ih => simp [AttributesDeclareIn, ih, and_assoc]

theorem ComplexType.declaresIn_iff {t : ComplexType} :
    t.DeclaresIn p ↔ t.content.DeclaresIn p ∧ AttributesDeclareIn p t.attributes := by
  cases t
  rw [DeclaresIn]

theorem Content.declaresIn_extension {base : QName} {group : Option ModelGroup}
    (h : ∀ g, group = some g → g.DeclaresIn p) : (Content.extension base group).DeclaresIn p := by
  cases group with
  | none => trivial
  | some g => exact h g rfl

theorem Content.declaresIn_restriction {base : QName} {group : Option ModelGroup}
    (h : ∀ g, group = some g → g.DeclaresIn p) : (Content.restriction base group).DeclaresIn p := by
  cases group with
  | none => trivial
  | some g => exact h g rfl

theorem ModelGroup.declaresIn_iff {g : ModelGroup} :
    g.DeclaresIn p ↔ ItemsDeclareIn p g.items := by
  cases g
  rw [DeclaresIn]

theorem ElementDecl.declaresIn_iff {d : ElementDecl} :
    d.DeclaresIn p ↔ (∀ n, d.ns = some n → p n) ∧ UseDeclaresIn p d.type := by
  cases d
  rw [DeclaresIn]

theorem AttributeDecl.declaresIn_iff {d : AttributeDecl} :
    d.DeclaresIn p ↔ (∀ n, d.ns = some n → p n) ∧ UseDeclaresIn p d.type := by
  cases d
  rw [DeclaresIn]

/-! ## Types declared in place -/

mutual

theorem TypeUse.DeclaresIn.inline (root : Site) : {use : TypeUse} → use.DeclaresIn p →
    ∀ e ∈ use.inlineTypes root, e.2.DeclaresIn p
  | .named _, _, _, he => absurd he (by simp [TypeUse.inlineTypes])
  | .anonymous t, h, e, he => by
    rw [TypeUse.DeclaresIn] at h
    rw [TypeUse.inlineTypes] at he
    rcases List.mem_cons.mp he with rfl | he
    · exact h
    · exact h.inline root e he

theorem TypeDecl.DeclaresIn.inline (root : Site) : {t : TypeDecl} → t.DeclaresIn p →
    ∀ e ∈ t.inlineTypes root, e.2.DeclaresIn p
  | .simple t, h, e, he => by
    rw [TypeDecl.DeclaresIn] at h
    rw [TypeDecl.inlineTypes] at he
    exact h.inline root e he
  | .complex t, h, e, he => by
    rw [TypeDecl.DeclaresIn] at h
    rw [TypeDecl.inlineTypes] at he
    exact h.inline root e he

theorem SimpleType.DeclaresIn.inline (root : Site) : {t : SimpleType} → t.DeclaresIn p →
    ∀ e ∈ t.inlineTypes root, e.2.DeclaresIn p
  | ⟨_, _, .restriction base _⟩, h, e, he => by
    rw [SimpleType.DeclaresIn, Derivation.DeclaresIn] at h
    rw [SimpleType.inlineTypes] at he
    exact h.inline (root.step 0) e he
  | ⟨_, _, .list item⟩, h, e, he => by
    rw [SimpleType.DeclaresIn, Derivation.DeclaresIn] at h
    rw [SimpleType.inlineTypes] at he
    exact h.inline (root.step 0) e he
  | ⟨_, _, .union _⟩, _, _, he => absurd he (by simp [SimpleType.inlineTypes])

theorem ComplexType.DeclaresIn.inline (root : Site) : {t : ComplexType} → t.DeclaresIn p →
    ∀ e ∈ t.inlineTypes root, e.2.DeclaresIn p
  | ⟨_, _, _, _, content, attributes, _, _⟩, h, e, he => by
    rw [ComplexType.DeclaresIn] at h
    rw [ComplexType.inlineTypes] at he
    rcases List.mem_append.mp he with he | he
    · exact h.1.inline (root.step 0) e he
    · exact h.2.inline (root.step 1) 0 e he

theorem Content.DeclaresIn.inline (root : Site) : {c : Content} → c.DeclaresIn p →
    ∀ e ∈ c.inlineTypes root, e.2.DeclaresIn p
  | .group g, h, e, he | .extension _ (some g), h, e, he | .restriction _ (some g), h, e, he => by
    rw [Content.DeclaresIn] at h
    rw [Content.inlineTypes] at he
    exact h.inline root e he
  | .empty, _, _, he | .extension _ none, _, _, he | .restriction _ none, _, _, he
  | .simpleExtension _, _, _, he | .simpleRestriction _ _, _, _, he =>
    absurd he (by simp [Content.inlineTypes])

theorem ModelGroup.DeclaresIn.inline (root : Site) : {g : ModelGroup} → g.DeclaresIn p →
    ∀ e ∈ g.inlineTypes root, e.2.DeclaresIn p
  | ⟨_, _, items⟩, h, e, he => by
    rw [ModelGroup.DeclaresIn] at h
    rw [ModelGroup.inlineTypes] at he
    exact h.inline root 0 e he

theorem ItemsDeclareIn.inline (root : Site) (i : Nat) : {items : List GroupItem} →
    ItemsDeclareIn p items → ∀ e ∈ itemsInlineTypes root i items, e.2.DeclaresIn p
  | [], _, _, he => absurd he (by simp [itemsInlineTypes])
  | .element ⟨_, _, some type, _, _, _, _, _, _⟩ _ :: rest, h, e, he => by
    rw [ItemsDeclareIn, GroupItem.DeclaresIn, ElementDecl.DeclaresIn, UseDeclaresIn] at h
    rw [itemsInlineTypes] at he
    rcases List.mem_append.mp he with he | he
    · exact h.1.2.inline (root.step i) e he
    · exact h.2.inline root (i + 1) e he
  | .group g :: rest, h, e, he => by
    rw [ItemsDeclareIn, GroupItem.DeclaresIn] at h
    rw [itemsInlineTypes] at he
    rcases List.mem_append.mp he with he | he
    · exact h.1.inline (root.step i) e he
    · exact h.2.inline root (i + 1) e he
  | .element ⟨_, _, none, _, _, _, _, _, _⟩ _ :: rest, h, e, he
  | .elementRef _ _ :: rest, h, e, he | .groupRef _ _ :: rest, h, e, he
  | .any _ :: rest, h, e, he => by
    rw [ItemsDeclareIn] at h
    rw [itemsInlineTypes] at he
    · exact h.2.inline root (i + 1) e he
    all_goals simp

theorem AttributesDeclareIn.inline (root : Site) (i : Nat) : {items : List AttributeItem} →
    AttributesDeclareIn p items → ∀ e ∈ attributesInlineTypes root i items, e.2.DeclaresIn p
  | [], _, _, he => absurd he (by simp [attributesInlineTypes])
  | .own ⟨_, _, some type, _, _, _⟩ :: rest, h, e, he => by
    rw [AttributesDeclareIn, AttributeItem.DeclaresIn, AttributeDecl.DeclaresIn,
      UseDeclaresIn] at h
    rw [attributesInlineTypes] at he
    rcases List.mem_append.mp he with he | he
    · exact h.1.2.inline (root.step i) e he
    · exact h.2.inline root (i + 1) e he
  | .own ⟨_, _, none, _, _, _⟩ :: rest, h, e, he | .ref _ _ :: rest, h, e, he
  | .groupRef _ :: rest, h, e, he => by
    rw [AttributesDeclareIn] at h
    rw [attributesInlineTypes] at he
    · exact h.2.inline root (i + 1) e he
    all_goals simp

end

theorem UseDeclaresIn.inline (root : Site) {type : Option TypeUse} (h : UseDeclaresIn p type)
    {use : TypeUse} (huse : type = some use) : ∀ e ∈ use.inlineTypes root, e.2.DeclaresIn p := by
  rw [huse, UseDeclaresIn] at h
  exact TypeUse.DeclaresIn.inline root h

/-! ## Leaves -/

/-- The name of a leaf is that of a declaration, or of what is not declared, or of an attribute that
is known without one. -/
inductive Leaf.NamedIn (p : String → Prop) (l : Leaf) : Prop
  | declared : (∀ n, l.ns = some n → p n) → NamedIn p l
  | missing (r : Reference) : l.use = .missing r → NamedIn p l
  | builtin (n : String) : l.ns = some n → Namespaces.isBuiltin n → l.kind = .attr →
      l.use = .builtin .string → NamedIn p l

namespace Symbols

/-- All that the tables hold. -/
structure DeclaresIn (p : String → Prop) (s : Symbols) : Prop where
  types : ∀ (name : QName) (d : Declared TypeDecl), s.types[name]? = some d → d.decl.DeclaresIn p
  elements : ∀ (name : QName) (d : Declared ElementDecl), s.elements[name]? = some d →
    p name.ns ∧ d.decl.DeclaresIn p
  attributes : ∀ (name : QName) (d : Declared AttributeDecl), s.attributes[name]? = some d →
    d.decl.DeclaresIn p
  groups : ∀ (name : QName) (d : Declared GroupDecl), s.groups[name]? = some d →
    d.decl.group.DeclaresIn p
  attributeGroups : ∀ (name : QName) (d : Declared AttributeGroupDecl),
    s.attributeGroups[name]? = some d → AttributesDeclareIn p d.decl.attributes

namespace DeclaresIn

variable {s : Symbols} {context : String}

theorem listed (h : s.DeclaresIn p) : ∀ e ∈ s.inlineEntries, e.2.DeclaresIn p := by
  intro e he
  obtain ⟨root, listed, lists, he⟩ := mem_inlineEntries.mp he
  cases lists with
  | type hd => exact (h.types _ _ hd).inline _ e he
  | element hd huse =>
    exact (ElementDecl.declaresIn_iff.mp (h.elements _ _ hd).2).2.inline _ huse e he
  | attr hd huse =>
    exact (AttributeDecl.declaresIn_iff.mp (h.attributes _ _ hd)).2.inline _ huse e he
  | group hd => exact (h.groups _ _ hd).inline _ e he
  | attributeGroup hd => exact (h.attributeGroups _ _ hd).inline _ 0 e he

theorem elementLeaf (h : s.DeclaresIn p) (name : QName) (occurs : Occurs) :
    (s.elementLeaf context name occurs).NamedIn p := by
  rw [Symbols.elementLeaf]
  split
  · next d hd =>
    refine .declared fun n hn => ?_
    cases hn
    exact (h.elements name d hd).1
  · exact .missing _ rfl

theorem attributeLeaf {place : Enclosure} {d : AttributeDecl} (h : d.DeclaresIn p)
    (usage : Usage) : (Symbols.attributeLeaf context place d usage).NamedIn p :=
  .declared (AttributeDecl.declaresIn_iff.mp h).1

theorem attributeRefLeaf (h : s.DeclaresIn p) (name : QName) (usage : Usage) :
    (s.attributeRefLeaf context name usage).NamedIn p := by
  rw [Symbols.attributeRefLeaf]
  split
  · next d hd => exact attributeLeaf (h.attributes name d hd) usage
  · by_cases known : Namespaces.isBuiltin name.ns
    · exact .builtin name.ns rfl known rfl (if_pos known)
    · exact .missing _ (if_neg known)

theorem itemPieces (h : s.DeclaresIn p) {available : Groups} (occurs : Occurs) (optional : Bool)
    (place : Enclosure) (i : Nat) {items : List GroupItem}
    (declared : ∀ (name : QName) (d : Declared GroupDecl), available[name]? = some d →
      s.groups[name]? = some d) (own : ItemsDeclareIn p items) {l : Leaf}
    (hl : .leaf l ∈ s.itemPieces context available occurs optional place i items) :
    l.NamedIn p := by
  induction available, occurs, optional, place, i, items using itemPieces.induct with
  | case1 => simp [Symbols.itemPieces] at hl
  | case2 available occurs optional place i d _ rest ih =>
    rw [ItemsDeclareIn, GroupItem.DeclaresIn, ElementDecl.declaresIn_iff] at own
    rw [Symbols.itemPieces] at hl
    rcases List.mem_cons.mp hl with first | hl
    · cases first
      exact .declared own.1.1
    · exact ih declared own.2 hl
  | case3 available occurs optional place i name _ rest ih =>
    rw [ItemsDeclareIn] at own
    rw [Symbols.itemPieces] at hl
    rcases List.mem_cons.mp hl with first | hl
    · cases first
      exact h.elementLeaf name _
    · exact ih declared own.2 hl
  | case4 available occurs optional place i rest compositor _ items inner ih =>
    rw [ItemsDeclareIn, GroupItem.DeclaresIn, ModelGroup.declaresIn_iff] at own
    rw [Symbols.itemPieces] at hl
    rcases List.mem_append.mp hl with hl | hl
    · exact inner declared own.1 hl
    · exact ih declared own.2 hl
  | case5 available occurs optional place i name _ rest inner ih =>
    rw [ItemsDeclareIn] at own
    rw [itemPieces_cons_groupRef] at hl
    rcases List.mem_append.mp hl with hl | hl
    · split at hl
      · next d hd =>
        refine inner d hd (fun other d' hd' => ?_) ?_ hl
        · exact declared other d' (getElem?_erase_eq_some_iff.mp hd').2
        · exact ModelGroup.declaresIn_iff.mp (h.groups name d (declared name d hd))
      · split at hl <;> simp at hl
    · exact ih declared own.2 hl
  | case6 available occurs optional place i _ rest ih =>
    rw [ItemsDeclareIn] at own
    rw [Symbols.itemPieces] at hl
    rcases List.mem_cons.mp hl with first | hl
    · cases first
      refine .declared fun n hn => ?_
      cases hn
    · exact ih declared own.2 hl

theorem attributePieces (h : s.DeclaresIn p) {available : AttributeGroups} (place : Enclosure)
    (i : Nat) {items : List AttributeItem}
    (declared : ∀ (name : QName) (d : Declared AttributeGroupDecl), available[name]? = some d →
      s.attributeGroups[name]? = some d) (own : AttributesDeclareIn p items) {l : Leaf}
    (hl : .leaf l ∈ s.attributePieces context available place i items) : l.NamedIn p := by
  induction available, place, i, items using attributePieces.induct with
  | case1 => simp [Symbols.attributePieces] at hl
  | case2 available place i d rest ih =>
    rw [AttributesDeclareIn, AttributeItem.DeclaresIn] at own
    rw [Symbols.attributePieces] at hl
    rcases List.mem_append.mp hl with hl | hl
    · split at hl
      · cases hl
      · cases List.mem_singleton.mp hl
        exact attributeLeaf own.1 _
    · exact ih declared own.2 hl
  | case3 available place i name usage rest ih =>
    rw [AttributesDeclareIn] at own
    rw [Symbols.attributePieces] at hl
    rcases List.mem_append.mp hl with hl | hl
    · split at hl
      · cases hl
      · cases List.mem_singleton.mp hl
        exact h.attributeRefLeaf name usage
    · exact ih declared own.2 hl
  | case4 available place i name rest inner ih =>
    rw [AttributesDeclareIn] at own
    rw [attributePieces_cons_groupRef] at hl
    rcases List.mem_append.mp hl with hl | hl
    · split at hl
      · next d hd =>
        refine inner d hd (fun other d' hd' => ?_) ?_ hl
        · exact declared other d' (getElem?_erase_eq_some_iff.mp hd').2
        · exact h.attributeGroups name d (declared name d hd)
      · split at hl <;> simp at hl
    · exact ih declared own.2 hl

theorem contentGroup {t : ComplexType} (h : t.DeclaresIn p) {g : ModelGroup}
    (hg : contentGroup? t = some g) : g.DeclaresIn p := by
  have content := (ComplexType.declaresIn_iff.mp h).1
  rw [contentGroup?] at hg
  split at hg
  · next heq => cases hg; rw [heq, Content.DeclaresIn] at content; exact content
  · next heq => cases hg; rw [heq, Content.DeclaresIn] at content; exact content
  · next heq =>
    split at hg
    · cases hg
    · cases hg; rw [heq, Content.DeclaresIn] at content; exact content
  · cases hg

theorem piecesOf (h : s.DeclaresIn p) {place : Enclosure} {t : ComplexType} (own : t.DeclaresIn p)
    {l : Leaf} (hl : .leaf l ∈ s.piecesOf context place t) : l.NamedIn p := by
  rcases List.mem_append.mp hl with hl | hl
  · rw [elementsOf] at hl
    cases hg : contentGroup? t with
    | none => simp [hg] at hl
    | some g =>
      rw [hg, Option.map_some, Option.getD_some] at hl
      have items := ModelGroup.declaresIn_iff.mp (contentGroup own hg)
      exact h.itemPieces _ _ _ 0 (fun _ _ hd => hd) items hl
  · rw [attributesOf] at hl
    split at hl
    · cases hl
    · have attributes := (ComplexType.declaresIn_iff.mp own).2
      exact h.attributePieces _ 0 (fun _ _ hd => hd) attributes hl

end DeclaresIn

end Symbols

end SoapBindings.Schema
