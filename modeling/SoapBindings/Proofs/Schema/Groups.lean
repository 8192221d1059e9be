import SoapBindings.Proofs.ContentModel.Instances
import SoapBindings.Proofs.Schema.Unlocated
import SoapBindings.Proofs.Schema.Uses
import SoapBindings.Proofs.Walks

/-!
# What types use through groups

The leaves of a content model are made by putting groups in place of references to them, as long as
a group is not expanded within itself. What comes of it can be said without that: a type uses what
its own items use (`Symbols.itemUses`), and what the items of each group use that it leads to
(`Symbols.mem_uses_itemPieces`). The same holds of attributes and their groups.
-/

set_option autoImplicit false

namespace SoapBindings.Schema

open Relation

/-! ## Names that lead on -/

section

variable {β : Type} {refs : β → List QName} {table : NameTable β} {names others : List QName}
  {name b : QName} {d e : β}

/-- Arrows from each declaration of a table to the names that it refers to. -/
def nameArrows (refs : β → List QName) (table : NameTable β) : Arrows QName :=
  table.map fun _ d => refs d

/-- Some of the names, or of those that they lead to, is `b`. -/
def LeadTo (refs : β → List QName) (table : NameTable β) (names : List QName) (b : QName) : Prop :=
  ∃ a ∈ names, ReflTransGen (nameArrows refs table).Leads a b

theorem leads_nameArrows_iff {a : QName} :
    (nameArrows refs table).Leads a b ↔ ∃ d, table[a]? = some d ∧ b ∈ refs d := by
  simp only [Arrows.Leads, nameArrows, Std.ExtTreeMap.getElem?_map, Option.map_eq_some_iff]
  constructor
  · rintro ⟨_, ⟨d, hd, rfl⟩, hb⟩
    exact ⟨d, hd, hb⟩
  · rintro ⟨d, hd, hb⟩
    exact ⟨_, ⟨d, hd, rfl⟩, hb⟩

theorem leadTo_append : LeadTo refs table (names ++ others) b ↔
    LeadTo refs table names b ∨ LeadTo refs table others b := by
  simp only [LeadTo, List.mem_append, or_and_right, exists_or]

theorem leadTo_cons : LeadTo refs table (name :: names) b ↔
    LeadTo refs table [name] b ∨ LeadTo refs table names b :=
  @leadTo_append β refs table [name] names b

/-- What a declared name leads to is the name itself, or what its declaration leads to without it. -/
theorem leadTo_singleton (hd : table[name]? = some d) :
    LeadTo refs table [name] b ↔ b = name ∨ LeadTo refs (table.erase name) (refs d) b := by
  have here : (nameArrows refs table)[name]? = some (refs d) := by
    rw [nameArrows, Std.ExtTreeMap.getElem?_map, hd, Option.map_some]
  simp only [LeadTo, List.mem_singleton, exists_eq_left, Arrows.path_iff_of_erase here]
  rw [nameArrows, erase_map]
  rfl

/-- A name that is not declared leads nowhere else. -/
theorem leadTo_singleton_of_absent (hd : table[name]? = none) :
    LeadTo refs table [name] b ↔ b = name := by
  constructor
  · rintro ⟨a, ha, path⟩
    obtain rfl := List.mem_singleton.mp ha
    have nowhere : (nameArrows refs table)[a]? = none := by
      rw [nameArrows, Std.ExtTreeMap.getElem?_map, hd, Option.map_none]
    exact Arrows.eq_of_path_of_absent nowhere path
  · rintro rfl
    exact ⟨b, List.mem_singleton_self b, .refl⟩

theorem LeadTo.tail {a : QName} (h : LeadTo refs table names a) (hd : table[a]? = some d)
    (hb : b ∈ refs d) : LeadTo refs table names b := by
  obtain ⟨first, hfirst, path⟩ := h
  exact ⟨first, hfirst, path.tail (leads_nameArrows_iff.mpr ⟨d, hd, hb⟩)⟩

theorem LeadTo.cases_tail (h : LeadTo refs table names b) :
    b ∈ names ∨ ∃ a d, LeadTo refs table names a ∧ table[a]? = some d ∧ b ∈ refs d := by
  obtain ⟨first, hfirst, path⟩ := h
  rcases ReflTransGen.cases_tail path with rfl | ⟨a, before, leads⟩
  · exact Or.inl hfirst
  · obtain ⟨d, hd, hb⟩ := leads_nameArrows_iff.mp leads
    exact Or.inr ⟨a, d, ⟨first, hfirst, before⟩, hd, hb⟩

/-- What holds of the names, and is passed on from a declared name to those that its declaration
refers to, holds of all that they lead to. -/
theorem LeadTo.closed {Q : QName → Prop} (h : LeadTo refs table names b) (start : ∀ a ∈ names, Q a)
    (passed : ∀ a c d, Q a → table[a]? = some d → c ∈ refs d → Q c) : Q b := by
  obtain ⟨first, hfirst, path⟩ := h
  induction path with
  | refl => exact start first hfirst
  | @tail a c _ leads ih =>
    obtain ⟨d, hd, hc⟩ := leads_nameArrows_iff.mp leads
    exact passed a c d ih hd hc

/-- The names lead to a declaration with some property. -/
def Through (refs : β → List QName) (table : NameTable β) (names : List QName)
    (P : QName → β → Prop) : Prop :=
  ∃ b d, LeadTo refs table names b ∧ table[b]? = some d ∧ P b d

variable {P : QName → β → Prop}

@[simp] theorem not_through_nil : ¬ Through refs table [] P := by
  rintro ⟨b, d, ⟨a, ha, _⟩, _⟩
  cases ha

theorem through_append : Through refs table (names ++ others) P ↔
    Through refs table names P ∨ Through refs table others P := by
  simp only [Through, leadTo_append, or_and_right, exists_or]

theorem through_cons : Through refs table (name :: names) P ↔
    Through refs table [name] P ∨ Through refs table names P :=
  @through_append β refs table [name] names P

theorem through_singleton (hd : table[name]? = some d) : Through refs table [name] P ↔
    P name d ∨ Through refs (table.erase name) (refs d) P := by
  simp only [Through, leadTo_singleton hd]
  constructor
  · rintro ⟨b, d', rfl | later, hd', holds⟩
    · rw [hd] at hd'
      cases hd'
      exact Or.inl holds
    · by_cases same : name = b
      · subst same
        rw [hd] at hd'
        cases hd'
        exact Or.inl holds
      · exact Or.inr ⟨b, d', later, getElem?_erase_eq_some_iff.mpr ⟨same, hd'⟩, holds⟩
  · rintro (holds | ⟨b, d', later, hd', holds⟩)
    · exact ⟨name, d, Or.inl rfl, hd, holds⟩
    · exact ⟨b, d', Or.inr later, (getElem?_erase_eq_some_iff.mp hd').2, holds⟩

theorem not_through_singleton (hd : table[name]? = none) : ¬ Through refs table [name] P := by
  rintro ⟨b, d, leads, hb, _⟩
  rw [(leadTo_singleton_of_absent hd).mp leads, hd] at hb
  cases hb

end

namespace Symbols

variable {s : Symbols} {u : Use}

/-! ## Groups of elements -/

mutual

/-- What the items of a group use, what stands in groups that they refer to not counted. -/
def groupUses (s : Symbols) (context : String) (place : Enclosure) : ModelGroup → List Use
  | ⟨_, _, items⟩ => itemUses s context place 0 items

def itemUses (s : Symbols) (context : String) (place : Enclosure) (i : Nat) :
    List GroupItem → List Use
  | [] => []
  | .element d _ :: rest =>
    .ofTypeUse .anyType (place.child i d.name) context d.type ::
      itemUses s context place (i + 1) rest
  | .elementRef name own :: rest =>
    (s.elementLeaf context name own).use :: itemUses s context place (i + 1) rest
  | .group g :: rest =>
    groupUses s context (place.step i) g ++ itemUses s context place (i + 1) rest
  | .groupRef name _ :: rest =>
    (if s.groups.contains name then [] else [.missing ⟨name, .group, context⟩]) ++
      itemUses s context place (i + 1) rest
  | .any _ :: rest => .builtin .anyType :: itemUses s context place (i + 1) rest

end

theorem groupUses_eq (context : String) (place : Enclosure) (g : ModelGroup) :
    s.groupUses context place g = s.itemUses context place 0 g.items := by
  cases g
  rw [groupUses]

/-- The groups that a declared group refers to. -/
def refsOfGroup (d : Declared GroupDecl) : List QName := d.decl.group.groupRefs

/-- The use is one of the items of a declared group. -/
def UsedInGroup (s : Symbols) (context : String) (u : Use) (name : QName)
    (d : Declared GroupDecl) : Prop :=
  u ∈ s.groupUses context ⟨.top .group name, d.decl.name⟩ d.decl.group

theorem elementLeaf_use (context : String) (name : QName) (occurs occurs' : Occurs) :
    (s.elementLeaf context name occurs).use = (s.elementLeaf context name occurs').use := by
  simp only [elementLeaf]
  cases s.elements[name]? with
  | none => rfl
  | some d => rfl

/-- Items use what they use themselves, and what is used in the groups that they lead to. -/
theorem mem_uses_itemPieces (context : String) (available : Groups) (occurs : Occurs)
    (optional : Bool) (place : Enclosure) (i : Nat) (items : List GroupItem)
    (declared : ∀ name ∈ available, name ∈ s.groups) :
    u ∈ (s.itemPieces context available occurs optional place i items).map (·.use) ↔
      u ∈ s.itemUses context place i items ∨
        Through refsOfGroup available (groupRefsOf items) (s.UsedInGroup context u) := by
  induction available, occurs, optional, place, i, items using itemPieces.induct with
  | case1 available occurs optional place i =>
    rw [itemPieces, itemUses, groupRefsOf]
    simp
  | case2 available occurs optional place i d own rest ih =>
    rw [itemPieces, itemUses, List.map_cons, List.mem_cons, List.mem_cons, or_assoc, ih declared]
    rfl
  | case3 available occurs optional place i name own rest ih =>
    rw [itemPieces, itemUses, List.map_cons, List.mem_cons, List.mem_cons, or_assoc, ih declared,
      Piece.use, elementLeaf_use context name own (own.within occurs optional)]
    rfl
  | case4 available occurs optional place i compositor own items rest inner ih =>
    rw [itemPieces, itemUses, groupRefsOf, List.map_append, List.mem_append, List.mem_append,
      inner declared, ih declared, through_append, groupUses, ModelGroup.groupRefs]
    exact or_or_or_comm ..
  | case5 available occurs optional place i name own rest inner ih =>
    rw [itemPieces_cons_groupRef, itemUses, groupRefsOf, List.map_append, List.mem_append,
      List.mem_append, ih declared, through_cons, or_or_or_comm]
    refine or_congr_left ?_
    cases hd : available[name]? with
    | none =>
      -- What is being expanded already adds nothing here; what is not declared is missing.
      rw [or_iff_left (not_through_singleton hd)]
      dsimp only
      split
      · rfl
      · rfl
    | some d =>
      have known : s.groups.contains name :=
        Std.ExtTreeMap.mem_iff_contains.mp (declared name (mem_of_getElem? hd))
      have kept : ∀ other ∈ available.erase name, other ∈ s.groups :=
        fun other h => declared other (Std.ExtTreeMap.mem_of_mem_erase h)
      have items : s.UsedInGroup context u name d ↔ u ∈ s.itemUses context
          ⟨.top .group name, d.decl.name⟩ 0 d.decl.group.items := by
        rw [UsedInGroup, groupUses_eq]
      dsimp only
      rw [if_pos known, or_iff_right List.not_mem_nil, through_singleton hd, items, refsOfGroup,
        ModelGroup.groupRefs_eq]
      exact inner d hd kept
  | case6 available occurs optional place i own rest ih =>
    rw [itemPieces, itemUses, List.map_cons, List.mem_cons, List.mem_cons, or_assoc, ih declared]
    rfl

mutual

theorem missing_mem_groupUses (context : String) (place : Enclosure) (g : ModelGroup) {name : QName}
    (h : name ∈ g.groupRefs) (absent : name ∉ s.groups) :
    .missing ⟨name, .group, context⟩ ∈ s.groupUses context place g :=
  match g with
  | ⟨_, _, items⟩ => by
    rw [ModelGroup.groupRefs] at h
    rw [groupUses]
    exact missing_mem_itemUses context place 0 items h absent

/-- A reference to a group that is not declared stands among what is used. -/
theorem missing_mem_itemUses (context : String) (place : Enclosure) (i : Nat)
    (items : List GroupItem) {name : QName} (h : name ∈ groupRefsOf items)
    (absent : name ∉ s.groups) :
    .missing ⟨name, .group, context⟩ ∈ s.itemUses context place i items :=
  match items with
  | [] => by simp [groupRefsOf] at h
  | .element _ _ :: rest | .elementRef _ _ :: rest | .any _ :: rest => by
    rw [itemUses]
    exact List.mem_cons_of_mem _ (missing_mem_itemUses context place (i + 1) rest h absent)
  | .group g :: rest => by
    rw [groupRefsOf] at h
    rw [itemUses]
    rcases List.mem_append.mp h with h | h
    · exact List.mem_append_left _ (missing_mem_groupUses context (place.step i) g h absent)
    · exact List.mem_append_right _ (missing_mem_itemUses context place (i + 1) rest h absent)
  | .groupRef other _ :: rest => by
    rw [groupRefsOf] at h
    rw [itemUses]
    rcases List.mem_cons.mp h with rfl | h
    · rw [if_neg fun known => absent (Std.ExtTreeMap.mem_iff_contains.mpr known)]
      exact List.mem_append_left _ (List.mem_singleton_self _)
    · exact List.mem_append_right _ (missing_mem_itemUses context place (i + 1) rest h absent)

end

/-! ## Groups of attributes -/

/-- What attributes use, those in groups that they refer to not counted. -/
def attributeUses (s : Symbols) (context : String) (place : Enclosure) (i : Nat) :
    List AttributeItem → List Use
  | [] => []
  | .own d :: rest =>
    (if d.usage == .prohibited then []
      else [(attributeLeaf context (place.child i ("@" ++ d.name)) d d.usage).use]) ++
      attributeUses s context place (i + 1) rest
  | .ref name usage :: rest =>
    (if usage == .prohibited then [] else [(s.attributeRefLeaf context name usage).use]) ++
      attributeUses s context place (i + 1) rest
  | .groupRef name :: rest =>
    (if s.attributeGroups.contains name then []
      else [.missing ⟨name, .attributeGroup, context⟩]) ++
      attributeUses s context place (i + 1) rest

/-- The groups that attributes refer to. -/
def attributeGroupRefs : List AttributeItem → List QName
  | [] => []
  | .groupRef name :: rest => name :: attributeGroupRefs rest
  | .own _ :: rest | .ref _ _ :: rest => attributeGroupRefs rest

/-- The groups that a declared group of attributes refers to. -/
def refsOfAttributeGroup (d : Declared AttributeGroupDecl) : List QName :=
  attributeGroupRefs d.decl.attributes

/-- The use is one of the attributes of a declared group. -/
def UsedInAttributeGroup (s : Symbols) (context : String) (u : Use) (name : QName)
    (d : Declared AttributeGroupDecl) : Prop :=
  u ∈ s.attributeUses context ⟨.top .attributeGroup name, d.decl.name⟩ 0 d.decl.attributes

/-- Attributes use what they use themselves, and what is used in the groups that they lead to. -/
theorem mem_uses_attributePieces (context : String) (available : AttributeGroups)
    (place : Enclosure) (i : Nat) (items : List AttributeItem)
    (declared : ∀ name ∈ available, name ∈ s.attributeGroups) :
    u ∈ (s.attributePieces context available place i items).map (·.use) ↔
      u ∈ s.attributeUses context place i items ∨
        Through refsOfAttributeGroup available (attributeGroupRefs items)
          (s.UsedInAttributeGroup context u) := by
  induction available, place, i, items using attributePieces.induct with
  | case1 available place i =>
    rw [attributePieces, attributeUses, attributeGroupRefs]
    simp
  | case2 available place i d rest ih =>
    rw [attributePieces, attributeUses, attributeGroupRefs, List.map_append, List.mem_append,
      List.mem_append, ih declared, or_assoc]
    refine or_congr_left ?_
    split
    · rfl
    · rfl
  | case3 available place i name usage rest ih =>
    rw [attributePieces, attributeUses, attributeGroupRefs, List.map_append, List.mem_append,
      List.mem_append, ih declared, or_assoc]
    refine or_congr_left ?_
    split
    · rfl
    · rfl
  | case4 available place i name rest inner ih =>
    rw [attributePieces_cons_groupRef, attributeUses, attributeGroupRefs, List.map_append,
      List.mem_append, List.mem_append, ih declared, through_cons, or_or_or_comm]
    refine or_congr_left ?_
    cases hd : available[name]? with
    | none =>
      rw [or_iff_left (not_through_singleton hd)]
      dsimp only
      split
      · rfl
      · rfl
    | some d =>
      have known : s.attributeGroups.contains name :=
        Std.ExtTreeMap.mem_iff_contains.mp (declared name (mem_of_getElem? hd))
      have kept : ∀ other ∈ available.erase name, other ∈ s.attributeGroups :=
        fun other h => declared other (Std.ExtTreeMap.mem_of_mem_erase h)
      dsimp only
      rw [if_pos known, or_iff_right List.not_mem_nil, through_singleton hd]
      exact inner d hd kept

theorem missing_mem_attributeUses (context : String) (place : Enclosure) (i : Nat)
    {items : List AttributeItem} {name : QName} (h : name ∈ attributeGroupRefs items)
    (absent : name ∉ s.attributeGroups) :
    .missing ⟨name, .attributeGroup, context⟩ ∈ s.attributeUses context place i items := by
  induction items generalizing i with
  | nil => cases h
  | cons item rest ih =>
    cases item with
    | own d =>
      rw [attributeUses]
      exact List.mem_append_right _ (ih (i + 1) h)
    | ref other usage =>
      rw [attributeUses]
      exact List.mem_append_right _ (ih (i + 1) h)
    | groupRef other =>
      rw [attributeUses]
      rcases List.mem_cons.mp h with rfl | h
      · rw [if_neg fun known => absent (Std.ExtTreeMap.mem_iff_contains.mpr known)]
        exact List.mem_append_left _ (List.mem_singleton_self _)
      · exact List.mem_append_right _ (ih (i + 1) h)

/-! ## Complex types -/

/-- The groups that the content of a type refers to. -/
def contentRefs (t : ComplexType) : List QName := ((contentGroup? t).map (·.groupRefs)).getD []

/-- The groups that the attributes of a type refer to. -/
def attributeRefs (t : ComplexType) : List QName :=
  if isArray t then [] else attributeGroupRefs t.attributes

/-- A complex type uses what it comes from, what its own items and attributes use, and what is used
in the groups that it leads to. -/
theorem mem_uses_complex_iff {context : String} {place : Enclosure} {t : ComplexType} :
    u ∈ s.uses context place (.complex t) ↔ origin? context t = some u ∨
      (∃ g, contentGroup? t = some g ∧ u ∈ s.groupUses context (place.step 0) g) ∨
      Through refsOfGroup s.groups (contentRefs t) (s.UsedInGroup context u) ∨
      (isArray t = false ∧ u ∈ s.attributeUses context (place.step 1) 0 t.attributes) ∨
      Through refsOfAttributeGroup s.attributeGroups (attributeRefs t)
        (s.UsedInAttributeGroup context u) := by
  have elements : u ∈ (s.elementsOf context place t).map (·.use) ↔
      (∃ g, contentGroup? t = some g ∧ u ∈ s.groupUses context (place.step 0) g) ∨
        Through refsOfGroup s.groups (contentRefs t) (s.UsedInGroup context u) := by
    rw [elementsOf, contentRefs]
    cases contentGroup? t with
    | none => simp
    | some g =>
      simp only [Option.map_some, Option.getD_some, Option.some.injEq, exists_eq_left', groupPieces,
        groupUses_eq, ModelGroup.groupRefs_eq]
      exact mem_uses_itemPieces context s.groups _ _ _ 0 g.items fun _ h => h
  have attributes : u ∈ (s.attributesOf context place t).map (·.use) ↔
      (isArray t = false ∧ u ∈ s.attributeUses context (place.step 1) 0 t.attributes) ∨
        Through refsOfAttributeGroup s.attributeGroups (attributeRefs t)
          (s.UsedInAttributeGroup context u) := by
    rw [attributesOf, attributeRefs]
    cases isArray t with
    | true => simp
    | false =>
      simp only [Bool.false_eq_true, if_false, true_and]
      exact mem_uses_attributePieces context s.attributeGroups _ 0 t.attributes fun _ h => h
  rw [uses, List.mem_append, Option.mem_toList, List.map_append, List.mem_append, elements,
    attributes, or_assoc]

end Symbols

end SoapBindings.Schema
