import SoapBindings.Proofs.Schema.Uses

/-!
# Bounds that can be met

Bounds are a range if the least count is not above the largest (`Occurs.IsRange`); then there is a
count that meets them. Multiplying the bounds of a member by those of the group around it keeps
this (`Occurs.IsRange.within`): the product of counts is monotone, and cutting it off at the largest
count of 32 bits is, too. `bounds` lists all bounds that are written in a declaration, those in
types declared in place among them. If all of these are ranges in the tables, the bounds of every
leaf are a range, through however many groups it is come to (`Symbols.InRange.piecesOf`).
-/

set_option autoImplicit false

namespace SoapBindings.Schema

/-- The least count is not above the largest. No count is above `unbounded`. -/
def Occurs.IsRange (o : Occurs) : Prop :=
  match o.max with
  | .bounded n => o.min ≤ n
  | .unbounded => True

instance (o : Occurs) : Decidable o.IsRange :=
  match o with
  | ⟨min, .bounded n⟩ => inferInstanceAs (Decidable (min ≤ n))
  | ⟨_, .unbounded⟩ => inferInstanceAs (Decidable True)

theorem Occurs.isRange_once : Occurs.once.IsRange := Nat.le_refl 1

/-- Cutting off what is above the largest count keeps the order. -/
theorem timesCount_le_timesCount {a a' b b' : Nat} (ha : a ≤ a') (hb : b ≤ b') :
    timesCount a b ≤ timesCount a' b' := by
  have product : a * b ≤ a' * b' := Nat.mul_le_mul ha hb
  rw [timesCount, timesCount]
  omega

/-- What stands in a choice may be absent, which only lowers the least count. -/
theorem Occurs.IsRange.within {member group : Occurs} (hm : member.IsRange) (hg : group.IsRange)
    (optional : Bool) : (member.within group optional).IsRange := by
  obtain ⟨least, most⟩ := member
  obtain ⟨around, limit⟩ := group
  cases limit with
  | unbounded => trivial
  | bounded a =>
    cases most with
    | unbounded => trivial
    | bounded b =>
      cases optional with
      | true => exact Nat.zero_le _
      | false => exact timesCount_le_timesCount hg hm

-- Both products are cut off, and a single count is left.
example : (⟨2, .bounded 3⟩ : Occurs).within ⟨maxCount, .bounded maxCount⟩ false =
    ⟨maxCount, .bounded maxCount⟩ := by decide

/-! ## All bounds of a declaration -/

mutual

def TypeUse.bounds : TypeUse → List Occurs
  | .named _ => []
  | .anonymous t => t.bounds

def TypeDecl.bounds : TypeDecl → List Occurs
  | .simple t => t.bounds
  | .complex t => t.bounds

/-- The members of a union do not count, as a union is read as a text. -/
def SimpleType.bounds : SimpleType → List Occurs
  | ⟨_, _, .restriction base _⟩ => base.bounds
  | ⟨_, _, .list item⟩ => item.bounds
  | ⟨_, _, .union _⟩ => []

def ComplexType.bounds : ComplexType → List Occurs
  | ⟨_, _, _, _, content, attributes, _, _⟩ => content.bounds ++ attributesBounds attributes

def Content.bounds : Content → List Occurs
  | .group g | .extension _ (some g) | .restriction _ (some g) => g.bounds
  | _ => []

def ModelGroup.bounds : ModelGroup → List Occurs
  | ⟨_, own, items⟩ => own :: itemsBounds items

def itemsBounds : List GroupItem → List Occurs
  | [] => []
  | item :: items => item.bounds ++ itemsBounds items

def GroupItem.bounds : GroupItem → List Occurs
  | .element d own => own :: d.bounds
  | .group g => g.bounds
  | .elementRef _ own | .groupRef _ own | .any own => [own]

def ElementDecl.bounds : ElementDecl → List Occurs
  | ⟨_, _, some type, _, _, _, _, _, _⟩ => type.bounds
  | ⟨_, _, none, _, _, _, _, _, _⟩ => []

/-- An attribute has no bounds of its own, but its type may have some. -/
def attributesBounds : List AttributeItem → List Occurs
  | [] => []
  | item :: items => item.bounds ++ attributesBounds items

def AttributeItem.bounds : AttributeItem → List Occurs
  | .own d => d.bounds
  | .ref _ _ | .groupRef _ => []

def AttributeDecl.bounds : AttributeDecl → List Occurs
  | ⟨_, _, some type, _, _, _⟩ => type.bounds
  | ⟨_, _, none, _, _, _⟩ => []

end

/-- The bounds in the type that a declaration declares in place, if it does. -/
def useBounds (type : Option TypeUse) : List Occurs := type.toList.flatMap (·.bounds)

/-- The bounds in the group of a derivation, if it has one. -/
def groupBounds (group : Option ModelGroup) : List Occurs := group.toList.flatMap (·.bounds)

@[simp] theorem itemsBounds_append (items more : List GroupItem) :
    itemsBounds (items ++ more) = itemsBounds items ++ itemsBounds more := by
  induction items with
  | nil => rfl
  | cons item items ih => simp [itemsBounds, ih]

@[simp] theorem attributesBounds_append (items more : List AttributeItem) :
    attributesBounds (items ++ more) = attributesBounds items ++ attributesBounds more := by
  induction items with
  | nil => rfl
  | cons item items ih => simp [attributesBounds, ih]

theorem ComplexType.bounds_eq (t : ComplexType) :
    t.bounds = t.content.bounds ++ attributesBounds t.attributes := by
  cases t
  rw [bounds]

theorem ModelGroup.bounds_eq (g : ModelGroup) : g.bounds = g.occurs :: itemsBounds g.items := by
  cases g
  rw [bounds]

theorem ElementDecl.bounds_eq (d : ElementDecl) : d.bounds = useBounds d.type := by
  obtain ⟨_, _, type, _, _, _, _, _, _⟩ := d
  cases type with
  | none => simp [bounds, useBounds]
  | some use => simp [bounds, useBounds]

theorem AttributeDecl.bounds_eq (d : AttributeDecl) : d.bounds = useBounds d.type := by
  obtain ⟨_, _, type, _, _, _⟩ := d
  cases type with
  | none => simp [bounds, useBounds]
  | some use => simp [bounds, useBounds]

theorem Content.bounds_extension (base : QName) (group : Option ModelGroup) :
    (Content.extension base group).bounds = groupBounds group := by
  cases group with
  | none => simp [bounds, groupBounds]
  | some g => simp [bounds, groupBounds]

theorem Content.bounds_restriction (base : QName) (group : Option ModelGroup) :
    (Content.restriction base group).bounds = groupBounds group := by
  cases group with
  | none => simp [bounds, groupBounds]
  | some g => simp [bounds, groupBounds]

/-! ## Types declared in place -/

mutual

/-- The bounds of a type declared in place are among those of the declaration around it. -/
theorem TypeUse.bounds_inline (root : Site) : (use : TypeUse) →
    ∀ e ∈ use.inlineTypes root, e.2.bounds ⊆ use.bounds
  | .named _, e, he => absurd he (by simp [TypeUse.inlineTypes])
  | .anonymous t, e, he => by
    rw [TypeUse.inlineTypes] at he
    rw [TypeUse.bounds]
    rcases List.mem_cons.mp he with rfl | he
    · exact List.Subset.refl _
    · exact t.bounds_inline root e he

theorem TypeDecl.bounds_inline (root : Site) : (t : TypeDecl) →
    ∀ e ∈ t.inlineTypes root, e.2.bounds ⊆ t.bounds
  | .simple t, e, he => by
    rw [TypeDecl.inlineTypes] at he
    rw [TypeDecl.bounds]
    exact t.bounds_inline root e he
  | .complex t, e, he => by
    rw [TypeDecl.inlineTypes] at he
    rw [TypeDecl.bounds]
    exact t.bounds_inline root e he

theorem SimpleType.bounds_inline (root : Site) : (t : SimpleType) →
    ∀ e ∈ t.inlineTypes root, e.2.bounds ⊆ t.bounds
  | ⟨_, _, .restriction base _⟩, e, he => by
    rw [SimpleType.inlineTypes] at he
    rw [SimpleType.bounds]
    exact base.bounds_inline (root.step 0) e he
  | ⟨_, _, .list item⟩, e, he => by
    rw [SimpleType.inlineTypes] at he
    rw [SimpleType.bounds]
    exact item.bounds_inline (root.step 0) e he
  | ⟨_, _, .union _⟩, e, he => absurd he (by simp [SimpleType.inlineTypes])

theorem ComplexType.bounds_inline (root : Site) : (t : ComplexType) →
    ∀ e ∈ t.inlineTypes root, e.2.bounds ⊆ t.bounds
  | ⟨_, _, _, _, content, attributes, _, _⟩, e, he => by
    rw [ComplexType.inlineTypes] at he
    rw [ComplexType.bounds]
    rcases List.mem_append.mp he with he | he
    · exact List.subset_append_of_subset_left _ (content.bounds_inline (root.step 0) e he)
    · exact List.subset_append_of_subset_right _
        (attributesBounds_inline (root.step 1) 0 attributes e he)

theorem Content.bounds_inline (root : Site) : (c : Content) →
    ∀ e ∈ c.inlineTypes root, e.2.bounds ⊆ c.bounds
  | .group g, e, he | .extension _ (some g), e, he | .restriction _ (some g), e, he => by
    rw [Content.inlineTypes] at he
    rw [Content.bounds]
    exact g.bounds_inline root e he
  | .empty, _, he | .extension _ none, _, he | .restriction _ none, _, he
  | .simpleExtension _, _, he | .simpleRestriction _ _, _, he =>
    absurd he (by simp [Content.inlineTypes])

theorem ModelGroup.bounds_inline (root : Site) : (g : ModelGroup) →
    ∀ e ∈ g.inlineTypes root, e.2.bounds ⊆ g.bounds
  | ⟨_, _, items⟩, e, he => by
    rw [ModelGroup.inlineTypes] at he
    rw [ModelGroup.bounds]
    exact List.subset_cons_of_subset _ (itemsBounds_inline root 0 items e he)

theorem itemsBounds_inline (root : Site) (i : Nat) : (items : List GroupItem) →
    ∀ e ∈ itemsInlineTypes root i items, e.2.bounds ⊆ itemsBounds items
  | [], e, he => absurd he (by simp [itemsInlineTypes])
  | .element ⟨_, _, some type, _, _, _, _, _, _⟩ _ :: rest, e, he => by
    rw [itemsInlineTypes] at he
    rw [itemsBounds, GroupItem.bounds, ElementDecl.bounds]
    rcases List.mem_append.mp he with he | he
    · exact List.subset_append_of_subset_left _
        (List.subset_cons_of_subset _ (type.bounds_inline (root.step i) e he))
    · exact List.subset_append_of_subset_right _ (itemsBounds_inline root (i + 1) rest e he)
  | .group g :: rest, e, he => by
    rw [itemsInlineTypes] at he
    rw [itemsBounds, GroupItem.bounds]
    rcases List.mem_append.mp he with he | he
    · exact List.subset_append_of_subset_left _ (g.bounds_inline (root.step i) e he)
    · exact List.subset_append_of_subset_right _ (itemsBounds_inline root (i + 1) rest e he)
  | .element ⟨_, _, none, _, _, _, _, _, _⟩ _ :: rest, e, he | .elementRef _ _ :: rest, e, he
  | .groupRef _ _ :: rest, e, he | .any _ :: rest, e, he => by
    rw [itemsInlineTypes] at he
    · rw [itemsBounds]
      exact List.subset_append_of_subset_right _ (itemsBounds_inline root (i + 1) rest e he)
    all_goals simp

theorem attributesBounds_inline (root : Site) (i : Nat) : (items : List AttributeItem) →
    ∀ e ∈ attributesInlineTypes root i items, e.2.bounds ⊆ attributesBounds items
  | [], e, he => absurd he (by simp [attributesInlineTypes])
  | .own ⟨_, _, some type, _, _, _⟩ :: rest, e, he => by
    rw [attributesInlineTypes] at he
    rw [attributesBounds, AttributeItem.bounds, AttributeDecl.bounds]
    rcases List.mem_append.mp he with he | he
    · exact List.subset_append_of_subset_left _ (type.bounds_inline (root.step i) e he)
    · exact List.subset_append_of_subset_right _ (attributesBounds_inline root (i + 1) rest e he)
  | .own ⟨_, _, none, _, _, _⟩ :: rest, e, he | .ref _ _ :: rest, e, he
  | .groupRef _ :: rest, e, he => by
    rw [attributesInlineTypes] at he
    · rw [attributesBounds]
      exact List.subset_append_of_subset_right _ (attributesBounds_inline root (i + 1) rest e he)
    all_goals simp

end

/-! ## Leaves -/

/-- All of the bounds are ranges. -/
def InRange (bounds : List Occurs) : Prop := ∀ o ∈ bounds, o.IsRange

variable {bounds more : List Occurs} {o : Occurs}

@[simp] theorem inRange_nil : InRange [] := by simp [InRange]

@[simp] theorem inRange_cons : InRange (o :: bounds) ↔ o.IsRange ∧ InRange bounds := by
  simp [InRange]

@[simp] theorem inRange_append :
    InRange (bounds ++ more) ↔ InRange bounds ∧ InRange more := by
  simp [InRange, or_imp, forall_and]

theorem InRange.mono (h : InRange bounds) (sub : more ⊆ bounds) : InRange more :=
  fun o ho => h o (sub ho)

theorem InRange.inline {type : Option TypeUse} (h : InRange (useBounds type)) {use : TypeUse}
    (huse : type = some use) (root : Site) :
    ∀ e ∈ use.inlineTypes root, InRange e.2.bounds := by
  intro e he
  refine (h.mono ?_).mono (use.bounds_inline root e he)
  rw [huse]
  simp [useBounds]

namespace Symbols

/-- All bounds in the tables are ranges. -/
structure InRange (s : Symbols) : Prop where
  types : ∀ (name : QName) (d : Declared TypeDecl), s.types[name]? = some d →
    Schema.InRange d.decl.bounds
  elements : ∀ (name : QName) (d : Declared ElementDecl), s.elements[name]? = some d →
    Schema.InRange d.decl.bounds
  attributes : ∀ (name : QName) (d : Declared AttributeDecl), s.attributes[name]? = some d →
    Schema.InRange d.decl.bounds
  groups : ∀ (name : QName) (d : Declared GroupDecl), s.groups[name]? = some d →
    Schema.InRange d.decl.group.bounds
  attributeGroups : ∀ (name : QName) (d : Declared AttributeGroupDecl),
    s.attributeGroups[name]? = some d → Schema.InRange (attributesBounds d.decl.attributes)

namespace InRange

variable {s : Symbols} {context : String}

/-- The same is true of all types declared in place. -/
theorem listed (h : s.InRange) : ∀ e ∈ s.inlineEntries, Schema.InRange e.2.bounds := by
  intro e he
  obtain ⟨root, listed, lists, he⟩ := mem_inlineEntries.mp he
  cases lists with
  | type hd => exact (h.types _ _ hd).mono (TypeDecl.bounds_inline _ _ e he)
  | element hd huse =>
    have own := h.elements _ _ hd
    rw [ElementDecl.bounds_eq] at own
    exact own.inline huse _ e he
  | attr hd huse =>
    have own := h.attributes _ _ hd
    rw [AttributeDecl.bounds_eq] at own
    exact own.inline huse _ e he
  | group hd => exact (h.groups _ _ hd).mono (ModelGroup.bounds_inline _ _ e he)
  | attributeGroup hd =>
    exact (h.attributeGroups _ _ hd).mono (attributesBounds_inline _ 0 _ e he)

/-- A reference to an element has the bounds of the reference, whatever it refers to. -/
theorem occurs_elementLeaf (name : QName) (occurs : Occurs) :
    (s.elementLeaf context name occurs).occurs = occurs := by
  rw [elementLeaf]
  split
  · rfl
  · rfl

/-- The bounds around the items are multiplied into those of each leaf; a group that is referred to
brings its own. -/
theorem itemPieces (h : s.InRange) {available : Groups} {occurs : Occurs} (optional : Bool)
    (place : Enclosure) (i : Nat) {items : List GroupItem}
    (declared : ∀ (name : QName) (d : Declared GroupDecl), available[name]? = some d →
      s.groups[name]? = some d) (around : occurs.IsRange)
    (own : Schema.InRange (itemsBounds items)) {l : Leaf}
    (hl : .leaf l ∈ s.itemPieces context available occurs optional place i items) :
    l.occurs.IsRange := by
  induction available, occurs, optional, place, i, items using itemPieces.induct with
  | case1 => simp [Symbols.itemPieces] at hl
  | case2 available occurs optional place i d bounds rest ih =>
    simp only [itemsBounds, GroupItem.bounds, inRange_append, inRange_cons] at own
    rw [Symbols.itemPieces] at hl
    rcases List.mem_cons.mp hl with first | hl
    · cases first
      exact own.1.1.within around optional
    · exact ih declared around own.2 hl
  | case3 available occurs optional place i name bounds rest ih =>
    simp only [itemsBounds, GroupItem.bounds, inRange_append, inRange_cons] at own
    rw [Symbols.itemPieces] at hl
    rcases List.mem_cons.mp hl with first | hl
    · cases first
      rw [occurs_elementLeaf]
      exact own.1.1.within around optional
    · exact ih declared around own.2 hl
  | case4 available occurs optional place i rest compositor bounds items inner ih =>
    simp only [itemsBounds, GroupItem.bounds, ModelGroup.bounds, inRange_append,
      inRange_cons] at own
    rw [Symbols.itemPieces] at hl
    rcases List.mem_append.mp hl with hl | hl
    · exact inner declared (own.1.1.within around optional) own.1.2 hl
    · exact ih declared around own.2 hl
  | case5 available occurs optional place i name bounds rest inner ih =>
    simp only [itemsBounds, GroupItem.bounds, inRange_append, inRange_cons] at own
    rw [itemPieces_cons_groupRef] at hl
    rcases List.mem_append.mp hl with hl | hl
    · split at hl
      · next d hd =>
        have group := h.groups name d (declared name d hd)
        rw [ModelGroup.bounds_eq, inRange_cons] at group
        -- The bounds of the group count within those of the reference.
        have reference := own.1.1.within around optional
        refine inner d hd (fun other d' hd' => ?_) (group.1.within reference optional) group.2 hl
        exact declared other d' (getElem?_erase_eq_some_iff.mp hd').2
      · split at hl <;> simp at hl
    · exact ih declared around own.2 hl
  | case6 available occurs optional place i bounds rest ih =>
    simp only [itemsBounds, GroupItem.bounds, inRange_append, inRange_cons] at own
    rw [Symbols.itemPieces] at hl
    rcases List.mem_cons.mp hl with first | hl
    · cases first
      exact own.1.1.within around optional
    · exact ih declared around own.2 hl

/-- Each leaf of a group, wherever the group stands. -/
theorem groupPieces (h : s.InRange) (place : Enclosure) {g : ModelGroup}
    (own : Schema.InRange g.bounds) {l : Leaf} (hl : .leaf l ∈ s.groupPieces context place g) :
    l.occurs.IsRange := by
  rw [ModelGroup.bounds_eq, inRange_cons] at own
  refine h.itemPieces _ place 0 (fun _ _ hd => hd) ?_ own.2 hl
  exact own.1.within Occurs.isRange_once false

theorem isRange_attributeOccurs (usage : Usage) : (attributeOccurs usage).IsRange := by
  cases usage with
  | required => exact Nat.le_refl 1
  | optional | prohibited => exact Nat.zero_le 1

/-- An attribute is there at most once, by whatever group it is come to. -/
theorem attributePieces {available : AttributeGroups} (place : Enclosure) (i : Nat)
    {items : List AttributeItem} {l : Leaf}
    (hl : .leaf l ∈ s.attributePieces context available place i items) : l.occurs.IsRange := by
  induction available, place, i, items using attributePieces.induct with
  | case1 => simp [Symbols.attributePieces] at hl
  | case2 available place i d rest ih =>
    rw [Symbols.attributePieces] at hl
    rcases List.mem_append.mp hl with hl | hl
    · split at hl
      · cases hl
      · cases List.mem_singleton.mp hl
        exact isRange_attributeOccurs d.usage
    · exact ih hl
  | case3 available place i name usage rest ih =>
    rw [Symbols.attributePieces] at hl
    rcases List.mem_append.mp hl with hl | hl
    · split at hl
      · cases hl
      · cases List.mem_singleton.mp hl
        rw [attributeRefLeaf]
        split
        · exact isRange_attributeOccurs usage
        · exact isRange_attributeOccurs usage
    · exact ih hl
  | case4 available place i name rest inner ih =>
    rw [attributePieces_cons_groupRef] at hl
    rcases List.mem_append.mp hl with hl | hl
    · split at hl
      · next d hd => exact inner d hd hl
      · split at hl <;> simp at hl
    · exact ih hl

theorem contentGroup {t : ComplexType} (own : Schema.InRange t.bounds) {g : ModelGroup}
    (hg : contentGroup? t = some g) : Schema.InRange g.bounds := by
  rw [ComplexType.bounds_eq, inRange_append] at own
  have content := own.1
  rw [contentGroup?] at hg
  split at hg
  · next heq =>
    cases hg
    rwa [heq, Content.bounds] at content
  · next heq =>
    rw [heq, hg, Content.bounds_extension] at content
    simpa [groupBounds] using content
  · next heq =>
    split at hg
    · cases hg
    · rw [heq, hg, Content.bounds_restriction] at content
      simpa [groupBounds] using content
  · cases hg

/-- Each leaf of a type. -/
theorem piecesOf (h : s.InRange) {place : Enclosure} {t : ComplexType}
    (own : Schema.InRange t.bounds) {l : Leaf} (hl : .leaf l ∈ s.piecesOf context place t) :
    l.occurs.IsRange := by
  rcases List.mem_append.mp hl with hl | hl
  · rw [elementsOf] at hl
    cases hg : contentGroup? t with
    | none =>
      rw [hg] at hl
      cases hl
    | some g =>
      rw [hg] at hl
      exact h.groupPieces _ (contentGroup own hg) hl
  · rw [attributesOf] at hl
    split at hl
    · cases hl
    · exact attributePieces _ 0 hl

end InRange

end Symbols

end SoapBindings.Schema
