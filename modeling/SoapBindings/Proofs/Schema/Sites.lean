import SoapBindings.Proofs.Tables
import SoapBindings.Schema.Leaves

/-!
# Sites of types declared in place

A declaration lists the types declared in it, however deep, and with a type all that is declared
within that type in turn (`NestedAt`); the proof is one induction over all kinds of declarations.
So the list of all types declared in place is closed: `Symbols.within_inlineEntries`.
-/

set_option autoImplicit false

namespace SoapBindings.Schema

/-! ## Nested declarations -/

/-- A type declared in place, listed among `listed`, stands in the declaration at `root`, and what
is declared in the type is listed too. -/
structure NestedAt (root : Site) (listed : List (Site × TypeDecl)) (e : Site × TypeDecl) :
    Prop where
  kind : e.1.kind = root.kind
  name : e.1.name = root.name
  within : ∀ inner ∈ e.2.inlineTypes e.1, inner ∈ listed

namespace NestedAt

variable {root : Site} {listed more : List (Site × TypeDecl)} {e : Site × TypeDecl}

theorem mono (h : NestedAt root listed e) (sub : ∀ inner ∈ listed, inner ∈ more) :
    NestedAt root more e :=
  ⟨h.kind, h.name, fun inner hinner => sub inner (h.within inner hinner)⟩

theorem of_step {i : Nat} (h : NestedAt (root.step i) listed e) : NestedAt root listed e :=
  ⟨h.kind, h.name, h.within⟩

theorem append_left (h : NestedAt root listed e) : NestedAt root (listed ++ more) e :=
  h.mono fun _ => List.mem_append_left more

theorem append_right (h : NestedAt root more e) : NestedAt root (listed ++ more) e :=
  h.mono fun _ => List.mem_append_right listed

end NestedAt

mutual

theorem TypeUse.nested (root : Site) : (use : TypeUse) →
    ∀ e ∈ use.inlineTypes root, NestedAt root (use.inlineTypes root) e
  | .named _, _, he => absurd he (by simp [TypeUse.inlineTypes])
  | .anonymous t, e, he => by
    rw [TypeUse.inlineTypes] at he ⊢
    rcases List.mem_cons.mp he with rfl | he
    · exact ⟨rfl, rfl, fun _ => List.mem_cons_of_mem _⟩
    · exact (t.nested root e he).mono fun _ => List.mem_cons_of_mem _

theorem TypeDecl.nested (root : Site) : (t : TypeDecl) →
    ∀ e ∈ t.inlineTypes root, NestedAt root (t.inlineTypes root) e
  | .simple t, e, he => by
    rw [TypeDecl.inlineTypes] at he ⊢
    exact t.nested root e he
  | .complex t, e, he => by
    rw [TypeDecl.inlineTypes] at he ⊢
    exact t.nested root e he

theorem SimpleType.nested (root : Site) : (t : SimpleType) →
    ∀ e ∈ t.inlineTypes root, NestedAt root (t.inlineTypes root) e
  | ⟨_, _, .restriction base _⟩, e, he => by
    rw [SimpleType.inlineTypes] at he ⊢
    exact (base.nested (root.step 0) e he).of_step
  | ⟨_, _, .list item⟩, e, he => by
    rw [SimpleType.inlineTypes] at he ⊢
    exact (item.nested (root.step 0) e he).of_step
  | ⟨_, _, .union _⟩, _, he => absurd he (by simp [SimpleType.inlineTypes])

theorem ComplexType.nested (root : Site) : (t : ComplexType) →
    ∀ e ∈ t.inlineTypes root, NestedAt root (t.inlineTypes root) e
  | ⟨_, _, _, _, content, attributes, _, _⟩, e, he => by
    rw [ComplexType.inlineTypes] at he ⊢
    rcases List.mem_append.mp he with he | he
    · exact (content.nested (root.step 0) e he).of_step.append_left
    · exact (attributes_nested (root.step 1) 0 attributes e he).of_step.append_right

theorem Content.nested (root : Site) : (c : Content) →
    ∀ e ∈ c.inlineTypes root, NestedAt root (c.inlineTypes root) e
  | .group g, e, he => by
    rw [Content.inlineTypes] at he ⊢
    exact g.nested root e he
  | .extension _ (some g), e, he => by
    rw [Content.inlineTypes] at he ⊢
    exact g.nested root e he
  | .restriction _ (some g), e, he => by
    rw [Content.inlineTypes] at he ⊢
    exact g.nested root e he
  | .empty, _, he | .extension _ none, _, he | .restriction _ none, _, he
  | .simpleExtension _, _, he | .simpleRestriction _ _, _, he =>
    absurd he (by simp [Content.inlineTypes])

theorem ModelGroup.nested (root : Site) : (g : ModelGroup) →
    ∀ e ∈ g.inlineTypes root, NestedAt root (g.inlineTypes root) e
  | ⟨_, _, items⟩, e, he => by
    rw [ModelGroup.inlineTypes] at he ⊢
    exact items_nested root 0 items e he

theorem items_nested (root : Site) (i : Nat) : (items : List GroupItem) →
    ∀ e ∈ itemsInlineTypes root i items, NestedAt root (itemsInlineTypes root i items) e
  | [], _, he => absurd he (by simp [itemsInlineTypes])
  | .element ⟨_, _, some type, _, _, _, _, _, _⟩ _ :: rest, e, he => by
    rw [itemsInlineTypes] at he ⊢
    rcases List.mem_append.mp he with he | he
    · exact (type.nested (root.step i) e he).of_step.append_left
    · exact (items_nested root (i + 1) rest e he).append_right
  | .group g :: rest, e, he => by
    rw [itemsInlineTypes] at he ⊢
    rcases List.mem_append.mp he with he | he
    · exact (g.nested (root.step i) e he).of_step.append_left
    · exact (items_nested root (i + 1) rest e he).append_right
  | .element ⟨_, _, none, _, _, _, _, _, _⟩ _ :: rest, e, he
  | .elementRef _ _ :: rest, e, he | .groupRef _ _ :: rest, e, he | .any _ :: rest, e, he =>
    items_nested root (i + 1) rest e he

theorem attributes_nested (root : Site) (i : Nat) : (items : List AttributeItem) →
    ∀ e ∈ attributesInlineTypes root i items, NestedAt root (attributesInlineTypes root i items) e
  | [], _, he => absurd he (by simp [attributesInlineTypes])
  | .own ⟨_, _, some type, _, _, _⟩ :: rest, e, he => by
    rw [attributesInlineTypes] at he ⊢
    rcases List.mem_append.mp he with he | he
    · exact (type.nested (root.step i) e he).of_step.append_left
    · exact (attributes_nested root (i + 1) rest e he).append_right
  | .own ⟨_, _, none, _, _, _⟩ :: rest, e, he | .ref _ _ :: rest, e, he
  | .groupRef _ :: rest, e, he => attributes_nested root (i + 1) rest e he

end

theorem ComplexType.inlineTypes_eq (site : Site) (t : ComplexType) : t.inlineTypes site =
    t.content.inlineTypes (site.step 0) ++ attributesInlineTypes (site.step 1) 0 t.attributes := by
  cases t
  rw [inlineTypes]

namespace Symbols

/-! ## All types declared in place -/

/-- The types declared in place, each with its site, by the kind of what they are declared in. -/
def inlineEntries (s : Symbols) : List (Site × TypeDecl) :=
  (s.types.toList.flatMap fun (q, d) => d.decl.inlineTypes (.top .type q)) ++
    (s.elements.toList.flatMap fun (q, d) =>
      d.decl.type.toList.flatMap (·.inlineTypes (.top .element q))) ++
    (s.attributes.toList.flatMap fun (q, d) =>
      d.decl.type.toList.flatMap (·.inlineTypes (.top .attr q))) ++
    (s.groups.toList.flatMap fun (q, d) => d.decl.group.inlineTypes (.top .group q)) ++
    (s.attributeGroups.toList.flatMap fun (q, d) =>
      attributesInlineTypes (.top .attributeGroup q) 0 d.decl.attributes)

theorem inlineTypes_eq (s : Symbols) : s.inlineTypes = Std.ExtTreeMap.ofList s.inlineEntries := rfl

variable {s : Symbols}

theorem mem_inlineTypes {site : Site} :
    site ∈ s.inlineTypes ↔ ∃ decl, (site, decl) ∈ s.inlineEntries := by
  rw [inlineTypes_eq]
  constructor
  · intro h
    obtain ⟨decl, hdecl⟩ := exists_getElem?_of_mem h
    exact ⟨decl, mem_of_getElem?_ofList hdecl⟩
  · rintro ⟨decl, h⟩
    rw [Std.ExtTreeMap.mem_ofList, List.contains_iff_exists_mem_beq]
    exact ⟨site, List.mem_map.mpr ⟨_, h, rfl⟩, by simp⟩

/-- What a declaration at the top of a schema lists. -/
inductive Lists (s : Symbols) : Site → List (Site × TypeDecl) → Prop
  | type {q : QName} {d : Declared TypeDecl} : s.types[q]? = some d →
      Lists s (.top .type q) (d.decl.inlineTypes (.top .type q))
  | element {q : QName} {d : Declared ElementDecl} {use : TypeUse} : s.elements[q]? = some d →
      d.decl.type = some use → Lists s (.top .element q) (use.inlineTypes (.top .element q))
  | attr {q : QName} {d : Declared AttributeDecl} {use : TypeUse} : s.attributes[q]? = some d →
      d.decl.type = some use → Lists s (.top .attr q) (use.inlineTypes (.top .attr q))
  | group {q : QName} {d : Declared GroupDecl} : s.groups[q]? = some d →
      Lists s (.top .group q) (d.decl.group.inlineTypes (.top .group q))
  | attributeGroup {q : QName} {d : Declared AttributeGroupDecl} : s.attributeGroups[q]? = some d →
      Lists s (.top .attributeGroup q)
        (attributesInlineTypes (.top .attributeGroup q) 0 d.decl.attributes)

theorem mem_inlineEntries {e : Site × TypeDecl} :
    e ∈ s.inlineEntries ↔ ∃ root listed, s.Lists root listed ∧ e ∈ listed := by
  simp only [inlineEntries, List.mem_append, List.mem_flatMap, Prod.exists, Option.mem_toList,
    Std.ExtTreeMap.mem_toList_iff_getElem?_eq_some, or_assoc]
  constructor
  · rintro (⟨q, d, hd, he⟩ | ⟨q, d, hd, use, huse, he⟩ | ⟨q, d, hd, use, huse, he⟩ |
      ⟨q, d, hd, he⟩ | ⟨q, d, hd, he⟩)
    · exact ⟨_, _, .type hd, he⟩
    · exact ⟨_, _, .element hd huse, he⟩
    · exact ⟨_, _, .attr hd huse, he⟩
    · exact ⟨_, _, .group hd, he⟩
    · exact ⟨_, _, .attributeGroup hd, he⟩
  · rintro ⟨root, listed, lists, he⟩
    cases lists with
    | type hd => exact Or.inl ⟨_, _, hd, he⟩
    | element hd huse => exact Or.inr (Or.inl ⟨_, _, hd, _, huse, he⟩)
    | attr hd huse => exact Or.inr (Or.inr (Or.inl ⟨_, _, hd, _, huse, he⟩))
    | group hd => exact Or.inr (Or.inr (Or.inr (Or.inl ⟨_, _, hd, he⟩)))
    | attributeGroup hd => exact Or.inr (Or.inr (Or.inr (Or.inr ⟨_, _, hd, he⟩)))

theorem Lists.nested {root : Site} {listed : List (Site × TypeDecl)} {e : Site × TypeDecl}
    (h : s.Lists root listed) (he : e ∈ listed) : NestedAt root listed e := by
  cases h with
  | type _ => exact TypeDecl.nested _ _ e he
  | element _ _ => exact TypeUse.nested _ _ e he
  | attr _ _ => exact TypeUse.nested _ _ e he
  | group _ => exact ModelGroup.nested _ _ e he
  | attributeGroup _ => exact attributes_nested _ _ _ e he

/-- What is declared in a declaration at the top of a schema is listed. -/
theorem Lists.sub {root : Site} {listed : List (Site × TypeDecl)} (h : s.Lists root listed) :
    ∀ e ∈ listed, e ∈ s.inlineEntries :=
  fun _ he => mem_inlineEntries.mpr ⟨root, listed, h, he⟩

/-- What is declared in a listed type is listed. -/
theorem within_inlineEntries {e : Site × TypeDecl} (h : e ∈ s.inlineEntries) :
    ∀ inner ∈ e.2.inlineTypes e.1, inner ∈ s.inlineEntries := by
  obtain ⟨root, listed, lists, he⟩ := mem_inlineEntries.mp h
  exact fun inner hinner => lists.sub inner ((lists.nested he).within inner hinner)

theorem Lists.isSome_locator? {root : Site} {listed : List (Site × TypeDecl)}
    (h : s.Lists root listed) : (s.locator? root).isSome := by
  cases h with
  | type hd | element hd _ | attr hd _ | group hd | attributeGroup hd =>
    simp [locator?, Site.top, hd]

/-- The document of every listed type is known. -/
theorem isSome_locator? {e : Site × TypeDecl} (h : e ∈ s.inlineEntries) :
    (s.locator? e.1).isSome := by
  obtain ⟨root, listed, lists, he⟩ := mem_inlineEntries.mp h
  have nested := lists.nested he
  have same : s.locator? e.1 = s.locator? root := by
    rw [locator?, locator?, nested.kind, nested.name]
  rw [same]
  exact lists.isSome_locator?

end Symbols

end SoapBindings.Schema
