import Mathlib.Data.List.Infix
import Mathlib.Data.List.Nodup
import SoapBindings.Proofs.Schema.Sites

/-!
# Each site belongs to one declaration

The steps of a site say where its declaration stands, so two declarations never share one
(`Symbols.inlineEntries_unique`), and the table of types declared in place answers for a site with
what is declared there (`Symbols.getElem?_inlineTypes`).

Whatever stands in the member `j` of a declaration has a site that ends in the step `j`, counted
from the declaration. `Spread` says so for the members from some index on, and that their sites are
distinct: two that agree would end in one step.
-/

set_option autoImplicit false

namespace SoapBindings.Schema

/-- All sites are below a declaration, and no two are the same. -/
structure Stacked (root : Site) (listed : List (Site × TypeDecl)) : Prop where
  below : ∀ e ∈ listed, root.steps <:+ e.1.steps
  nodup : (listed.map (·.1)).Nodup

/-- All sites are below members of a declaration, of those from index `i` on; and no two are the
same. -/
structure Spread (root : Site) (i : Nat) (listed : List (Site × TypeDecl)) : Prop where
  below : ∀ e ∈ listed, ∃ j ≥ i, (root.step j).steps <:+ e.1.steps
  nodup : (listed.map (·.1)).Nodup

variable {root : Site} {i : Nat} {listed more : List (Site × TypeDecl)}

namespace Stacked

/-- A declaration stands above what is declared in it. -/
theorem of_spread (h : Spread root i listed) : Stacked root listed where
  below e he := by
    obtain ⟨j, _, hj⟩ := h.below e he
    exact (List.suffix_cons j root.steps).trans hj
  nodup := h.nodup

theorem cons (t : TypeDecl) (h : Spread root i listed) : Stacked root ((root, t) :: listed) where
  below e he := by
    rcases List.mem_cons.mp he with rfl | he
    · exact List.suffix_rfl
    · exact (of_spread h).below e he
  nodup := by
    refine List.nodup_cons.mpr ⟨fun repeated => ?_, h.nodup⟩
    obtain ⟨e, he, (same : e.1 = root)⟩ := List.mem_map.mp repeated
    obtain ⟨j, _, hj⟩ := h.below e he
    -- Below a member there are more steps than at the declaration itself.
    have longer := hj.length_le
    rw [same, Site.step, List.length_cons] at longer
    omega

end Stacked

namespace Spread

theorem nil : Spread root i [] := ⟨nofun, List.nodup_nil⟩

/-- A member in which nothing is declared is passed over. -/
theorem skip (h : Spread root (i + 1) listed) : Spread root i listed where
  below e he := by
    obtain ⟨j, hij, hj⟩ := h.below e he
    exact ⟨j, by omega, hj⟩
  nodup := h.nodup

/-- What stands in a member has other sites than what stands in those behind it. -/
theorem append (first : Stacked (root.step i) listed) (rest : Spread root (i + 1) more) :
    Spread root i (listed ++ more) where
  below e he := by
    rcases List.mem_append.mp he with he | he
    · exact ⟨i, le_rfl, first.below e he⟩
    · exact rest.skip.below e he
  nodup := by
    rw [List.map_append]
    refine List.Nodup.append first.nodup rest.nodup fun site hsite hsite' => ?_
    obtain ⟨e, he, rfl⟩ := List.mem_map.mp hsite
    obtain ⟨e', he', same⟩ := List.mem_map.mp hsite'
    obtain ⟨j, hij, hj⟩ := rest.below e' he'
    have hi := first.below e he
    rw [same] at hj
    -- Two ends of one length of the same steps are one.
    have ends := (List.suffix_of_suffix_length_le hi hj le_rfl).eq_of_length rfl
    have : i = j := (List.cons.inj ends).1
    omega

end Spread

mutual

theorem TypeUse.stacked (root : Site) : (use : TypeUse) → Stacked root (use.inlineTypes root)
  | .named _ => by
    rw [TypeUse.inlineTypes]
    exact .of_spread (.nil (i := 0))
  | .anonymous t => by
    rw [TypeUse.inlineTypes]
    exact .cons t (t.spread root)

theorem TypeDecl.spread (root : Site) : (t : TypeDecl) → Spread root 0 (t.inlineTypes root)
  | .simple t => by
    rw [TypeDecl.inlineTypes]
    exact t.spread root
  | .complex t => by
    rw [TypeDecl.inlineTypes]
    exact t.spread root

theorem SimpleType.spread (root : Site) : (t : SimpleType) → Spread root 0 (t.inlineTypes root)
  | ⟨_, _, .restriction base _⟩ => by
    rw [SimpleType.inlineTypes]
    simpa using Spread.append (base.stacked (root.step 0)) .nil
  | ⟨_, _, .list item⟩ => by
    rw [SimpleType.inlineTypes]
    simpa using Spread.append (item.stacked (root.step 0)) .nil
  | ⟨_, _, .union _⟩ => by
    rw [SimpleType.inlineTypes]
    exact .nil

theorem ComplexType.spread (root : Site) : (t : ComplexType) → Spread root 0 (t.inlineTypes root)
  | ⟨_, _, _, _, content, attributes, _, _⟩ => by
    rw [ComplexType.inlineTypes]
    have held := Stacked.of_spread (attributes_spread (root.step 1) 0 attributes)
    have behind : Spread root 1 (attributesInlineTypes (root.step 1) 0 attributes ++ []) :=
      .append held .nil
    rw [List.append_nil] at behind
    exact .append (.of_spread (content.spread (root.step 0))) behind

theorem Content.spread (root : Site) : (c : Content) → Spread root 0 (c.inlineTypes root)
  | .group g => by
    rw [Content.inlineTypes]
    exact g.spread root
  | .extension _ (some g) => by
    rw [Content.inlineTypes]
    exact g.spread root
  | .restriction _ (some g) => by
    rw [Content.inlineTypes]
    exact g.spread root
  | .empty | .extension _ none | .restriction _ none | .simpleExtension _
  | .simpleRestriction _ _ => by
    simp only [Content.inlineTypes]
    exact .nil

theorem ModelGroup.spread (root : Site) : (g : ModelGroup) → Spread root 0 (g.inlineTypes root)
  | ⟨_, _, items⟩ => by
    rw [ModelGroup.inlineTypes]
    exact items_spread root 0 items

theorem items_spread (root : Site) (i : Nat) : (items : List GroupItem) →
    Spread root i (itemsInlineTypes root i items)
  | [] => by
    rw [itemsInlineTypes]
    exact .nil
  | .element ⟨_, _, some type, _, _, _, _, _, _⟩ _ :: rest => by
    rw [itemsInlineTypes]
    exact .append (type.stacked (root.step i)) (items_spread root (i + 1) rest)
  | .group g :: rest => by
    rw [itemsInlineTypes]
    exact .append (.of_spread (g.spread (root.step i))) (items_spread root (i + 1) rest)
  | .element ⟨_, _, none, _, _, _, _, _, _⟩ _ :: rest | .elementRef _ _ :: rest
  | .groupRef _ _ :: rest | .any _ :: rest => by
    simp only [itemsInlineTypes]
    exact (items_spread root (i + 1) rest).skip

theorem attributes_spread (root : Site) (i : Nat) : (items : List AttributeItem) →
    Spread root i (attributesInlineTypes root i items)
  | [] => by
    rw [attributesInlineTypes]
    exact .nil
  | .own ⟨_, _, some type, _, _, _⟩ :: rest => by
    rw [attributesInlineTypes]
    exact .append (type.stacked (root.step i)) (attributes_spread root (i + 1) rest)
  | .own ⟨_, _, none, _, _, _⟩ :: rest | .ref _ _ :: rest | .groupRef _ :: rest => by
    simp only [attributesInlineTypes]
    exact (attributes_spread root (i + 1) rest).skip

end

namespace Symbols

variable {s : Symbols}

theorem Lists.nodup (h : s.Lists root listed) : (listed.map (·.1)).Nodup := by
  cases h with
  | type _ => exact (TypeDecl.spread _ _).nodup
  | element _ _ => exact (TypeUse.stacked _ _).nodup
  | attr _ _ => exact (TypeUse.stacked _ _).nodup
  | group _ => exact (ModelGroup.spread _ _).nodup
  | attributeGroup _ => exact (attributes_spread _ _ _).nodup

/-- What is declared at the top of a schema is known by its kind and its name. -/
theorem Lists.unique {root' : Site} (h : s.Lists root listed) (h' : s.Lists root' more)
    (kind : root.kind = root'.kind) (name : root.name = root'.name) : listed = more := by
  cases h with
  | type hd =>
    cases h' with
    | type hd' =>
      cases name
      rw [hd] at hd'
      cases hd'
      rfl
    | element | attr | group | attributeGroup => cases kind
  | element hd huse =>
    cases h' with
    | element hd' huse' =>
      cases name
      rw [hd] at hd'
      cases hd'
      rw [huse] at huse'
      cases huse'
      rfl
    | type | attr | group | attributeGroup => cases kind
  | attr hd huse =>
    cases h' with
    | attr hd' huse' =>
      cases name
      rw [hd] at hd'
      cases hd'
      rw [huse] at huse'
      cases huse'
      rfl
    | type | element | group | attributeGroup => cases kind
  | group hd =>
    cases h' with
    | group hd' =>
      cases name
      rw [hd] at hd'
      cases hd'
      rfl
    | type | element | attr | attributeGroup => cases kind
  | attributeGroup hd =>
    cases h' with
    | attributeGroup hd' =>
      cases name
      rw [hd] at hd'
      cases hd'
      rfl
    | type | element | attr | group => cases kind

/-- One type is declared at a site. -/
theorem inlineEntries_unique {site : Site} {t t' : TypeDecl} (h : (site, t) ∈ s.inlineEntries)
    (h' : (site, t') ∈ s.inlineEntries) : t = t' := by
  obtain ⟨root, listed, lists, ht⟩ := mem_inlineEntries.mp h
  obtain ⟨root', listed', lists', ht'⟩ := mem_inlineEntries.mp h'
  have nested := lists.nested ht
  have nested' := lists'.nested ht'
  obtain rfl : listed = listed' :=
    lists.unique lists' (nested.kind.symm.trans nested'.kind) (nested.name.symm.trans nested'.name)
  have same : (site, t) = (site, t') := List.inj_on_of_nodup_map lists.nodup ht ht' rfl
  exact congrArg Prod.snd same

/-- The table answers for a site with the type declared there. -/
theorem getElem?_inlineTypes {site : Site} {t : TypeDecl} :
    s.inlineTypes[site]? = some t ↔ (site, t) ∈ s.inlineEntries := by
  constructor
  · exact fun h => mem_of_getElem?_ofList (inlineTypes_eq s ▸ h)
  · intro h
    obtain ⟨t', ht'⟩ := exists_getElem?_of_mem (mem_inlineTypes.mpr ⟨t, h⟩)
    have listed : (site, t') ∈ s.inlineEntries := mem_of_getElem?_ofList (inlineTypes_eq s ▸ ht')
    rw [ht', inlineEntries_unique h listed]

end Symbols

end SoapBindings.Schema
