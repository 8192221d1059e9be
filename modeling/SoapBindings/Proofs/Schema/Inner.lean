import Mathlib.Data.List.Flatten
import Mathlib.Data.List.Pairwise
import Mathlib.Data.List.Perm.Basic
import SoapBindings.Proofs.Schema.Distinct
import SoapBindings.Proofs.Schema.Uses

/-!
# Types declared directly in a declaration

A declaration lists all types declared in it, however deep. Those that stand in it directly, and not
within another of them, are its inner types (`TypeDecl.inner`); the path of an inner type begins
with that of the declaration around it. All that is listed are the inner types, each followed by
what it lists itself (`TypeDecl.inlineTypes_eq_inner`). So every listed type is an inner type once:
of the declaration at the top of the schema, or of one other listed type (`perm_inner`).
-/

set_option autoImplicit false

namespace SoapBindings.Schema

/-- A type declared in place, with the path that leads to it in the declaration around it. -/
structure Inner where
  site : Site
  path : String
  type : TypeDecl

namespace Inner

/-- The type and all types declared in it. -/
def listed (m : Inner) : List (Site × TypeDecl) := (m.site, m.type) :: m.type.inlineTypes m.site

/-- The inner type in a declaration that has a path itself. -/
def under (path : String) (m : Inner) : Inner := { m with path := path ++ "/" ++ m.path }

@[simp] theorem site_under (path : String) (m : Inner) : (m.under path).site = m.site := rfl

@[simp] theorem path_under (path : String) (m : Inner) :
    (m.under path).path = path ++ "/" ++ m.path := rfl

@[simp] theorem listed_under (path : String) (m : Inner) : (m.under path).listed = m.listed := rfl

end Inner

def TypeUse.inner (site : Site) (path : String) : TypeUse → List Inner
  | .named _ => []
  | .anonymous t => [⟨site, path, t⟩]

/-- The type that an element or an attribute declares in place, if it does. -/
def useInner (site : Site) (path : String) (type : Option TypeUse) : List Inner :=
  type.toList.flatMap (·.inner site path)

def SimpleType.inner (site : Site) (t : SimpleType) : List Inner :=
  match t.derivation with
  | .restriction base _ => base.inner (site.step 0) "base"
  | .list item => item.inner (site.step 0) "item"
  | .union _ => []

mutual

def ModelGroup.inner (site : Site) : ModelGroup → List Inner
  | ⟨_, _, items⟩ => itemsInner site 0 items

/-- The inner types of items of a group; `i` is the index of the first. -/
def itemsInner (site : Site) (i : Nat) : List GroupItem → List Inner
  | [] => []
  | .element d _ :: rest => useInner (site.step i) d.name d.type ++ itemsInner site (i + 1) rest
  | .group g :: rest => g.inner (site.step i) ++ itemsInner site (i + 1) rest
  | .elementRef _ _ :: rest | .groupRef _ _ :: rest | .any _ :: rest => itemsInner site (i + 1) rest

end

/-- The inner types of attributes; `i` is the index of the first. -/
def attributesInner (site : Site) (i : Nat) : List AttributeItem → List Inner
  | [] => []
  | .own d :: rest =>
    useInner (site.step i) ("@" ++ d.name) d.type ++ attributesInner site (i + 1) rest
  | .ref _ _ :: rest | .groupRef _ :: rest => attributesInner site (i + 1) rest

def Content.inner (site : Site) : Content → List Inner
  | .group g | .extension _ (some g) | .restriction _ (some g) => g.inner site
  | _ => []

def TypeDecl.inner (site : Site) : TypeDecl → List Inner
  | .simple t => t.inner site
  | .complex t => t.content.inner (site.step 0) ++ attributesInner (site.step 1) 0 t.attributes

/-! ## All that is listed -/

theorem TypeUse.inlineTypes_eq_inner (site : Site) (path : String) (use : TypeUse) :
    use.inlineTypes site = (use.inner site path).flatMap (·.listed) := by
  cases use with
  | named name => simp [inlineTypes, inner]
  | anonymous t => simp [inlineTypes, inner, Inner.listed]

theorem useInlineTypes_eq_inner (site : Site) (path : String) (type : Option TypeUse) :
    type.toList.flatMap (·.inlineTypes site) = (useInner site path type).flatMap (·.listed) := by
  cases type with
  | none => rfl
  | some use => simpa [useInner] using use.inlineTypes_eq_inner site path

theorem SimpleType.inlineTypes_eq_inner (site : Site) (t : SimpleType) :
    t.inlineTypes site = (t.inner site).flatMap (·.listed) := by
  obtain ⟨_, _, derivation⟩ := t
  cases derivation with
  | restriction base facets =>
    rw [inlineTypes, inner]
    exact base.inlineTypes_eq_inner (site.step 0) "base"
  | list item =>
    rw [inlineTypes, inner]
    exact item.inlineTypes_eq_inner (site.step 0) "item"
  | union members => simp [inlineTypes, inner]

mutual

theorem ModelGroup.inlineTypes_eq_inner (site : Site) : (g : ModelGroup) →
    g.inlineTypes site = (g.inner site).flatMap (·.listed)
  | ⟨_, _, items⟩ => by
    rw [ModelGroup.inlineTypes, ModelGroup.inner]
    exact itemsInlineTypes_eq_inner site 0 items

theorem itemsInlineTypes_eq_inner (site : Site) (i : Nat) : (items : List GroupItem) →
    itemsInlineTypes site i items = (itemsInner site i items).flatMap (·.listed)
  | [] => by simp [itemsInlineTypes, itemsInner]
  | .element d own :: rest => by
    rw [Symbols.itemsInlineTypes_element, itemsInner, List.flatMap_append,
      useInlineTypes_eq_inner _ d.name, itemsInlineTypes_eq_inner site (i + 1) rest]
  | .group g :: rest => by
    rw [itemsInlineTypes, itemsInner, List.flatMap_append, g.inlineTypes_eq_inner (site.step i),
      itemsInlineTypes_eq_inner site (i + 1) rest]
  | .elementRef _ _ :: rest | .groupRef _ _ :: rest | .any _ :: rest => by
    simpa [itemsInlineTypes, itemsInner] using itemsInlineTypes_eq_inner site (i + 1) rest

end

theorem attributesInlineTypes_eq_inner (site : Site) (i : Nat) (items : List AttributeItem) :
    attributesInlineTypes site i items = (attributesInner site i items).flatMap (·.listed) := by
  induction items generalizing i with
  | nil => simp [attributesInlineTypes, attributesInner]
  | cons item rest ih =>
    cases item with
    | own d =>
      rw [Symbols.attributesInlineTypes_own, attributesInner, List.flatMap_append,
        useInlineTypes_eq_inner _ ("@" ++ d.name), ih (i + 1)]
    | ref name usage => simpa [attributesInlineTypes, attributesInner] using ih (i + 1)
    | groupRef name => simpa [attributesInlineTypes, attributesInner] using ih (i + 1)

theorem Content.inlineTypes_eq_inner (site : Site) (c : Content) :
    c.inlineTypes site = (c.inner site).flatMap (·.listed) := by
  cases c with
  | group g =>
    rw [inlineTypes, inner]
    exact g.inlineTypes_eq_inner site
  | extension base g | restriction base g =>
    cases g with
    | none => simp [inlineTypes, inner]
    | some g =>
      rw [inlineTypes, inner]
      exact g.inlineTypes_eq_inner site
  | empty | simpleExtension base | simpleRestriction base facets => simp [inlineTypes, inner]

theorem TypeDecl.inlineTypes_eq_inner (site : Site) (t : TypeDecl) :
    t.inlineTypes site = (t.inner site).flatMap (·.listed) := by
  cases t with
  | simple t =>
    rw [inlineTypes, inner]
    exact t.inlineTypes_eq_inner site
  | complex t =>
    rw [inlineTypes, inner, ComplexType.inlineTypes_eq, List.flatMap_append,
      Content.inlineTypes_eq_inner, attributesInlineTypes_eq_inner]

/-! ## Once -/

/-- The sites of the inner types of a listed type. -/
def innerSites (e : Site × TypeDecl) : List Site := (e.2.inner e.1).map (·.site)

/-- Listed types are those that the list was made of, and the inner types of listed types. -/
theorem sites_perm_of_inner {members : List Inner}
    (each : ∀ m ∈ members, ((m.type.inlineTypes m.site).map (·.1)).Perm
      (innerSites (m.site, m.type) ++ (m.type.inlineTypes m.site).flatMap innerSites)) :
    ((members.flatMap (·.listed)).map (·.1)).Perm
      (members.map (·.site) ++ (members.flatMap (·.listed)).flatMap innerSites) := by
  induction members with
  | nil => exact .nil
  | cons m rest ih =>
    have first := each m List.mem_cons_self
    have others := ih fun m' hm' => each m' (List.mem_cons_of_mem _ hm')
    rw [List.perm_iff_count] at first others ⊢
    intro site
    have first := first site
    have others := others site
    simp only [List.flatMap_cons, Inner.listed, List.map_cons, List.map_append, List.cons_append,
      List.count_cons, List.count_append, List.flatMap_append] at first others ⊢
    omega

theorem length_lt_of_mem_inner {root : Site} {t : TypeDecl} {m : Inner} (h : m ∈ t.inner root) :
    (m.type.inlineTypes m.site).length < (t.inlineTypes root).length := by
  have part : m.listed.Sublist (t.inlineTypes root) := by
    rw [t.inlineTypes_eq_inner]
    exact List.sublist_flatten_of_mem (List.mem_map_of_mem h)
  exact part.length_le

/-- Each type listed in a type is an inner type of it, or of one other that is listed. -/
theorem TypeDecl.sites_perm (root : Site) (t : TypeDecl) :
    ((t.inlineTypes root).map (·.1)).Perm
      (innerSites (root, t) ++ (t.inlineTypes root).flatMap innerSites) := by
  rw [t.inlineTypes_eq_inner]
  refine sites_perm_of_inner fun m hm => ?_
  have := length_lt_of_mem_inner hm
  exact m.type.sites_perm m.site
termination_by (t.inlineTypes root).length

theorem mem_inlineTypes_of_mem_inner {root : Site} {t : TypeDecl} {m : Inner}
    (h : m ∈ t.inner root) : (m.site, m.type) ∈ t.inlineTypes root := by
  rw [t.inlineTypes_eq_inner]
  exact List.mem_flatMap.mpr ⟨m, h, List.mem_cons_self⟩

namespace Symbols

variable {s : Symbols} {root : Site} {listed : List (Site × TypeDecl)}

/-- The inner types of what is declared at the top of a schema, with their whole paths. -/
def topInner (s : Symbols) : DeclarationKind → QName → List Inner
  | .type, q => s.types[q]?.toList.flatMap fun d =>
    (d.decl.inner (.top .type q)).map (·.under q.localName)
  | .element, q => s.elements[q]?.toList.flatMap fun d =>
    useInner (.top .element q) q.localName d.decl.type
  | .attr, q => s.attributes[q]?.toList.flatMap fun d =>
    useInner (.top .attr q) ("@" ++ q.localName) d.decl.type
  | .group, q => s.groups[q]?.toList.flatMap fun d =>
    (d.decl.group.inner (.top .group q)).map (·.under d.decl.name)
  | .attributeGroup, q => s.attributeGroups[q]?.toList.flatMap fun d =>
    (attributesInner (.top .attributeGroup q) 0 d.decl.attributes).map (·.under d.decl.name)
  | _, _ => []

/-- All types declared in what stands at the top of a schema. -/
def topListed (s : Symbols) (kind : DeclarationKind) (q : QName) : List (Site × TypeDecl) :=
  (s.topInner kind q).flatMap (·.listed)

theorem Lists.eq_topListed (h : s.Lists root listed) :
    listed = s.topListed root.kind root.name := by
  cases h with
  | type hd =>
    simp [topListed, topInner, Site.top, hd, List.flatMap_map, TypeDecl.inlineTypes_eq_inner]
  | element hd huse =>
    simp only [topListed, topInner, Site.top, hd, huse, useInner, Option.toList_some,
      List.flatMap_singleton]
    exact TypeUse.inlineTypes_eq_inner _ _ _
  | attr hd huse =>
    simp only [topListed, topInner, Site.top, hd, huse, useInner, Option.toList_some,
      List.flatMap_singleton]
    exact TypeUse.inlineTypes_eq_inner _ _ _
  | group hd =>
    simp [topListed, topInner, Site.top, hd, List.flatMap_map, ModelGroup.inlineTypes_eq_inner]
  | attributeGroup hd =>
    simp [topListed, topInner, Site.top, hd, List.flatMap_map, attributesInlineTypes_eq_inner]

theorem nodup_topListed (s : Symbols) (kind : DeclarationKind) (q : QName) :
    ((s.topListed kind q).map (·.1)).Nodup := by
  have nodup {root : Site} {listed : List (Site × TypeDecl)} (h : s.Lists root listed) :
      ((s.topListed root.kind root.name).map (·.1)).Nodup := h.eq_topListed ▸ h.nodup
  cases kind with
  | type =>
    cases hd : s.types[q]? with
    | none => simp [topListed, topInner, hd]
    | some d => exact nodup (.type hd)
  | element =>
    cases hd : s.elements[q]? with
    | none => simp [topListed, topInner, hd]
    | some d =>
      cases huse : d.decl.type with
      | none => simp [topListed, topInner, hd, huse, useInner]
      | some use => exact nodup (.element hd huse)
  | attr =>
    cases hd : s.attributes[q]? with
    | none => simp [topListed, topInner, hd]
    | some d =>
      cases huse : d.decl.type with
      | none => simp [topListed, topInner, hd, huse, useInner]
      | some use => exact nodup (.attr hd huse)
  | group =>
    cases hd : s.groups[q]? with
    | none => simp [topListed, topInner, hd]
    | some d => exact nodup (.group hd)
  | attributeGroup =>
    cases hd : s.attributeGroups[q]? with
    | none => simp [topListed, topInner, hd]
    | some d => exact nodup (.attributeGroup hd)
  | message | binding | portType => simp [topListed, topInner]

/-- The inner types of what stands at the top, and those of all types listed there, are different
ones. -/
theorem nodup_inner (s : Symbols) (kind : DeclarationKind) (q : QName) :
    ((s.topInner kind q).map (·.site) ++ (s.topListed kind q).flatMap innerSites).Nodup :=
  (sites_perm_of_inner fun m _ => m.type.sites_perm m.site).nodup_iff.mp (s.nodup_topListed kind q)

theorem mem_topListed {e : Site × TypeDecl} (h : e ∈ s.inlineEntries) :
    e ∈ s.topListed e.1.kind e.1.name := by
  obtain ⟨root, listed, lists, he⟩ := mem_inlineEntries.mp h
  have nested := lists.nested he
  rw [nested.kind, nested.name, ← lists.eq_topListed]
  exact he

/-- A type is declared in place: directly in what stands at the top of a schema, or directly in
another type that is declared in place. -/
inductive Declares (s : Symbols) : Option (Site × TypeDecl) → Inner → Prop
  | top {m : Inner} : m ∈ s.topInner m.site.kind m.site.name → Declares s none m
  | within {e : Site × TypeDecl} {m : Inner} : e ∈ s.inlineEntries → m ∈ e.2.inner e.1 →
      Declares s (some e) m

/-- A type is declared in one place only. -/
theorem Declares.unique {around around' : Option (Site × TypeDecl)} {m m' : Inner}
    (h : s.Declares around m) (h' : s.Declares around' m') (same : m.site = m'.site) :
    around = around' ∧ m = m' := by
  have nodup := s.nodup_inner m.site.kind m.site.name
  obtain ⟨tops, below, apart⟩ := List.nodup_append.mp nodup
  obtain ⟨each, between⟩ := List.nodup_flatMap.mp below
  -- A type around `m` is listed where `m` is.
  have listed {e : Site × TypeDecl} {m : Inner} (he : e ∈ s.inlineEntries)
      (hm : m ∈ e.2.inner e.1) : e ∈ s.topListed m.site.kind m.site.name := by
    have nested := TypeDecl.nested e.1 e.2 _ (mem_inlineTypes_of_mem_inner hm)
    rw [show m.site.kind = e.1.kind from nested.kind, show m.site.name = e.1.name from nested.name]
    exact mem_topListed he
  cases h with
  | top hm =>
    cases h' with
    | top hm' =>
      rw [← same] at hm'
      exact ⟨rfl, List.inj_on_of_nodup_map tops hm hm' same⟩
    | @within e _ he hm' =>
      have inList := listed he hm'
      rw [← same] at inList
      exact absurd same (apart _ (List.mem_map_of_mem hm) _
        (List.mem_flatMap.mpr ⟨e, inList, List.mem_map_of_mem hm'⟩))
  | @within e _ he hm =>
    cases h' with
    | top hm' =>
      rw [← same] at hm'
      exact absurd same.symm (apart _ (List.mem_map_of_mem hm') _
        (List.mem_flatMap.mpr ⟨e, listed he hm, List.mem_map_of_mem hm⟩))
    | @within e' _ he' hm' =>
      have inList := listed he' hm'
      rw [← same] at inList
      by_cases one : e = e'
      · subst one
        exact ⟨rfl, List.inj_on_of_nodup_map (each e inList) hm hm' same⟩
      · have : Std.Symm (Function.onFun List.Disjoint innerSites) :=
          ⟨fun _ _ h => List.disjoint_symm h⟩
        have disjoint : List.Disjoint (innerSites e) (innerSites e') :=
          between.forall (listed he hm) inList one
        have here : m.site ∈ innerSites e' := same ▸ List.mem_map_of_mem hm'
        exact absurd here (disjoint (List.mem_map_of_mem hm))

end Symbols

end SoapBindings.Schema
