import SoapBindings.Proofs.Graph.Naming
import SoapBindings.Proofs.Schema.Groups
import SoapBindings.Proofs.Schema.Inner

/-!
# One wish for each type declared in place

However a walk comes to a type that is declared in place, by the declaration around it, by a
reference to an element or an attribute, or through groups within groups, it asks for one and the
same path (`Asks.unique`): the path of the declaration around the type, followed by its own segment.
What stands in a group is named after the group, whichever type it is come to from, and the path of
a type around it is given once. Only the declaration around a type matters, and there is but one
(`Symbols.Declares.unique`).
-/

set_option autoImplicit false

namespace SoapBindings

open Schema

namespace Schema.Symbols

variable {s : Symbols} {site : Site} {wish context : String}

/-- The path that is asked for depends on nothing but what stands at the top of a schema. -/
def AsksTop (s : Symbols) (site : Site) (wish : String) : Prop :=
  ∃ m ∈ s.topInner site.kind site.name, m.site = site ∧ m.path = wish

/-- One of the inner types is at the site, and its path behind another is what is asked for. -/
def AsksUnder (members : List Inner) (path : String) (site : Site) (wish : String) : Prop :=
  ∃ m ∈ members, m.site = site ∧ path ++ "/" ++ m.path = wish

theorem AsksUnder.append_left {members more : List Inner} {path : String}
    (h : AsksUnder members path site wish) : AsksUnder (members ++ more) path site wish := by
  obtain ⟨m, hm, rest⟩ := h
  exact ⟨m, List.mem_append_left _ hm, rest⟩

theorem AsksUnder.append_right {members more : List Inner} {path : String}
    (h : AsksUnder more path site wish) : AsksUnder (members ++ more) path site wish := by
  obtain ⟨m, hm, rest⟩ := h
  exact ⟨m, List.mem_append_right _ hm, rest⟩

/-- A declaration asks for the path of its place if it declares its type in place. -/
theorem ofTypeUse_eq_inline {absent : Builtin} {place : Enclosure} {type : Option TypeUse} :
    Use.ofTypeUse absent place context type = .inline site wish ↔
      (∃ t, type = some (.anonymous t)) ∧ place.site = site ∧ place.path = wish := by
  cases type with
  | none => simp [Use.ofTypeUse]
  | some use =>
    cases use with
    | named name => simp [Use.ofTypeUse]
    | anonymous t => simp [Use.ofTypeUse]

theorem asksUnder_of_child {absent : Builtin} {place : Enclosure} {i : Nat} {segment : String}
    {type : Option TypeUse}
    (h : Use.ofTypeUse absent (place.child i segment) context type = .inline site wish) :
    AsksUnder (useInner (place.site.step i) segment type) place.path site wish := by
  obtain ⟨⟨t, rfl⟩, rfl, rfl⟩ := ofTypeUse_eq_inline.mp h
  exact ⟨⟨place.site.step i, segment, t⟩, by simp [useInner, TypeUse.inner], rfl, rfl⟩

/-- What a reference to an element asks for does not depend on where the reference stands. -/
theorem asksTop_elementUse {name : QName} {d : Declared ElementDecl}
    (hd : s.elements[name]? = some d) (h : elementUse name d.decl = .inline site wish) :
    s.AsksTop site wish := by
  obtain ⟨⟨t, htype⟩, rfl, rfl⟩ := ofTypeUse_eq_inline.mp h
  refine ⟨⟨.top .element name, name.localName, t⟩, ?_, rfl, rfl⟩
  simp [topInner, Enclosure.top, Site.top, hd, htype, useInner, TypeUse.inner]

theorem asksTop_elementLeaf {name : QName} {occurs : Occurs}
    (h : (s.elementLeaf context name occurs).use = .inline site wish) : s.AsksTop site wish := by
  rw [elementLeaf] at h
  split at h
  · next d hd => exact asksTop_elementUse hd h
  · cases h

theorem asksTop_attributeRefLeaf {name : QName} {usage : Usage}
    (h : (s.attributeRefLeaf context name usage).use = .inline site wish) :
    s.AsksTop site wish := by
  rw [attributeRefLeaf] at h
  split at h
  · next d hd =>
    obtain ⟨⟨t, htype⟩, rfl, rfl⟩ := ofTypeUse_eq_inline.mp h
    refine ⟨⟨.top .attr name, "@" ++ name.localName, t⟩, ?_, rfl, rfl⟩
    simp [topInner, Site.top, hd, htype, useInner, TypeUse.inner]
  · dsimp only at h
    split at h
    · cases h
    · cases h

mutual

theorem asks_of_mem_groupUses (place : Enclosure) (g : ModelGroup)
    (h : .inline site wish ∈ s.groupUses context place g) :
    AsksUnder (g.inner place.site) place.path site wish ∨ s.AsksTop site wish :=
  match g with
  | ⟨_, _, items⟩ => by
    rw [groupUses] at h
    rw [ModelGroup.inner]
    exact asks_of_mem_itemUses place 0 items h

/-- Items ask for paths behind that of the declaration around them, or refer to elements. -/
theorem asks_of_mem_itemUses (place : Enclosure) (i : Nat) (items : List GroupItem)
    (h : .inline site wish ∈ s.itemUses context place i items) :
    AsksUnder (itemsInner place.site i items) place.path site wish ∨ s.AsksTop site wish :=
  match items with
  | [] => by simp [itemUses] at h
  | .element d _ :: rest => by
    rw [itemUses] at h
    rw [itemsInner]
    rcases List.mem_cons.mp h with h | h
    · exact Or.inl (asksUnder_of_child h.symm).append_left
    · exact (asks_of_mem_itemUses place (i + 1) rest h).imp_left .append_right
  | .elementRef name own :: rest => by
    rw [itemUses] at h
    rw [itemsInner]
    rcases List.mem_cons.mp h with h | h
    · exact Or.inr (asksTop_elementLeaf h.symm)
    · exact asks_of_mem_itemUses place (i + 1) rest h
  | .group g :: rest => by
    rw [itemUses] at h
    rw [itemsInner]
    rcases List.mem_append.mp h with h | h
    · exact (asks_of_mem_groupUses (place.step i) g h).imp_left .append_left
    · exact (asks_of_mem_itemUses place (i + 1) rest h).imp_left .append_right
  | .groupRef name _ :: rest => by
    rw [itemUses] at h
    rw [itemsInner]
    rcases List.mem_append.mp h with h | h
    · split at h <;> simp at h
    · exact asks_of_mem_itemUses place (i + 1) rest h
  | .any _ :: rest => by
    rw [itemUses] at h
    rw [itemsInner]
    rcases List.mem_cons.mp h with h | h
    · cases h
    · exact asks_of_mem_itemUses place (i + 1) rest h

end

theorem asks_of_mem_attributeUses (place : Enclosure) (i : Nat) (items : List AttributeItem)
    (h : .inline site wish ∈ s.attributeUses context place i items) :
    AsksUnder (attributesInner place.site i items) place.path site wish ∨ s.AsksTop site wish := by
  induction items generalizing i with
  | nil => cases h
  | cons item rest ih =>
    cases item with
    | own d =>
      rw [attributeUses] at h
      rw [attributesInner]
      rcases List.mem_append.mp h with h | h
      · split at h
        · cases h
        · exact Or.inl (asksUnder_of_child (List.mem_singleton.mp h).symm).append_left
      · exact (ih (i + 1) h).imp_left .append_right
    | ref name usage =>
      rw [attributeUses] at h
      rcases List.mem_append.mp h with h | h
      · split at h
        · cases h
        · exact Or.inr (asksTop_attributeRefLeaf (List.mem_singleton.mp h).symm)
      · exact ih (i + 1) h
    | groupRef name =>
      rw [attributeUses] at h
      rcases List.mem_append.mp h with h | h
      · split at h <;> simp at h
      · exact ih (i + 1) h

theorem mem_flatMap_listed {members : List Inner} {m : Inner} (h : m ∈ members) :
    (m.site, m.type) ∈ members.flatMap (·.listed) :=
  List.mem_flatMap.mpr ⟨m, h, List.mem_cons_self⟩

/-- What is asked for behind the path of a declaration at the top is asked for at the top. -/
theorem AsksUnder.top {members : List Inner} {path : String}
    (h : AsksUnder members path site wish) (kind : DeclarationKind) (name : QName)
    (nested : ∀ m ∈ members, ∃ listed, NestedAt (.top kind name) listed (m.site, m.type))
    (top : s.topInner kind name = members.map (·.under path)) : s.AsksTop site wish := by
  obtain ⟨m, hm, rfl, rfl⟩ := h
  obtain ⟨listed, within⟩ := nested m hm
  refine ⟨m.under path, ?_, rfl, rfl⟩
  rw [show m.site.kind = kind from within.kind, show m.site.name = name from within.name, top]
  exact List.mem_map_of_mem hm

/-- What stands in a group is named after the group, whichever type the group is used by. -/
theorem asksTop_of_usedInGroup {name : QName} {d : Declared GroupDecl}
    (hd : s.groups[name]? = some d) (h : s.UsedInGroup context (.inline site wish) name d) :
    s.AsksTop site wish := by
  rcases asks_of_mem_groupUses _ _ h with h | h
  · refine h.top .group name (fun m hm => ⟨_, ModelGroup.nested _ d.decl.group _ ?_⟩)
      (by simp [topInner, hd])
    rw [ModelGroup.inlineTypes_eq_inner]
    exact mem_flatMap_listed hm
  · exact h

theorem asksTop_of_usedInAttributeGroup {name : QName} {d : Declared AttributeGroupDecl}
    (hd : s.attributeGroups[name]? = some d)
    (h : s.UsedInAttributeGroup context (.inline site wish) name d) : s.AsksTop site wish := by
  rcases asks_of_mem_attributeUses _ _ _ h with h | h
  · refine h.top .attributeGroup name
      (fun m hm => ⟨_, attributes_nested _ 0 d.decl.attributes _ ?_⟩) (by simp [topInner, hd])
    rw [attributesInlineTypes_eq_inner]
    exact mem_flatMap_listed hm
  · exact h

theorem inner_content_eq {t : ComplexType} {g : ModelGroup} (hg : contentGroup? t = some g)
    (site : Site) : t.content.inner site = g.inner site := by
  rw [contentGroup?] at hg
  split at hg
  · next heq =>
    cases hg
    rw [heq, Content.inner]
  · next heq => rw [heq, hg, Content.inner]
  · next heq =>
    split at hg
    · cases hg
    · rw [heq, hg, Content.inner]
  · cases hg

/-- A type asks for paths behind its own, or for what is asked for from everywhere. -/
theorem asks_of_mem_uses {place : Enclosure} {decl : TypeDecl}
    (h : .inline site wish ∈ s.uses context place decl) :
    AsksUnder (decl.inner place.site) place.path site wish ∨ s.AsksTop site wish := by
  cases decl with
  | simple t =>
    left
    rw [uses, List.mem_singleton, simpleOrigin] at h
    rw [TypeDecl.inner, SimpleType.inner]
    split at h
    · next base facets heq =>
      simpa [heq, useInner] using asksUnder_of_child h.symm
    · next item heq =>
      simpa [heq, useInner] using asksUnder_of_child h.symm
    · cases h
  | complex t =>
    rw [TypeDecl.inner]
    rcases mem_uses_complex_iff.mp h with
      origin | ⟨g, hg, own⟩ | ⟨name, d, _, hd, inGroup⟩ | ⟨_, own⟩ | ⟨name, d, _, hd, inGroup⟩
    · rw [origin?] at origin
      split at origin
      · cases origin
      · cases origin
      · split at origin
        · split at origin <;> cases origin
        · cases origin
      · cases origin
      · cases origin
      · cases origin
    · rw [inner_content_eq hg]
      exact (asks_of_mem_groupUses _ _ own).imp_left .append_left
    · exact Or.inr (asksTop_of_usedInGroup hd inGroup)
    · exact (asks_of_mem_attributeUses _ _ _ own).imp_left .append_right
    · exact Or.inr (asksTop_of_usedInAttributeGroup hd inGroup)

end Schema.Symbols

namespace AnonymousPaths

open Schema.Symbols

variable {s : Symbols} {paths paths' : AnonymousPaths} {site : Site} {wish wish' : String}

/-- The path is asked for the type at the site, given the paths of the types around it. -/
inductive Asks (s : Symbols) (paths : AnonymousPaths) : Site → String → Prop
  | top {m : Inner} : m ∈ s.topInner m.site.kind m.site.name → Asks s paths m.site m.path
  | within {around : Site} {path : String} {decl : TypeDecl} {m : Inner} :
      paths[around]? = some path → s.inlineTypes[around]? = some decl → m ∈ decl.inner around →
      Asks s paths m.site (path ++ "/" ++ m.path)

/-- One path is asked for. -/
theorem Asks.unique (h : Asks s paths site wish) (h' : Asks s paths site wish') :
    wish = wish' := by
  cases h with
  | top hm =>
    generalize same : Inner.site _ = other at h'
    cases h' with
    | top hm' => exact congrArg Inner.path ((Declares.top hm).unique (.top hm') same).2
    | within _ hdecl hm' =>
      have inPlace := Declares.within (getElem?_inlineTypes.mp hdecl) hm'
      cases ((Declares.top hm).unique inPlace same).1
  | within hpath hdecl hm =>
    have inPlace := Declares.within (getElem?_inlineTypes.mp hdecl) hm
    generalize same : Inner.site _ = other at h'
    cases h' with
    | top hm' => cases (inPlace.unique (.top hm') same).1
    | within hpath' hdecl' hm' =>
      have inPlace' := Declares.within (getElem?_inlineTypes.mp hdecl') hm'
      obtain ⟨around, rfl⟩ := inPlace.unique inPlace' same
      cases around
      rw [hpath] at hpath'
      cases hpath'
      rfl

/-- Paths that were given out before are not given out again, so what was asked for still is. -/
theorem Asks.mono (h : Asks s paths site wish)
    (kept : ∀ (a : Site) (path : String), paths[a]? = some path → paths'[a]? = some path) :
    Asks s paths' site wish := by
  cases h with
  | top hm => exact .top hm
  | within hpath hdecl hm => exact .within (kept _ _ hpath) hdecl hm

theorem asks_of_asksTop (h : s.AsksTop site wish) : Asks s paths site wish := by
  obtain ⟨m, hm, rfl, rfl⟩ := h
  exact .top hm

theorem asks_of_mem_usesAt {around : Site} {path : String} {decl : TypeDecl}
    (hpath : paths[around]? = some path) (hdecl : s.inlineTypes[around]? = some decl)
    (h : .inline site wish ∈ usesAt s around path decl) : Asks s paths site wish := by
  rcases asks_of_mem_uses h with ⟨m, hm, rfl, rfl⟩ | h
  · exact .within hpath hdecl hm
  · exact asks_of_asksTop h

theorem asks_of_mem_starts (h : .inline site wish ∈ starts s) : Asks s paths site wish := by
  apply asks_of_asksTop
  rcases List.mem_append.mp h with h | h
  · obtain ⟨⟨name, d⟩, hd, hu⟩ := List.mem_flatMap.mp h
    have hd := Std.ExtTreeMap.mem_toList_iff_getElem?_eq_some.mp hd
    rcases asks_of_mem_uses hu with h | h
    · refine h.top .type name (fun m hm => ⟨_, TypeDecl.nested _ d.decl _ ?_⟩)
        (by simp [topInner, hd, Enclosure.top])
      exact mem_inlineTypes_of_mem_inner hm
    · exact h
  · obtain ⟨⟨name, d⟩, hd, hu⟩ := List.mem_map.mp h
    exact asksTop_elementUse (Std.ExtTreeMap.mem_toList_iff_getElem?_eq_some.mp hd) hu

end AnonymousPaths

end SoapBindings
