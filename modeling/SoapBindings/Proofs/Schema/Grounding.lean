import SoapBindings.Proofs.Schema.Distinct
import SoapBindings.Proofs.Schema.Groups
import SoapBindings.Proofs.Schema.Mentions

/-!
# What is used is mentioned

A use is grounded if what it asks for is mentioned (`Symbols.Grounded`); a type declared in place is
if all that it mentions is. A type all of whose mentions are mentions of the symbols has grounded
uses only (`Symbols.grounded_of_mem_uses`): its own items mention what they use, and the groups that
it leads to are mentioned themselves.
-/

set_option autoImplicit false

namespace SoapBindings.Schema.Symbols

open Relation

variable {s : Symbols} {context : String} {place : Enclosure} {u : Use}

/-- What the use asks for is mentioned; what it says is missing cannot be found. -/
def Grounded (s : Symbols) : Use → Prop
  | .builtin _ => True
  | .named r => r.kind = .type ∧ s.Mentions r.mention
  | .inline site _ => ∀ t, s.inlineTypes[site]? = some t → ∀ m ∈ t.mentions, s.Mentions m
  | .missing r => s.Mentions r.mention ∧ ¬ s.Finds r.mention

theorem grounded_ofTypeUse {absent : Builtin} {type : Option TypeUse}
    (listed : s.ListedAt place type) (mentioned : ∀ m ∈ optionMentions type, s.Mentions m) :
    s.Grounded (.ofTypeUse absent place context type) := by
  cases type with
  | none => exact trivial
  | some use =>
    rw [optionMentions, Option.toList_some, List.flatMap_singleton] at mentioned
    cases use with
    | named name =>
      rw [TypeUse.mentions] at mentioned
      exact ⟨rfl, mentioned _ (List.mem_singleton_self _)⟩
    | anonymous t =>
      intro t' ht'
      have here : (place.site, t) ∈ s.inlineEntries := listed _ rfl _ List.mem_cons_self
      obtain rfl := inlineEntries_unique here (getElem?_inlineTypes.mp ht')
      rw [TypeUse.mentions] at mentioned
      exact mentioned

theorem grounded_elementUse {name : QName} {d : Declared ElementDecl}
    (hd : s.elements[name]? = some d) : s.Grounded (elementUse name d.decl) :=
  grounded_ofTypeUse (fun _ huse => (Lists.element hd huse).sub) fun _ hm => .inElement hd hm

theorem grounded_elementLeaf {name : QName} {occurs : Schema.Occurs}
    (mentioned : s.Mentions ⟨name, .element⟩) :
    s.Grounded (s.elementLeaf context name occurs).use := by
  rw [elementLeaf]
  split
  · next d hd => exact grounded_elementUse hd
  · next absent => exact ⟨mentioned, not_mem_of_getElem?_eq_none absent⟩

theorem grounded_attributeRefLeaf {name : QName} {usage : Usage}
    (mentioned : s.Mentions ⟨name, .attr⟩) :
    s.Grounded (s.attributeRefLeaf context name usage).use := by
  rw [attributeRefLeaf]
  split
  · next d hd =>
    exact grounded_ofTypeUse (fun _ huse => (Lists.attr hd huse).sub)
      fun _ hm => .inAttribute mentioned hd hm
  · next absent =>
    show s.Grounded (if _ then _ else _)
    split
    · exact trivial
    · next foreign =>
      exact ⟨mentioned, not_or.mpr ⟨foreign, not_mem_of_getElem?_eq_none absent⟩⟩

/-! ## Items and attributes -/

mutual

theorem grounded_groupUses (g : ModelGroup) (place : Enclosure)
    (listed : ∀ e ∈ g.inlineTypes place.site, e ∈ s.inlineEntries)
    (mentioned : ∀ m ∈ g.mentions, s.Mentions m) :
    ∀ u ∈ s.groupUses context place g, s.Grounded u :=
  match g with
  | ⟨_, _, items⟩ => by
    rw [ModelGroup.inlineTypes] at listed
    rw [ModelGroup.mentions] at mentioned
    rw [groupUses]
    exact grounded_itemUses items place 0 listed mentioned

theorem grounded_itemUses (items : List GroupItem) (place : Enclosure) (i : Nat)
    (listed : ∀ e ∈ itemsInlineTypes place.site i items, e ∈ s.inlineEntries)
    (mentioned : ∀ m ∈ itemsMentions items, s.Mentions m) :
    ∀ u ∈ s.itemUses context place i items, s.Grounded u :=
  match items with
  | [] => by simp [itemUses]
  | .element d own :: rest => by
    rw [itemsInlineTypes_element] at listed
    rw [itemsMentions_element] at mentioned
    rw [itemUses]
    intro u hu
    rcases List.mem_cons.mp hu with rfl | hu
    · refine grounded_ofTypeUse ?_ fun m hm => mentioned m (List.mem_append_left _ hm)
      intro use huse e he
      exact listed e (List.mem_append_left _ (by simpa [huse, Enclosure.child] using he))
    · exact grounded_itemUses rest place (i + 1) (fun e he => listed e (List.mem_append_right _ he))
        (fun m hm => mentioned m (List.mem_append_right _ hm)) u hu
  | .elementRef name own :: rest => by
    rw [itemsMentions] at mentioned
    rw [itemUses]
    intro u hu
    rcases List.mem_cons.mp hu with rfl | hu
    · exact grounded_elementLeaf (mentioned _ List.mem_cons_self)
    · exact grounded_itemUses rest place (i + 1) listed
        (fun m hm => mentioned m (List.mem_cons_of_mem _ hm)) u hu
  | .group g :: rest => by
    rw [itemsInlineTypes] at listed
    rw [itemsMentions] at mentioned
    rw [itemUses]
    intro u hu
    rcases List.mem_append.mp hu with hu | hu
    · exact grounded_groupUses g (place.step i) (fun e he => listed e (List.mem_append_left _ he))
        (fun m hm => mentioned m (List.mem_append_left _ hm)) u hu
    · exact grounded_itemUses rest place (i + 1) (fun e he => listed e (List.mem_append_right _ he))
        (fun m hm => mentioned m (List.mem_append_right _ hm)) u hu
  | .groupRef name own :: rest => by
    rw [itemsMentions] at mentioned
    rw [itemUses]
    intro u hu
    rcases List.mem_append.mp hu with hu | hu
    · split at hu
      · cases hu
      · next absent =>
        obtain rfl := List.mem_singleton.mp hu
        refine ⟨mentioned _ List.mem_cons_self, fun found => ?_⟩
        exact absent (Std.ExtTreeMap.mem_iff_contains.mp found)
    · exact grounded_itemUses rest place (i + 1) listed
        (fun m hm => mentioned m (List.mem_cons_of_mem _ hm)) u hu
  | .any own :: rest => by
    rw [itemUses]
    intro u hu
    rcases List.mem_cons.mp hu with rfl | hu
    · exact trivial
    · exact grounded_itemUses rest place (i + 1) listed mentioned u hu

end

theorem grounded_attributeUses (place : Enclosure) (i : Nat) (items : List AttributeItem)
    (listed : ∀ e ∈ attributesInlineTypes place.site i items, e ∈ s.inlineEntries)
    (mentioned : ∀ m ∈ attributesMentions items, s.Mentions m) :
    ∀ u ∈ s.attributeUses context place i items, s.Grounded u := by
  induction items generalizing i with
  | nil => simp [attributeUses]
  | cons item rest ih =>
    intro u hu
    cases item with
    | own d =>
      rw [attributesInlineTypes_own] at listed
      rw [attributesMentions_own] at mentioned
      rw [attributeUses] at hu
      rcases List.mem_append.mp hu with hu | hu
      · split at hu
        · cases hu
        · next allowed =>
          obtain rfl := List.mem_singleton.mp hu
          refine grounded_ofTypeUse ?_ fun m hm => mentioned m (List.mem_append_left _ ?_)
          · intro use huse e he
            exact listed e (List.mem_append_left _ (by simpa [huse, Enclosure.child] using he))
          · rw [if_neg allowed]
            exact hm
      · exact ih (i + 1) (fun e he => listed e (List.mem_append_right _ he))
          (fun m hm => mentioned m (List.mem_append_right _ hm)) u hu
    | ref name usage =>
      rw [attributesMentions] at mentioned
      rw [attributeUses] at hu
      rcases List.mem_append.mp hu with hu | hu
      · split at hu
        · cases hu
        · next allowed =>
          obtain rfl := List.mem_singleton.mp hu
          refine grounded_attributeRefLeaf (mentioned _ (List.mem_append_left _ ?_))
          rw [if_neg allowed]
          exact List.mem_singleton_self _
      · exact ih (i + 1) listed (fun m hm => mentioned m (List.mem_append_right _ hm)) u hu
    | groupRef name =>
      rw [attributesMentions] at mentioned
      rw [attributeUses] at hu
      rcases List.mem_append.mp hu with hu | hu
      · split at hu
        · cases hu
        · next absent =>
          obtain rfl := List.mem_singleton.mp hu
          refine ⟨mentioned _ List.mem_cons_self, fun found => ?_⟩
          exact absent (Std.ExtTreeMap.mem_iff_contains.mp found)
      · exact ih (i + 1) listed (fun m hm => mentioned m (List.mem_cons_of_mem _ hm)) u hu

/-! ## Groups -/

mutual

theorem mem_mentions_of_groupRef (g : ModelGroup) {name : QName} (h : name ∈ g.groupRefs) :
    ⟨name, .group⟩ ∈ g.mentions :=
  match g with
  | ⟨_, _, items⟩ => by
    rw [ModelGroup.groupRefs] at h
    rw [ModelGroup.mentions]
    exact mem_itemsMentions_of_groupRef items h

theorem mem_itemsMentions_of_groupRef (items : List GroupItem) {name : QName}
    (h : name ∈ groupRefsOf items) : ⟨name, .group⟩ ∈ itemsMentions items :=
  match items with
  | [] => by simp [groupRefsOf] at h
  | .element d own :: rest => by
    rw [itemsMentions_element]
    exact List.mem_append_right _ (mem_itemsMentions_of_groupRef rest h)
  | .elementRef other own :: rest => by
    rw [itemsMentions]
    exact List.mem_cons_of_mem _ (mem_itemsMentions_of_groupRef rest h)
  | .group g :: rest => by
    rw [groupRefsOf] at h
    rw [itemsMentions]
    rcases List.mem_append.mp h with h | h
    · exact List.mem_append_left _ (mem_mentions_of_groupRef g h)
    · exact List.mem_append_right _ (mem_itemsMentions_of_groupRef rest h)
  | .groupRef other own :: rest => by
    rw [groupRefsOf] at h
    rw [itemsMentions]
    rcases List.mem_cons.mp h with rfl | h
    · exact List.mem_cons_self
    · exact List.mem_cons_of_mem _ (mem_itemsMentions_of_groupRef rest h)
  | .any own :: rest => mem_itemsMentions_of_groupRef rest h

end

theorem mem_attributesMentions_of_groupRef {items : List AttributeItem} {name : QName}
    (h : name ∈ attributeGroupRefs items) : ⟨name, .attributeGroup⟩ ∈ attributesMentions items := by
  induction items with
  | nil => cases h
  | cons item rest ih =>
    cases item with
    | own d =>
      rw [attributesMentions_own]
      exact List.mem_append_right _ (ih h)
    | ref other usage =>
      rw [attributesMentions]
      exact List.mem_append_right _ (ih h)
    | groupRef other =>
      rw [attributesMentions]
      rcases List.mem_cons.mp h with rfl | h
      · exact List.mem_cons_self
      · exact List.mem_cons_of_mem _ (ih h)

/-- What mentioned groups lead to is mentioned. -/
theorem mentions_of_leadTo {names : List QName} {b : QName}
    (mentioned : ∀ a ∈ names, s.Mentions ⟨a, .group⟩)
    (h : LeadTo refsOfGroup s.groups names b) : s.Mentions ⟨b, .group⟩ := by
  refine h.closed mentioned fun a c d reached hd hc => ?_
  exact .inGroup reached hd (mem_mentions_of_groupRef _ hc)

theorem mentions_of_leadTo_attributes {names : List QName} {b : QName}
    (mentioned : ∀ a ∈ names, s.Mentions ⟨a, .attributeGroup⟩)
    (h : LeadTo refsOfAttributeGroup s.attributeGroups names b) :
    s.Mentions ⟨b, .attributeGroup⟩ := by
  refine h.closed mentioned fun a c d reached hd hc => ?_
  exact .inAttributeGroup reached hd (mem_attributesMentions_of_groupRef hc)

/-! ## Types -/

theorem grounded_simpleOrigin {t : SimpleType}
    (listed : ∀ e ∈ t.inlineTypes place.site, e ∈ s.inlineEntries)
    (mentioned : ∀ m ∈ t.mentions, s.Mentions m) : s.Grounded (simpleOrigin context place t) := by
  obtain ⟨name, documentation, derivation⟩ := t
  cases derivation with
  | restriction base facets =>
    rw [SimpleType.inlineTypes] at listed
    rw [SimpleType.mentions] at mentioned
    refine grounded_ofTypeUse (fun use huse => by cases huse; exact listed) ?_
    simpa [optionMentions] using mentioned
  | list item =>
    rw [SimpleType.inlineTypes] at listed
    rw [SimpleType.mentions] at mentioned
    refine grounded_ofTypeUse (fun use huse => by cases huse; exact listed) ?_
    simpa [optionMentions] using mentioned
  | union members => exact trivial

/-- What a type comes from it mentions. -/
theorem mention_of_origin {t : ComplexType} (h : origin? context t = some u) :
    u = .builtin .anyType ∨
      ∃ name, u = .named ⟨name, .type, context⟩ ∧ ⟨name, .type⟩ ∈ t.mentions := by
  rw [ComplexType.mentions_eq, isArray_content]
  rw [origin?] at h
  split at h
  · cases h
  · cases h
  · next base group hc =>
    rw [hc, Content.isArray]
    split at h
    · next array =>
      obtain rfl := Option.some.inj h
      rw [if_pos array]
      cases t.arrayItem with
      | none => exact Or.inl rfl
      | some item => exact Or.inr ⟨item, rfl, List.mem_singleton_self _⟩
    · next plain =>
      obtain rfl := Option.some.inj h
      rw [if_neg plain]
      refine Or.inr ⟨base, rfl, List.mem_append_left _ ?_⟩
      cases group <;> simp [Content.mentions]
  · next base group hc =>
    obtain rfl := Option.some.inj h
    rw [hc]
    refine Or.inr ⟨base, rfl, List.mem_append_left _ ?_⟩
    cases group <;> simp [Content.mentions]
  · next base hc =>
    obtain rfl := Option.some.inj h
    rw [hc]
    exact Or.inr ⟨base, rfl, List.mem_append_left _ (by simp [Content.mentions])⟩
  · next base facets hc =>
    obtain rfl := Option.some.inj h
    rw [hc]
    exact Or.inr ⟨base, rfl, List.mem_append_left _ (by simp [Content.mentions])⟩

/-- The group in the content of a type counts, with all that is declared in it. -/
theorem mentions_of_contentGroup {t : ComplexType} {g : ModelGroup} (h : contentGroup? t = some g) :
    isArray t = false ∧ (∀ m ∈ g.mentions, m ∈ t.content.mentions) ∧
      ∀ site, t.content.inlineTypes site = g.inlineTypes site := by
  rw [isArray_content]
  rw [contentGroup?] at h
  split at h
  · next hc =>
    cases h
    rw [hc]
    exact ⟨rfl, by simp [Content.mentions], fun _ => by rw [Content.inlineTypes]⟩
  · next hc =>
    cases h
    rw [hc]
    exact ⟨rfl, by simp +contextual [Content.mentions], fun _ => by rw [Content.inlineTypes]⟩
  · next hc =>
    split at h
    · cases h
    · next plain =>
      cases h
      rw [hc]
      refine ⟨?_, by simp +contextual [Content.mentions], fun _ => by rw [Content.inlineTypes]⟩
      rw [Content.isArray]
      exact eq_false_of_ne_true plain
  · cases h

/-- If all that a type mentions is mentioned, what it uses is grounded. -/
theorem grounded_of_mem_uses {t : TypeDecl}
    (listed : ∀ e ∈ t.inlineTypes place.site, e ∈ s.inlineEntries)
    (mentioned : ∀ m ∈ t.mentions, s.Mentions m) (h : u ∈ s.uses context place t) :
    s.Grounded u := by
  cases t with
  | simple t =>
    rw [TypeDecl.inlineTypes] at listed
    rw [TypeDecl.mentions] at mentioned
    obtain rfl := List.mem_singleton.mp h
    exact grounded_simpleOrigin listed mentioned
  | complex t =>
    rw [TypeDecl.inlineTypes, ComplexType.inlineTypes_eq] at listed
    rw [TypeDecl.mentions] at mentioned
    have content (noArray : isArray t = false) : t.mentions =
        t.content.mentions ++ attributesMentions t.attributes := by
      rw [ComplexType.mentions_eq, noArray]
      rfl
    have attributes (noArray : isArray t = false) :
        ∀ m ∈ attributesMentions t.attributes, s.Mentions m := by
      intro m hm
      refine mentioned m ?_
      rw [content noArray]
      exact List.mem_append_right _ hm
    have group {g : ModelGroup} (hg : contentGroup? t = some g) :
        ∀ m ∈ g.mentions, s.Mentions m := by
      obtain ⟨noArray, sub, _⟩ := mentions_of_contentGroup hg
      intro m hm
      refine mentioned m ?_
      rw [content noArray]
      exact List.mem_append_left _ (sub m hm)
    rcases mem_uses_complex_iff.mp h with origin | ⟨g, hg, hu⟩ | ⟨b, d, leads, hd, hu⟩ |
      ⟨noArray, hu⟩ | ⟨b, d, leads, hd, hu⟩
    · rcases mention_of_origin origin with rfl | ⟨name, rfl, hname⟩
      · exact trivial
      · exact ⟨rfl, mentioned _ hname⟩
    · refine grounded_groupUses g (place.step 0) (fun e he => listed e ?_) (group hg) u hu
      rw [(mentions_of_contentGroup hg).2.2]
      exact List.mem_append_left _ he
    · have reached : s.Mentions ⟨b, .group⟩ := by
        refine mentions_of_leadTo (fun a ha => ?_) leads
        rw [contentRefs] at ha
        cases hg : contentGroup? t with
        | none => simp [hg] at ha
        | some g =>
          rw [hg] at ha
          exact group hg _ (mem_mentions_of_groupRef g ha)
      exact grounded_groupUses _ _ (Lists.group hd).sub (fun m hm => .inGroup reached hd hm) u hu
    · exact grounded_attributeUses (place.step 1) 0 t.attributes
        (fun e he => listed e (List.mem_append_right _ he)) (attributes noArray) u hu
    · have reached : s.Mentions ⟨b, .attributeGroup⟩ := by
        refine mentions_of_leadTo_attributes (fun a ha => ?_) leads
        rw [attributeRefs] at ha
        split at ha
        · cases ha
        · next noArray =>
          exact attributes (eq_false_of_ne_true noArray) _ (mem_attributesMentions_of_groupRef ha)
      exact grounded_attributeUses _ 0 _ (Lists.attributeGroup hd).sub
        (fun m hm => .inAttributeGroup reached hd hm) u hu

end SoapBindings.Schema.Symbols
