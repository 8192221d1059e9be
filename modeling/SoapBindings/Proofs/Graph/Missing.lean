import Mathlib
import SoapBindings.Proofs.Graph.Used

/-!
# What is missing

The references that a graph reports are those that find nothing: each name that is mentioned and
not found is reported with the kind of what it asks for, and nothing else is (`mem_missed_iff`).

It remains to see that whatever is mentioned is come to (`Visited`): what a type declared in place
mentions by the entry that it has, what a group mentions by an entry whose type leads to the group.
-/

set_option autoImplicit false

namespace SoapBindings.TypeGraph

open Relation Schema Schema.Symbols AnonymousPaths

variable {s : Symbols} {u : Use} {e : TypeEntry} {m : Mention} {context : String}
  {place : Enclosure}

/-- A mention is come to: some use asks for it, or some type leads to the group. -/
inductive Visited (s : Symbols) : Mention → Prop
  | type {name : QName} {context : String} :
      Used s (.named ⟨name, .type, context⟩) → Visited s ⟨name, .type⟩
  | element {name : QName} {context : String} {occurs : Schema.Occurs} :
      Used s (s.elementLeaf context name occurs).use → Visited s ⟨name, .element⟩
  | attr {name : QName} {context : String} {usage : Usage} :
      Used s (s.attributeRefLeaf context name usage).use → Visited s ⟨name, .attr⟩
  | group {e : TypeEntry} {t : ComplexType} {name : QName} : e ∈ allEntries s →
      e.decl = .complex t → LeadTo refsOfGroup s.groups (contentRefs t) name →
      Visited s ⟨name, .group⟩
  | attributeGroup {e : TypeEntry} {t : ComplexType} {name : QName} : e ∈ allEntries s →
      e.decl = .complex t →
      LeadTo refsOfAttributeGroup s.attributeGroups (attributeRefs t) name →
      Visited s ⟨name, .attributeGroup⟩

/-- A type declared in place that is used has an entry. -/
theorem exists_entry {site : Site} {path : String} {t : TypeDecl} (used : Used s (.inline site path))
    (here : (site, t) ∈ s.inlineEntries) : ∃ e ∈ allEntries s, e.decl = t := by
  obtain ⟨path', hpath⟩ := exists_getElem?_of_mem (mem_ofSymbols_of_used used)
  obtain ⟨origin, horigin⟩ := Option.isSome_iff_exists.mp (isSome_locator? here)
  exact ⟨_, List.mem_append_right _ (mem_anonymousEntries.mpr
    ⟨site, path', t, origin, hpath, getElem?_inlineTypes.mpr here, horigin, rfl⟩), rfl⟩

/-- What stands behind a type that it comes from, if that has a name. -/
theorem visited_origin {t : ComplexType} {name : QName} (he : e ∈ allEntries s)
    (hdecl : e.decl = .complex t)
    (origin : origin? e.id.toText t = some (.named ⟨name, .type, e.id.toText⟩)) :
    Visited s ⟨name, .type⟩ := by
  have used : Used s (.named ⟨name, .type, e.id.toText⟩) := by
    refine .byType he ?_
    rw [hdecl]
    exact mem_uses_complex_iff.mpr (Or.inl origin)
  exact .type used

theorem origin_of_array {t : ComplexType} {item : QName} (array : t.content.isArray = true)
    (hitem : t.arrayItem = some item) :
    origin? context t = some (.named ⟨item, .type, context⟩) := by
  rw [origin?]
  cases hc : t.content with
  | restriction base group =>
    rw [hc] at array
    have encoded : isEncodedArray base = true := array
    simp [encoded, hitem]
  | empty | group _ | extension _ _ | simpleExtension _ | simpleRestriction _ _ =>
    rw [hc] at array
    cases array

/-- The items are come to: what they use is used, the groups that they refer to are led to, and what
is declared in them is listed. -/
structure EnteredItems (s : Symbols) (context : String) (place : Enclosure) (i : Nat)
    (items : List GroupItem) : Prop where
  used : ∀ u ∈ s.itemUses context place i items, Used s u
  refs : ∀ name ∈ groupRefsOf items, Visited s ⟨name, .group⟩
  listed : ∀ e ∈ itemsInlineTypes place.site i items, e ∈ s.inlineEntries

/-- The attributes are come to. -/
structure EnteredAttributes (s : Symbols) (context : String) (place : Enclosure) (i : Nat)
    (items : List AttributeItem) : Prop where
  used : ∀ u ∈ s.attributeUses context place i items, Used s u
  refs : ∀ name ∈ attributeGroupRefs items, Visited s ⟨name, .attributeGroup⟩
  listed : ∀ e ∈ attributesInlineTypes place.site i items, e ∈ s.inlineEntries

theorem EnteredItems.rest {i : Nat} {item : GroupItem} {rest : List GroupItem}
    (entered : EnteredItems s context place i (item :: rest)) :
    EnteredItems s context place (i + 1) rest where
  used u hu := by
    refine entered.used u ?_
    cases item with
    | element d own | elementRef name own | any own =>
      rw [itemUses]
      exact List.mem_cons_of_mem _ hu
    | group g | groupRef name own =>
      rw [itemUses]
      exact List.mem_append_right _ hu
  refs name h := by
    refine entered.refs name ?_
    cases item with
    | element d own | elementRef name own | any own => exact h
    | group g => exact List.mem_append_right _ h
    | groupRef name own => exact List.mem_cons_of_mem _ h
  listed e he := by
    refine entered.listed e ?_
    cases item with
    | element d own =>
      rw [itemsInlineTypes_element]
      exact List.mem_append_right _ he
    | group g =>
      rw [itemsInlineTypes]
      exact List.mem_append_right _ he
    | elementRef name own | groupRef name own | any own => exact he

theorem EnteredAttributes.rest {i : Nat} {item : AttributeItem} {rest : List AttributeItem}
    (entered : EnteredAttributes s context place i (item :: rest)) :
    EnteredAttributes s context place (i + 1) rest where
  used u hu := by
    refine entered.used u ?_
    cases item with
    | own d | ref name usage | groupRef name =>
      rw [attributeUses]
      exact List.mem_append_right _ hu
  refs name h := by
    refine entered.refs name ?_
    cases item with
    | own d | ref name usage => exact h
    | groupRef name => exact List.mem_cons_of_mem _ h
  listed e he := by
    refine entered.listed e ?_
    cases item with
    | own d =>
      rw [attributesInlineTypes_own]
      exact List.mem_append_right _ he
    | ref name usage | groupRef name => exact he

/-- The content of a declared type is come to. -/
theorem enteredItems_of_content {t : ComplexType} {g : ModelGroup} (he : e ∈ allEntries s)
    (hdecl : e.decl = .complex t) (hg : contentGroup? t = some g) :
    EnteredItems s e.id.toText (e.place.step 0) 0 g.items where
  used u hu := by
    refine .byType he ?_
    rw [hdecl]
    exact mem_uses_complex_iff.mpr (Or.inr (Or.inl ⟨g, hg, groupUses_eq .. ▸ hu⟩))
  refs name h := by
    refine .group he hdecl ⟨name, ?_, .refl⟩
    rw [contentRefs, hg, Option.map_some, Option.getD_some, ModelGroup.groupRefs_eq]
    exact h
  listed e' he' := by
    have listed := listed_of_mem_entries he
    rw [hdecl, TypeDecl.inlineTypes, ComplexType.inlineTypes_eq] at listed
    refine listed e' (List.mem_append_left _ ?_)
    rw [(mentions_of_contentGroup hg).2.2, groupInlineTypes_eq]
    exact he'

/-- A group that a declared type leads to is come to. -/
theorem enteredItems_of_leadTo {t : ComplexType} {name : QName} {d : Declared GroupDecl}
    (he : e ∈ allEntries s) (hdecl : e.decl = .complex t)
    (leads : LeadTo refsOfGroup s.groups (contentRefs t) name) (hd : s.groups[name]? = some d) :
    EnteredItems s e.id.toText ⟨.top .group name, d.decl.name⟩ 0 d.decl.group.items where
  used u hu := by
    refine .byType he ?_
    rw [hdecl]
    refine mem_uses_complex_iff.mpr (Or.inr (Or.inr (Or.inl ⟨name, d, leads, hd, ?_⟩)))
    rw [UsedInGroup, groupUses_eq]
    exact hu
  refs other h := by
    refine .group he hdecl (leads.tail hd ?_)
    rw [refsOfGroup, ModelGroup.groupRefs_eq]
    exact h
  listed e' he' := by
    refine (Lists.group hd).sub e' ?_
    rw [groupInlineTypes_eq]
    exact he'

theorem enteredAttributes_of_type {t : ComplexType} (he : e ∈ allEntries s)
    (hdecl : e.decl = .complex t) (noArray : isArray t = false) :
    EnteredAttributes s e.id.toText (e.place.step 1) 0 t.attributes where
  used u hu := by
    refine .byType he ?_
    rw [hdecl]
    exact mem_uses_complex_iff.mpr (Or.inr (Or.inr (Or.inr (Or.inl ⟨noArray, hu⟩))))
  refs name h := by
    refine .attributeGroup he hdecl ⟨name, ?_, .refl⟩
    rw [attributeRefs, noArray]
    exact h
  listed e' he' := by
    have listed := listed_of_mem_entries he
    rw [hdecl, TypeDecl.inlineTypes, ComplexType.inlineTypes_eq] at listed
    exact listed e' (List.mem_append_right _ he')

theorem enteredAttributes_of_leadTo {t : ComplexType} {name : QName}
    {d : Declared AttributeGroupDecl} (he : e ∈ allEntries s) (hdecl : e.decl = .complex t)
    (leads : LeadTo refsOfAttributeGroup s.attributeGroups (attributeRefs t) name)
    (hd : s.attributeGroups[name]? = some d) :
    EnteredAttributes s e.id.toText ⟨.top .attributeGroup name, d.decl.name⟩ 0
      d.decl.attributes where
  used u hu := by
    refine .byType he ?_
    rw [hdecl]
    exact mem_uses_complex_iff.mpr (Or.inr (Or.inr (Or.inr (Or.inr ⟨name, d, leads, hd, hu⟩))))
  refs other h := .attributeGroup he hdecl (leads.tail hd h)
  listed := (Lists.attributeGroup hd).sub

mutual

theorem visited_typeUse (use : TypeUse) {absent : Builtin} {place : Enclosure} {context : String}
    (used : Used s (.ofTypeUse absent place context (some use)))
    (listed : ∀ e ∈ use.inlineTypes place.site, e ∈ s.inlineEntries) :
    ∀ m ∈ use.mentions, Visited s m :=
  match use with
  | .named name => by
    rw [TypeUse.mentions]
    intro m hm
    obtain rfl := List.mem_singleton.mp hm
    exact .type used
  | .anonymous t => by
    obtain ⟨e, he, hdecl⟩ := exists_entry used (listed _ List.mem_cons_self)
    rw [TypeUse.mentions]
    exact visited_typeDecl t he hdecl

theorem visited_typeDecl (t : TypeDecl) {e : TypeEntry} (he : e ∈ allEntries s)
    (hdecl : e.decl = t) : ∀ m ∈ t.mentions, Visited s m :=
  match t with
  | .simple t => by
    rw [TypeDecl.mentions]
    exact visited_simpleType t he hdecl
  | .complex t => by
    rw [TypeDecl.mentions]
    exact visited_complexType t he hdecl

theorem visited_simpleType (t : SimpleType) {e : TypeEntry} (he : e ∈ allEntries s)
    (hdecl : e.decl = .simple t) : ∀ m ∈ t.mentions, Visited s m := by
  have listed := listed_of_mem_entries he
  rw [hdecl, TypeDecl.inlineTypes] at listed
  have used : Used s (simpleOrigin e.id.toText e.place t) :=
    .byType he (by rw [hdecl]; exact List.mem_singleton_self _)
  exact match t with
  | ⟨_, _, .restriction base _⟩ => by
    rw [SimpleType.inlineTypes] at listed
    rw [SimpleType.mentions]
    exact visited_typeUse base used listed
  | ⟨_, _, .list item⟩ => by
    rw [SimpleType.inlineTypes] at listed
    rw [SimpleType.mentions]
    exact visited_typeUse item used listed
  | ⟨_, _, .union _⟩ => by simp [SimpleType.mentions]

theorem visited_complexType (t : ComplexType) {e : TypeEntry} (he : e ∈ allEntries s)
    (hdecl : e.decl = .complex t) : ∀ m ∈ t.mentions, Visited s m :=
  match t with
  | ⟨_, _, _, _, content, attributes, _, arrayItem⟩ => by
    rw [ComplexType.mentions]
    intro m hm
    split at hm
    · next array =>
      obtain ⟨item, hitem, rfl⟩ := List.mem_map.mp hm
      obtain rfl := Option.mem_toList.mp hitem
      exact visited_origin he hdecl (origin_of_array array rfl)
    · next plain =>
      have noArray : content.isArray = false := eq_false_of_ne_true plain
      rcases List.mem_append.mp hm with hm | hm
      · exact visited_content content he hdecl rfl noArray m hm
      · exact visited_attributes attributes
          (enteredAttributes_of_type he hdecl ((isArray_content _).trans noArray)) m hm

/-- What the content of a declared type mentions, unless the type is an encoded array. -/
theorem visited_content (c : Content) {t : ComplexType} {e : TypeEntry} (he : e ∈ allEntries s)
    (hdecl : e.decl = .complex t) (hc : t.content = c) (noArray : c.isArray = false) :
    ∀ m ∈ c.mentions, Visited s m :=
  match c with
  | .empty => by simp [Content.mentions]
  | .group g => by
    have hg : contentGroup? t = some g := by rw [contentGroup?, hc]
    rw [Content.mentions]
    exact visited_group g (enteredItems_of_content he hdecl hg)
  | .extension base (some g) => by
    have hg : contentGroup? t = some g := by rw [contentGroup?, hc]
    rw [Content.mentions]
    intro m hm
    rcases List.mem_cons.mp hm with rfl | hm
    · exact visited_origin he hdecl (by rw [origin?, hc])
    · exact visited_group g (enteredItems_of_content he hdecl hg) m hm
  | .restriction base (some g) => by
    have plain : isEncodedArray base = false := noArray
    have hg : contentGroup? t = some g := by simp [contentGroup?, hc, plain]
    rw [Content.mentions]
    intro m hm
    rcases List.mem_cons.mp hm with rfl | hm
    · exact visited_origin he hdecl (by simp [origin?, hc, plain])
    · exact visited_group g (enteredItems_of_content he hdecl hg) m hm
  | .restriction base none => by
    have plain : isEncodedArray base = false := noArray
    rw [Content.mentions]
    intro m hm
    obtain rfl := List.mem_singleton.mp hm
    exact visited_origin he hdecl (by simp [origin?, hc, plain])
  | .extension base none | .simpleExtension base | .simpleRestriction base _ => by
    rw [Content.mentions]
    intro m hm
    obtain rfl := List.mem_singleton.mp hm
    exact visited_origin he hdecl (by rw [origin?, hc])

theorem visited_group (g : ModelGroup) {context : String} {place : Enclosure}
    (entered : EnteredItems s context place 0 g.items) : ∀ m ∈ g.mentions, Visited s m :=
  match g with
  | ⟨_, _, items⟩ => by
    rw [ModelGroup.mentions]
    exact visited_items items entered

theorem visited_items (items : List GroupItem) {context : String} {place : Enclosure} {i : Nat}
    (entered : EnteredItems s context place i items) : ∀ m ∈ itemsMentions items, Visited s m :=
  match items with
  | [] => by simp [itemsMentions]
  | .element ⟨name, _, some type, _, _, _, _, _, _⟩ own :: rest => by
    have used := entered.used _ (by rw [itemUses]; exact List.mem_cons_self)
    have listed : ∀ e ∈ type.inlineTypes (place.child i name).site, e ∈ s.inlineEntries := by
      intro e he
      exact entered.listed e (by rw [itemsInlineTypes]; exact List.mem_append_left _ he)
    rw [itemsMentions]
    intro m hm
    rcases List.mem_append.mp hm with hm | hm
    · exact visited_typeUse type used listed m hm
    · exact visited_items rest entered.rest m hm
  | .elementRef name own :: rest => by
    have used := entered.used _ (by rw [itemUses]; exact List.mem_cons_self)
    rw [itemsMentions]
    intro m hm
    rcases List.mem_cons.mp hm with rfl | hm
    · exact .element used
    · exact visited_items rest entered.rest m hm
  | .group g :: rest => by
    have inner : EnteredItems s context (place.step i) 0 g.items := by
      refine ⟨fun u hu => entered.used u ?_, fun name h => entered.refs name ?_,
        fun e he => entered.listed e ?_⟩
      · rw [itemUses, groupUses_eq]
        exact List.mem_append_left _ hu
      · rw [groupRefsOf, ModelGroup.groupRefs_eq]
        exact List.mem_append_left _ h
      · rw [itemsInlineTypes, groupInlineTypes_eq]
        exact List.mem_append_left _ he
    rw [itemsMentions]
    intro m hm
    rcases List.mem_append.mp hm with hm | hm
    · exact visited_group g inner m hm
    · exact visited_items rest entered.rest m hm
  | .groupRef name own :: rest => by
    rw [itemsMentions]
    intro m hm
    rcases List.mem_cons.mp hm with rfl | hm
    · exact entered.refs name List.mem_cons_self
    · exact visited_items rest entered.rest m hm
  | .element ⟨_, _, none, _, _, _, _, _, _⟩ _ :: rest | .any _ :: rest =>
    visited_items rest entered.rest

theorem visited_attributes (items : List AttributeItem) {context : String} {place : Enclosure}
    {i : Nat} (entered : EnteredAttributes s context place i items) :
    ∀ m ∈ attributesMentions items, Visited s m :=
  match items with
  | [] => by simp [attributesMentions]
  | .own ⟨name, ns, some type, usage, default, fixed⟩ :: rest => by
    rw [attributesMentions]
    intro m hm
    rcases List.mem_append.mp hm with hm | hm
    · split at hm
      · cases hm
      · next allowed =>
        have used : Used s (.ofTypeUse .anySimpleType (place.child i ("@" ++ name)) context
            (some type)) := by
          refine entered.used _ ?_
          rw [attributeUses, if_neg allowed]
          exact List.mem_append_left _ (List.mem_singleton_self _)
        refine visited_typeUse type used (fun e he => entered.listed e ?_) m hm
        rw [attributesInlineTypes]
        exact List.mem_append_left _ he
    · exact visited_attributes rest entered.rest m hm
  | .own ⟨_, _, none, _, _, _⟩ :: rest => visited_attributes rest entered.rest
  | .ref name usage :: rest => by
    rw [attributesMentions]
    intro m hm
    rcases List.mem_append.mp hm with hm | hm
    · split at hm
      · cases hm
      · next allowed =>
        have used : Used s (s.attributeRefLeaf context name usage).use := by
          refine entered.used _ ?_
          rw [attributeUses, if_neg allowed]
          exact List.mem_append_left _ (List.mem_singleton_self _)
        obtain rfl := List.mem_singleton.mp hm
        exact .attr used
    · exact visited_attributes rest entered.rest m hm
  | .groupRef name :: rest => by
    rw [attributesMentions]
    intro m hm
    rcases List.mem_cons.mp hm with rfl | hm
    · exact entered.refs name List.mem_cons_self
    · exact visited_attributes rest entered.rest m hm

end

/-- A declaration that has its type in it. -/
theorem visited_optionMentions {absent : Builtin} {type : Option TypeUse}
    (used : Used s (.ofTypeUse absent place context type)) (listed : s.ListedAt place type) :
    ∀ m ∈ optionMentions type, Visited s m := by
  cases type with
  | none => simp [optionMentions]
  | some use =>
    rw [optionMentions, Option.toList_some, List.flatMap_singleton]
    exact visited_typeUse use used (listed use rfl)

/-- Whatever is mentioned is come to. -/
theorem visited_of_mentions (h : s.Mentions m) : Visited s m := by
  induction h with
  | @inType name d m hd hm =>
    have he : ⟨.named name, d.decl, .top .type name, d.locator⟩ ∈ allEntries s :=
      List.mem_append_left _ (mem_namedEntries.mpr ⟨name, d, hd, rfl⟩)
    exact visited_typeDecl d.decl he rfl m hm
  | inElement hd hm =>
    exact visited_optionMentions (.byElement hd) (fun _ huse => (Lists.element hd huse).sub) _ hm
  | inAttribute _ hd hm ih =>
    cases ih with
    | attr used =>
      simp only [attributeRefLeaf, hd] at used
      exact visited_optionMentions used (fun _ huse => (Lists.attr hd huse).sub) _ hm
  | inGroup _ hd hm ih =>
    cases ih with
    | group he hdecl leads =>
      exact visited_group _ (enteredItems_of_leadTo he hdecl leads hd) _ hm
  | inAttributeGroup _ hd hm ih =>
    cases ih with
    | attributeGroup he hdecl leads =>
      exact visited_attributes _ (enteredAttributes_of_leadTo he hdecl leads hd) _ hm

/-! ## What is reported -/

/-- What is come to and not found is reported. -/
theorem missing_of_visited (h : Visited s m) (lacking : ¬ s.Finds m) :
    ∃ r ∈ missing s (AnonymousPaths.ofSymbols s), r.mention = m := by
  have reported {r : Reference} (used : Used s (.missing r)) :
      r ∈ missing s (AnonymousPaths.ofSymbols s) := mem_missing.mpr ⟨_, used, rfl⟩
  cases h with
  | @type name context used =>
    refine ⟨⟨name, .type, context⟩, mem_missing.mpr ⟨_, used, ?_⟩, rfl⟩
    rw [unresolved?, resolveType_eq_unresolved_iff.mpr lacking]
  | @element name context occurs used =>
    have absent : s.elements[name]? = none := Std.ExtTreeMap.getElem?_eq_none lacking
    simp only [elementLeaf, absent] at used
    exact ⟨_, reported used, rfl⟩
  | @attr name context usage used =>
    obtain ⟨foreign, absent⟩ := not_or.mp lacking
    have absent : s.attributes[name]? = none := Std.ExtTreeMap.getElem?_eq_none absent
    simp only [attributeRefLeaf, absent, if_neg foreign] at used
    exact ⟨_, reported used, rfl⟩
  | @group e t name he hdecl leads =>
    refine ⟨⟨name, .group, e.id.toText⟩, reported (.byType he ?_), rfl⟩
    rw [hdecl, mem_uses_complex_iff]
    rcases leads.cases_tail with here | ⟨a, d, before, hd, refers⟩
    · cases hg : contentGroup? t with
      | none => simp [contentRefs, hg] at here
      | some g =>
        rw [contentRefs, hg] at here
        exact Or.inr (Or.inl ⟨g, rfl, missing_mem_groupUses _ _ g here lacking⟩)
    · exact Or.inr (Or.inr (Or.inl ⟨a, d, before, hd, missing_mem_groupUses _ _ _ refers lacking⟩))
  | @attributeGroup e t name he hdecl leads =>
    refine ⟨⟨name, .attributeGroup, e.id.toText⟩, reported (.byType he ?_), rfl⟩
    rw [hdecl, mem_uses_complex_iff]
    rcases leads.cases_tail with here | ⟨a, d, before, hd, refers⟩
    · rw [attributeRefs] at here
      split at here
      · cases here
      · next noArray =>
        exact Or.inr (Or.inr (Or.inr (Or.inl
          ⟨eq_false_of_ne_true noArray, missing_mem_attributeUses _ _ 0 here lacking⟩)))
    · exact Or.inr (Or.inr (Or.inr (Or.inr
        ⟨a, d, before, hd, missing_mem_attributeUses _ _ 0 refers lacking⟩)))

/-- What is reported as missing is what is mentioned and cannot be found. -/
theorem mem_missed_iff {g : TypeGraph} {missed : References} (h : ofSymbols s = .ok (g, missed))
    (m : Mention) : (∃ r ∈ missed, r.mention = m) ↔ s.Mentions m ∧ ¬ s.Finds m := by
  obtain ⟨_, rfl⟩ := ofSymbols_eq_ok h
  constructor
  · rintro ⟨r, hr, rfl⟩
    obtain ⟨u, used, unresolved⟩ := mem_missing.mp hr
    exact lacking_of_unresolved (grounded_of_used used) unresolved
  · rintro ⟨mentioned, lacking⟩
    exact missing_of_visited (visited_of_mentions mentioned) lacking

/-! ## A name behind a group -/

def groupedType : TypeDecl := .complex {
  name := some "T"
  documentation := none
  isAbstract := false
  mixed := false
  content := .group ⟨.sequence, .once, [.groupRef ⟨"", "G"⟩ .once]⟩
  attributes := []
  anyAttribute := false
  arrayItem := none }

def groupDecl : GroupDecl := ⟨"G", ⟨.sequence, .once, [.elementRef ⟨"", "E"⟩ .once]⟩⟩

/-- A type that refers to a group, which refers to an element that nothing declares. -/
def groupedSymbols : Symbols :=
  { Symbols.empty with
    types := Symbols.empty.types.insert ⟨"", "T"⟩ ⟨groupedType, "", default⟩
    groups := Symbols.empty.groups.insert ⟨"", "G"⟩ ⟨groupDecl, "", default⟩ }

def groupedGraph : TypeGraph := draft groupedSymbols (AnonymousPaths.ofSymbols groupedSymbols)

theorem ofSymbols_groupedSymbols : ofSymbols groupedSymbols =
    .ok (groupedGraph, missing groupedSymbols (AnonymousPaths.ofSymbols groupedSymbols)) := by
  have noCycle : groupedGraph.types.keys.findSome? (cycleOf? groupedGraph.types) = none := by cbv
  rw [groupedGraph] at noCycle
  simp only [ofSymbols, noCycle]
  rfl

/-- The element is reported, the group is not. -/
theorem mem_missed_iff_groupedSymbols : ∃ g missed, ofSymbols groupedSymbols = .ok (g, missed) ∧
    (∃ r ∈ missed, r.mention = ⟨⟨"", "E"⟩, .element⟩) ∧
      ¬ ∃ r ∈ missed, r.mention = ⟨⟨"", "G"⟩, .group⟩ := by
  have type : groupedSymbols.types[(⟨"", "T"⟩ : QName)]? = some ⟨groupedType, "", default⟩ := by
    simp [groupedSymbols]
  have group : groupedSymbols.groups[(⟨"", "G"⟩ : QName)]? = some ⟨groupDecl, "", default⟩ := by
    simp [groupedSymbols]
  have mentioned : groupedSymbols.Mentions ⟨⟨"", "E"⟩, .element⟩ :=
    .inGroup (.inType type List.mem_cons_self) group List.mem_cons_self
  have lacking : ¬ groupedSymbols.Finds ⟨⟨"", "E"⟩, .element⟩ := Std.ExtTreeMap.not_mem_empty
  refine ⟨_, _, ofSymbols_groupedSymbols,
    (mem_missed_iff ofSymbols_groupedSymbols _).mpr ⟨mentioned, lacking⟩, fun reported => ?_⟩
  exact ((mem_missed_iff ofSymbols_groupedSymbols _).mp reported).2 (mem_of_getElem? group)

/-! ## An array with the content of a text -/

/-- A restriction of the encoded array, though one of simple content, with items of a type that
nothing declares. -/
def textArray : ComplexType where
  name := some "T"
  documentation := none
  isAbstract := false
  mixed := false
  content := .simpleRestriction ⟨Namespaces.soap11Encoding, "Array"⟩ ⟨[], []⟩
  attributes := [.ref ⟨Namespaces.soap11Encoding, "arrayType"⟩ .optional]
  anyAttribute := false
  arrayItem := some ⟨"urn:t", "Missing"⟩

def textArraySymbols : Symbols :=
  { Symbols.empty with
    types := Symbols.empty.types.insert ⟨"urn:t", "T"⟩ ⟨.complex textArray, "urn:t", default⟩ }

def textArrayGraph : TypeGraph :=
  draft textArraySymbols (AnonymousPaths.ofSymbols textArraySymbols)

theorem types_textArraySymbols {name : QName} {d : Declared TypeDecl}
    (h : textArraySymbols.types[name]? = some d) : d = ⟨.complex textArray, "urn:t", default⟩ := by
  rcases getElem?_insert_eq_some_iff.mp h with ⟨_, rfl⟩ | ⟨_, none⟩
  · rfl
  · cases none

/-- The array itself and the attribute that tells its items need no document. -/
theorem finds_textArraySymbols (h : textArraySymbols.Mentions m) : textArraySymbols.Finds m := by
  have mentions : textArray.mentions = [⟨⟨Namespaces.soap11Encoding, "Array"⟩, .type⟩,
      ⟨⟨Namespaces.soap11Encoding, "arrayType"⟩, .attr⟩] := rfl
  cases h with
  | inType hd hm =>
    rw [types_textArraySymbols hd, TypeDecl.mentions, mentions] at hm
    rcases List.mem_cons.mp hm with rfl | hm
    · exact Or.inl rfl
    · obtain rfl := List.mem_singleton.mp hm
      exact Or.inl (by decide)
  | inElement hd _ | inAttribute _ hd _ | inGroup _ hd _ | inAttributeGroup _ hd _ => cases hd

theorem missing_textArraySymbols :
    missing textArraySymbols (AnonymousPaths.ofSymbols textArraySymbols) = ∅ := by
  refine Std.ExtTreeSet.ext_mem fun r => iff_of_false (fun hr => ?_) Std.ExtTreeSet.not_mem_empty
  obtain ⟨u, used, unresolved⟩ := mem_missing.mp hr
  obtain ⟨mentioned, lacking⟩ := lacking_of_unresolved (grounded_of_used used) unresolved
  exact lacking (finds_textArraySymbols mentioned)

/-- The content of a text is no base. -/
theorem baseId?_textArrayGraph {id : TypeId} {n : TypeNode}
    (h : textArrayGraph.types[id]? = some n) : baseId? n = none := by
  obtain ⟨e, he, _, rfl⟩ := (getElem?_draft (named_ofSymbols _)).mp h
  have decl : e.decl = .complex textArray := by
    rcases List.mem_append.mp he with he | he
    · obtain ⟨name, d, hd, rfl⟩ := mem_namedEntries.mp he
      rw [types_textArraySymbols hd]
    · obtain ⟨site, path, decl, origin, _, hdecl, _⟩ := mem_anonymousEntries.mp he
      have listed := getElem?_inlineTypes.mp hdecl
      cases show (site, decl) ∈ [] from listed
  simp only [node, decl]
  rfl

theorem ofSymbols_textArraySymbols : ofSymbols textArraySymbols = .ok (textArrayGraph, ∅) := by
  have noCycle : textArrayGraph.types.keys.findSome? (cycleOf? textArrayGraph.types) = none := by
    refine List.findSome?_eq_none_iff.mpr fun id hid => ?_
    obtain ⟨n, hn⟩ := exists_getElem?_of_mem (Std.ExtTreeMap.mem_keys.mp hid)
    rw [cycleOf?, hn, Option.bind_some, baseId?_textArrayGraph hn, Option.bind_none]
  rw [textArrayGraph] at noCycle
  simp only [ofSymbols, noCycle, missing_textArraySymbols]
  rfl

/-- Only restrictions of complex content are taken for encoded arrays, so the type of the items is
neither looked up nor reported. -/
theorem items_of_textArray_ignored : ∃ g, ofSymbols textArraySymbols = .ok (g, ∅) ∧
    textArraySymbols.types[(⟨"urn:t", "T"⟩ : QName)]? =
      some ⟨.complex textArray, "urn:t", default⟩ ∧
    (∃ base facets, textArray.content = .simpleRestriction base facets ∧
      isEncodedArray base = true) ∧
    textArray.arrayItem = some ⟨"urn:t", "Missing"⟩ ∧
    ¬ textArraySymbols.Finds ⟨⟨"urn:t", "Missing"⟩, .type⟩ := by
  have declared : textArraySymbols.types[(⟨"urn:t", "T"⟩ : QName)]? =
      some ⟨.complex textArray, "urn:t", default⟩ := by simp [textArraySymbols]
  refine ⟨_, ofSymbols_textArraySymbols, declared, ⟨_, _, rfl, by decide⟩, rfl, ?_⟩
  rintro (builtin | found)
  · exact absurd builtin (by decide)
  · rw [textArraySymbols, mem_insert_iff] at found
    rcases found with same | found
    · exact absurd same (by decide)
    · exact Std.ExtTreeMap.not_mem_empty found

end SoapBindings.TypeGraph
