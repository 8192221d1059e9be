import SoapBindings.Proofs.Schema.Sites

/-!
# What types use

`Arises` says what the pieces of a type can be; it is proved by the recursions that make them, and
everything about single pieces is read off it by cases. Two facts are: a use of a type declared in
place has a site that is listed (`sited_of_mem_uses`), and a reference that the node of a type does
not hold asks for a group (`mem_heldUses_or_group`).
-/

set_option autoImplicit false

namespace SoapBindings.Schema.Symbols

/-- If the use is of a type declared in place, the type is listed at its site. -/
def Sited (s : Symbols) (u : Use) : Prop :=
  ∀ site path, u = .inline site path → site ∈ s.inlineTypes

/-- What a declaration at `place` declares in place as its type is listed. -/
def ListedAt (s : Symbols) (place : Enclosure) (type : Option TypeUse) : Prop :=
  ∀ use, type = some use → ∀ e ∈ use.inlineTypes place.site, e ∈ s.inlineEntries

variable {s : Symbols}

theorem sited_builtin (b : Builtin) : s.Sited (.builtin b) := by rintro site path ⟨⟩

theorem sited_named (r : Reference) : s.Sited (.named r) := by rintro site path ⟨⟩

theorem sited_missing (r : Reference) : s.Sited (.missing r) := by rintro site path ⟨⟩

theorem sited_ofTypeUse {absent : Builtin} {place : Enclosure} {context : String}
    {type : Option TypeUse} (listed : s.ListedAt place type) :
    s.Sited (.ofTypeUse absent place context type) := by
  cases type with
  | none => exact sited_builtin absent
  | some use =>
    cases use with
    | named name => exact sited_named _
    | anonymous t =>
      rintro site path ⟨⟩
      exact mem_inlineTypes.mpr ⟨t, listed _ rfl _ List.mem_cons_self⟩

theorem sited_elementUse {name : QName} {d : Declared ElementDecl}
    (h : s.elements[name]? = some d) : s.Sited (elementUse name d.decl) :=
  sited_ofTypeUse fun _ huse => (Lists.element h huse).sub

theorem sited_elementLeaf {context : String} {name : QName} {occurs : Occurs} :
    s.Sited (s.elementLeaf context name occurs).use := by
  rw [elementLeaf]
  split
  · next d h => exact sited_elementUse h
  · exact sited_missing _

theorem sited_attributeRefLeaf {context : String} {name : QName} {usage : Usage} :
    s.Sited (s.attributeRefLeaf context name usage).use := by
  rw [attributeRefLeaf]
  split
  · next d h => exact sited_ofTypeUse fun _ huse => (Lists.attr h huse).sub
  · show s.Sited (if _ then _ else _)
    split
    · exact sited_builtin _
    · exact sited_missing _

/-! ## Pieces -/

/-- The piece is one that elements or attributes of a type give. -/
inductive Arises (s : Symbols) (context : String) : Piece → Prop
  | element {place : Enclosure} {d : ElementDecl} {occurs : Occurs} : s.ListedAt place d.type →
      Arises s context (.leaf ⟨d.name, d.ns, .element, .ofTypeUse .anyType place context d.type,
        occurs, d.nillable, d.documentation⟩)
  | elementRef {name : QName} {occurs : Occurs} :
      Arises s context (.leaf (s.elementLeaf context name occurs))
  | any {occurs : Occurs} :
      Arises s context (.leaf ⟨"any", none, .element, .builtin .anyType, occurs, false, none⟩)
  | group {name : QName} : Arises s context (.missing ⟨name, .group, context⟩)
  | ownAttribute {place : Enclosure} {d : AttributeDecl} {usage : Usage} : s.ListedAt place d.type →
      Arises s context (.leaf (attributeLeaf context place d usage))
  | attributeRef {name : QName} {usage : Usage} :
      Arises s context (.leaf (s.attributeRefLeaf context name usage))
  | attributeGroup {name : QName} : Arises s context (.missing ⟨name, .attributeGroup, context⟩)

theorem groupInlineTypes_eq (site : Site) (g : ModelGroup) :
    g.inlineTypes site = itemsInlineTypes site 0 g.items := by
  cases g
  rw [ModelGroup.inlineTypes]

theorem itemsInlineTypes_element (site : Site) (i : Nat) (d : ElementDecl) (own : Occurs)
    (rest : List GroupItem) :
    itemsInlineTypes site i (.element d own :: rest) =
      d.type.toList.flatMap (·.inlineTypes (site.step i)) ++
        itemsInlineTypes site (i + 1) rest := by
  obtain ⟨_, _, type, _, _, _, _, _, _⟩ := d
  cases type with
  | none => simp [itemsInlineTypes]
  | some use => simp [itemsInlineTypes]

theorem attributesInlineTypes_own (site : Site) (i : Nat) (d : AttributeDecl)
    (rest : List AttributeItem) :
    attributesInlineTypes site i (.own d :: rest) =
      d.type.toList.flatMap (·.inlineTypes (site.step i)) ++
        attributesInlineTypes site (i + 1) rest := by
  obtain ⟨_, _, type, _, _, _⟩ := d
  cases type with
  | none => simp [attributesInlineTypes]
  | some use => simp [attributesInlineTypes]

theorem arises_itemPieces (context : String) (available : Groups) (occurs : Occurs)
    (optional : Bool) (place : Enclosure) (i : Nat) (items : List GroupItem)
    (declared : ∀ (name : QName) (d : Declared GroupDecl), available[name]? = some d →
      s.groups[name]? = some d)
    (listed : ∀ e ∈ itemsInlineTypes place.site i items, e ∈ s.inlineEntries) :
    ∀ piece ∈ s.itemPieces context available occurs optional place i items,
      s.Arises context piece := by
  induction available, occurs, optional, place, i, items using itemPieces.induct with
  | case1 available occurs optional place i =>
    rw [itemPieces]
    simp
  | case2 available occurs optional place i d own rest ih =>
    rw [itemsInlineTypes_element] at listed
    rw [itemPieces]
    intro piece hpiece
    rcases List.mem_cons.mp hpiece with rfl | hpiece
    · refine .element fun use huse e he => listed e (List.mem_append_left _ ?_)
      simpa [huse, Enclosure.child] using he
    · exact ih declared (fun e he => listed e (List.mem_append_right _ he)) piece hpiece
  | case3 available occurs optional place i name own rest ih =>
    rw [itemPieces]
    intro piece hpiece
    rcases List.mem_cons.mp hpiece with rfl | hpiece
    · exact .elementRef
    · exact ih declared listed piece hpiece
  | case4 available occurs optional place i compositor own items rest inner ih =>
    have hlisted : itemsInlineTypes place.site i (.group ⟨compositor, own, items⟩ :: rest) =
        itemsInlineTypes (place.step i).site 0 items ++
          itemsInlineTypes place.site (i + 1) rest := by
      rw [itemsInlineTypes, ModelGroup.inlineTypes]
      rfl
    rw [hlisted] at listed
    rw [itemPieces]
    intro piece hpiece
    rcases List.mem_append.mp hpiece with hpiece | hpiece
    · exact inner declared (fun e he => listed e (List.mem_append_left _ he)) piece hpiece
    · exact ih declared (fun e he => listed e (List.mem_append_right _ he)) piece hpiece
  | case5 available occurs optional place i name own rest inner ih =>
    rw [itemPieces]
    intro piece hpiece
    rcases List.mem_append.mp hpiece with hpiece | hpiece
    · split at hpiece
      · next d hd =>
        -- Within a group, sites are those of the group and not of the type that refers to it.
        have hgroup := Lists.group (declared name d hd)
        refine inner d hd ?_ ?_ piece hpiece
        · intro other d' hd'
          exact declared other d' (getElem?_erase_eq_some_iff.mp hd').2
        · rw [← groupInlineTypes_eq]
          exact hgroup.sub
      · split at hpiece
        · cases hpiece
        · obtain rfl := List.mem_singleton.mp hpiece
          exact .group
    · exact ih declared listed piece hpiece
  | case6 available occurs optional place i own rest ih =>
    rw [itemPieces]
    intro piece hpiece
    rcases List.mem_cons.mp hpiece with rfl | hpiece
    · exact .any
    · exact ih declared listed piece hpiece

theorem arises_groupPieces {context : String} {place : Enclosure} {g : ModelGroup}
    (listed : ∀ e ∈ g.inlineTypes place.site, e ∈ s.inlineEntries) :
    ∀ piece ∈ s.groupPieces context place g, s.Arises context piece := by
  rw [groupInlineTypes_eq] at listed
  exact arises_itemPieces context s.groups _ _ place 0 g.items (fun _ _ h => h) listed

theorem arises_attributePieces (context : String) (available : AttributeGroups) (place : Enclosure)
    (i : Nat) (items : List AttributeItem)
    (declared : ∀ (name : QName) (d : Declared AttributeGroupDecl), available[name]? = some d →
      s.attributeGroups[name]? = some d)
    (listed : ∀ e ∈ attributesInlineTypes place.site i items, e ∈ s.inlineEntries) :
    ∀ piece ∈ s.attributePieces context available place i items, s.Arises context piece := by
  induction available, place, i, items using attributePieces.induct with
  | case1 available place i =>
    rw [attributePieces]
    simp
  | case2 available place i d rest ih =>
    rw [attributesInlineTypes_own] at listed
    rw [attributePieces]
    intro piece hpiece
    rcases List.mem_append.mp hpiece with hpiece | hpiece
    · split at hpiece
      · cases hpiece
      · obtain rfl := List.mem_singleton.mp hpiece
        refine .ownAttribute fun use huse e he => listed e (List.mem_append_left _ ?_)
        simpa [huse, Enclosure.child] using he
    · exact ih declared (fun e he => listed e (List.mem_append_right _ he)) piece hpiece
  | case3 available place i name usage rest ih =>
    rw [attributePieces]
    intro piece hpiece
    rcases List.mem_append.mp hpiece with hpiece | hpiece
    · split at hpiece
      · cases hpiece
      · obtain rfl := List.mem_singleton.mp hpiece
        exact .attributeRef
    · exact ih declared listed piece hpiece
  | case4 available place i name rest inner ih =>
    rw [attributePieces]
    intro piece hpiece
    rcases List.mem_append.mp hpiece with hpiece | hpiece
    · split at hpiece
      · next d hd =>
        refine inner d hd ?_ (Lists.attributeGroup (declared name d hd)).sub piece hpiece
        intro other d' hd'
        exact declared other d' (getElem?_erase_eq_some_iff.mp hd').2
      · split at hpiece
        · cases hpiece
        · obtain rfl := List.mem_singleton.mp hpiece
          exact .attributeGroup
    · exact ih declared listed piece hpiece

namespace Arises

variable {context : String} {piece : Piece}

theorem sited (h : s.Arises context piece) : s.Sited piece.use := by
  cases h with
  | element listed => exact sited_ofTypeUse listed
  | elementRef => exact sited_elementLeaf
  | any => exact sited_builtin _
  | group => exact sited_missing _
  | ownAttribute listed => exact sited_ofTypeUse listed
  | attributeRef => exact sited_attributeRefLeaf
  | attributeGroup => exact sited_missing _

/-- Only references to groups are held by no leaf. -/
theorem missing_kind {r : Reference} (h : s.Arises context (.missing r)) :
    r.kind = .group ∨ r.kind = .attributeGroup := by
  cases h with
  | group => exact Or.inl rfl
  | attributeGroup => exact Or.inr rfl

end Arises

/-! ## What is asked for -/

/-- The use asks for no group, neither of elements nor of attributes. -/
def AsksNoGroup : Use → Prop
  | .named r | .missing r => r.kind ≠ .group ∧ r.kind ≠ .attributeGroup
  | .builtin _ | .inline _ _ => True

theorem asksNoGroup_ofTypeUse (absent : Builtin) (place : Enclosure) (context : String) :
    (type : Option TypeUse) → AsksNoGroup (.ofTypeUse absent place context type)
  | none => trivial
  | some (.named _) => ⟨nofun, nofun⟩
  | some (.anonymous _) => trivial

/-- Leaves ask for types, elements and attributes. -/
theorem Arises.asksNoGroup {context : String} {l : Leaf} (h : s.Arises context (.leaf l)) :
    AsksNoGroup l.use := by
  generalize hpiece : Piece.leaf l = piece at h
  cases h with
  | element _ | ownAttribute _ =>
    cases hpiece
    exact asksNoGroup_ofTypeUse ..
  | elementRef =>
    cases hpiece
    rw [elementLeaf]
    split
    · exact asksNoGroup_ofTypeUse ..
    · exact ⟨nofun, nofun⟩
  | any =>
    cases hpiece
    exact trivial
  | attributeRef =>
    cases hpiece
    rw [attributeRefLeaf]
    split
    · exact asksNoGroup_ofTypeUse ..
    · show AsksNoGroup (if _ then _ else _)
      split
      · exact trivial
      · exact ⟨nofun, nofun⟩
  | group | attributeGroup => cases hpiece

/-! ## Types -/

theorem sited_simpleOrigin {context : String} {place : Enclosure} {t : SimpleType}
    (listed : ∀ e ∈ t.inlineTypes place.site, e ∈ s.inlineEntries) :
    s.Sited (simpleOrigin context place t) := by
  obtain ⟨name, documentation, derivation⟩ := t
  cases derivation with
  | restriction base facets =>
    rw [SimpleType.inlineTypes] at listed
    exact sited_ofTypeUse fun use huse => by cases huse; exact listed
  | list item =>
    rw [SimpleType.inlineTypes] at listed
    exact sited_ofTypeUse fun use huse => by cases huse; exact listed
  | union members => exact sited_builtin _

theorem arises_elementsOf {context : String} {place : Enclosure} {t : ComplexType}
    (listed : ∀ e ∈ t.content.inlineTypes (place.site.step 0), e ∈ s.inlineEntries) :
    ∀ piece ∈ s.elementsOf context place t, s.Arises context piece := by
  rw [elementsOf]
  cases hg : contentGroup? t with
  | none => simp
  | some g =>
    refine arises_groupPieces ?_
    intro e he
    refine listed e ?_
    rw [contentGroup?] at hg
    split at hg
    · next heq => cases hg; rw [heq, Content.inlineTypes]; exact he
    · next heq => cases hg; rw [heq, Content.inlineTypes]; exact he
    · next heq =>
      split at hg
      · cases hg
      · cases hg; rw [heq, Content.inlineTypes]; exact he
    · cases hg

theorem arises_attributesOf {context : String} {place : Enclosure} {t : ComplexType}
    (listed : ∀ e ∈ attributesInlineTypes (place.site.step 1) 0 t.attributes,
      e ∈ s.inlineEntries) :
    ∀ piece ∈ s.attributesOf context place t, s.Arises context piece := by
  rw [attributesOf]
  split
  · simp
  · exact arises_attributePieces context s.attributeGroups (place.step 1) 0 t.attributes
      (fun _ _ h => h) listed

theorem origin?_eq_some {context : String} {t : ComplexType} {u : Use}
    (h : origin? context t = some u) :
    (∃ name, u = .named ⟨name, .type, context⟩) ∨ u = .builtin .anyType := by
  rw [origin?] at h
  split at h
  · cases h
  · cases h
  · split at h
    · cases h
      split
      · exact Or.inl ⟨_, rfl⟩
      · exact Or.inr rfl
    · cases h
      exact Or.inl ⟨_, rfl⟩
  · cases h
    exact Or.inl ⟨_, rfl⟩
  · cases h
    exact Or.inl ⟨_, rfl⟩
  · cases h
    exact Or.inl ⟨_, rfl⟩

/-- The pieces of a complex type. -/
def piecesOf (s : Symbols) (context : String) (place : Enclosure) (t : ComplexType) : List Piece :=
  s.elementsOf context place t ++ s.attributesOf context place t

theorem arises_piecesOf {context : String} {place : Enclosure} {t : ComplexType}
    (listed : ∀ e ∈ t.inlineTypes place.site, e ∈ s.inlineEntries) :
    ∀ piece ∈ s.piecesOf context place t, s.Arises context piece := by
  rw [ComplexType.inlineTypes_eq] at listed
  intro piece hpiece
  rcases List.mem_append.mp hpiece with hpiece | hpiece
  · exact arises_elementsOf (fun e he => listed e (List.mem_append_left _ he)) piece hpiece
  · exact arises_attributesOf (fun e he => listed e (List.mem_append_right _ he)) piece hpiece

theorem mem_uses_complex {context : String} {place : Enclosure} {t : ComplexType} {u : Use} :
    u ∈ s.uses context place (.complex t) ↔
      origin? context t = some u ∨ ∃ piece ∈ s.piecesOf context place t, piece.use = u := by
  rw [uses, List.mem_append, Option.mem_toList, List.mem_map]
  rfl

/-- Whatever a listed type uses and declares in place is listed. -/
theorem sited_of_mem_uses {context : String} {place : Enclosure} {t : TypeDecl}
    (listed : ∀ e ∈ t.inlineTypes place.site, e ∈ s.inlineEntries) :
    ∀ u ∈ s.uses context place t, s.Sited u := by
  intro u hu
  cases t with
  | simple t =>
    rw [TypeDecl.inlineTypes] at listed
    obtain rfl := List.mem_singleton.mp hu
    exact sited_simpleOrigin listed
  | complex t =>
    rw [TypeDecl.inlineTypes] at listed
    rcases mem_uses_complex.mp hu with horigin | ⟨piece, hpiece, rfl⟩
    · rcases origin?_eq_some horigin with ⟨name, rfl⟩ | rfl
      · exact sited_named _
      · exact sited_builtin _
    · exact (arises_piecesOf listed piece hpiece).sited

/-! ## What a type holds -/

/-- The uses that the node of a type keeps: all but references to groups that find nothing, which
leave no leaf behind. -/
def heldUses (s : Symbols) (context : String) (place : Enclosure) : TypeDecl → List Use
  | .simple t => [simpleOrigin context place t]
  | .complex t => (origin? context t).toList ++
      ((s.piecesOf context place t).filterMap (·.leaf?)).map (·.use)

theorem mem_heldUses_complex {context : String} {place : Enclosure} {t : ComplexType} {u : Use} :
    u ∈ s.heldUses context place (.complex t) ↔ origin? context t = some u ∨
      ∃ l, .leaf l ∈ s.piecesOf context place t ∧ l.use = u := by
  rw [heldUses, List.mem_append, Option.mem_toList, List.mem_map]
  refine or_congr_right (exists_congr fun l => and_congr_left fun _ => ?_)
  rw [List.mem_filterMap]
  constructor
  · rintro ⟨piece, hpiece, hl⟩
    cases piece with
    | leaf l' =>
      cases hl
      exact hpiece
    | missing r => cases hl
  · exact fun h => ⟨_, h, rfl⟩

variable {context : String} {place : Enclosure} {t : TypeDecl} {u : Use}

theorem mem_uses_of_mem_heldUses (h : u ∈ s.heldUses context place t) :
    u ∈ s.uses context place t := by
  cases t with
  | simple t => exact h
  | complex t =>
    rcases mem_heldUses_complex.mp h with h | ⟨l, hl, rfl⟩
    · exact mem_uses_complex.mpr (Or.inl h)
    · exact mem_uses_complex.mpr (Or.inr ⟨_, hl, rfl⟩)

theorem asksNoGroup_of_mem_heldUses
    (listed : ∀ e ∈ t.inlineTypes place.site, e ∈ s.inlineEntries)
    (h : u ∈ s.heldUses context place t) : AsksNoGroup u := by
  cases t with
  | simple t =>
    obtain rfl := List.mem_singleton.mp h
    rw [simpleOrigin]
    split
    · exact asksNoGroup_ofTypeUse ..
    · exact asksNoGroup_ofTypeUse ..
    · exact trivial
  | complex t =>
    rw [TypeDecl.inlineTypes] at listed
    rcases mem_heldUses_complex.mp h with h | ⟨l, hl, rfl⟩
    · rcases origin?_eq_some h with ⟨name, rfl⟩ | rfl
      · exact ⟨nofun, nofun⟩
      · exact trivial
    · exact (arises_piecesOf listed _ hl).asksNoGroup

/-- What is used and not held is a reference to a group. -/
theorem mem_heldUses_or_group (listed : ∀ e ∈ t.inlineTypes place.site, e ∈ s.inlineEntries)
    (h : u ∈ s.uses context place t) : u ∈ s.heldUses context place t ∨
      ∃ r, u = .missing r ∧ (r.kind = .group ∨ r.kind = .attributeGroup) := by
  cases t with
  | simple t => exact Or.inl h
  | complex t =>
    rw [TypeDecl.inlineTypes] at listed
    rcases mem_uses_complex.mp h with h | ⟨piece, hpiece, rfl⟩
    · exact Or.inl (mem_heldUses_complex.mpr (Or.inl h))
    · cases piece with
      | leaf l => exact Or.inl (mem_heldUses_complex.mpr (Or.inr ⟨l, hpiece, rfl⟩))
      | missing r => exact Or.inr ⟨r, rfl, (arises_piecesOf listed _ hpiece).missing_kind⟩

end SoapBindings.Schema.Symbols
