import SoapBindings.Proofs.Document.Namespaces
import SoapBindings.Proofs.Schema.Bounds

/-!
# Bounds that were read

A reader refuses bounds of which the least is above the largest (`isRange_of_readOccurs`), and no
bounds come into a declaration in another way: those of a group that stands for a reference are
written by the reader itself. So all bounds in what was read are ranges, however deep they stand
(`Declarations.IsRead.inRange`). As in the readers, there is one lemma for each of them, in their
own recursion.
-/

set_option autoImplicit false

namespace SoapBindings

open Xml

/-- What is read as bounds is a range. -/
theorem isRange_of_readOccurs {e : Element} {o : Schema.Occurs} (h : readOccurs e = .ok o) :
    o.IsRange := by
  rw [readOccurs] at h
  cases hmin : readMinOccurs e with
  | error m =>
    rw [hmin] at h
    cases h
  | ok least =>
    cases hmax : readMaxOccurs e with
    | error m =>
      simp only [hmin, hmax, bind, Except.bind] at h
      cases h
    | ok most =>
      simp only [hmin, hmax, bind, Except.bind] at h
      cases most with
      | unbounded =>
        cases h
        trivial
      | bounded n =>
        dsimp only at h
        split at h
        · cases h
        · next notBelow =>
          cases h
          exact Nat.not_lt.mp notBelow

namespace Reading.Gives

variable {α β : Type} {p : α → Prop} {q : β → Prop}

/-- Of two readers that pass nothing over, the second may use what is known of the first. -/
theorem liftBind {x : Except Misreading β} {f : β → Except Misreading α}
    (first : ∀ b, x = .ok b → q b) (next : ∀ b, q b → Gives (liftM (f b)) p) :
    Gives (liftM (x >>= f) : Reading α) p := by
  cases x with
  | error m => exact .lift fun _ h => nomatch h
  | ok b => exact next b (first b rfl)

end Reading.Gives

namespace Schema

variable {ctx : Context}

theorem readOccurs_gives (e : Element) :
    (liftM (readOccurs e) : Reading Occurs).Gives (·.IsRange) :=
  .lift fun _ h => isRange_of_readOccurs h

theorem readGroupRef_inRange (e : Element) :
    (liftM (readGroupRef ctx e) : Reading GroupItem).Gives (InRange ·.bounds) := by
  rw [readGroupRef]
  refine .liftAfter fun name => .liftBind (fun _ h => isRange_of_readOccurs h) fun own hown => ?_
  exact .liftPure (by simpa [GroupItem.bounds] using hown)

theorem readGroupUse_inRange (e : Element) :
    (liftM (readGroupUse ctx e) : Reading ModelGroup).Gives (InRange ·.bounds) := by
  rw [readGroupUse, readGroupRef]
  simp only [bind_assoc]
  refine .liftAfter fun name => .liftBind (fun _ h => isRange_of_readOccurs h) fun own hown => ?_
  apply Reading.Gives.liftPure
  simpa [ModelGroup.bounds, itemsBounds, GroupItem.bounds] using ⟨Occurs.isRange_once, hown⟩

/-! ## Simple types -/

mutual

theorem readInlineSimple_inRange (e : Element) :
    (readInlineSimple ctx e).Gives fun type => InRange (useBounds type) := by
  rw [readInlineSimple]
  split
  · exact .pure inRange_nil
  · next c _ =>
    have := c.sizeOf_lt
    refine .bind (readSimpleType_inRange c.1 false) fun t ht => .pure ?_
    simpa [useBounds, TypeUse.bounds, TypeDecl.bounds] using ht
termination_by (sizeOf e, 0)

theorem readTypeUse_inRange (e : Element) (name : String) :
    (readTypeUse ctx e name).Gives (InRange ·.bounds) := by
  rw [readTypeUse]
  refine .after fun q => ?_
  cases q with
  | some q => exact .pure (by simp [TypeUse.bounds])
  | none =>
    refine .bind (readInlineSimple_inRange e) fun type htype => ?_
    cases type with
    | some use => exact .pure (by simpa [useBounds] using htype)
    | none => exact .misread
termination_by (sizeOf e, 1)

theorem readDerivation_inRange (e : Element) (name documentation : Option String) :
    (readDerivation ctx e).Gives fun derivation =>
      InRange (SimpleType.mk name documentation derivation).bounds := by
  rw [readDerivation]
  split
  · refine .bind (readTypeUse_inRange e "base") fun base hbase => .after fun facets => .pure ?_
    rwa [SimpleType.bounds]
  · refine .bind (readTypeUse_inRange e "itemType") fun item hitem => .pure ?_
    rwa [SimpleType.bounds]
  · refine .after fun named => .after fun declared => .pure ?_
    simp [SimpleType.bounds]
termination_by (sizeOf e, 2)

theorem readSimpleType_inRange (e : Element) (isGlobal : Bool) :
    (readSimpleType ctx e isGlobal).Gives (InRange ·.bounds) := by
  rw [readSimpleType]
  refine .after fun name => ?_
  split
  · exact .misread
  · next c _ =>
    have := c.sizeOf_lt
    exact .bind (readDerivation_inRange c.1 _ _) fun derivation hd => .pure hd
termination_by (sizeOf e, 3)

end

/-! ## Attributes -/

/-- What a derivation adds. -/
def Additions.bounds (a : Additions) : List Occurs :=
  groupBounds a.group ++ attributesBounds a.attributes

theorem Additions.inRange_attribute {known : Additions} (h : InRange known.bounds)
    {item : AttributeItem} (hitem : InRange item.bounds) :
    InRange { known with attributes := known.attributes ++ [item] : Additions }.bounds := by
  rw [Additions.bounds, inRange_append] at h
  simpa [Additions.bounds, attributesBounds] using ⟨h.1, h.2, hitem⟩

theorem readAttributeDecl_inRange (e : Element) (isGlobal : Bool) :
    (readAttributeDecl ctx e isGlobal).Gives (InRange ·.bounds) := by
  rw [readAttributeDecl]
  refine .after fun name => .after fun ns => .after fun q => ?_
  cases q with
  | some q =>
    refine .bind (q := fun type => InRange (useBounds type)) (.pure ?_) fun type htype =>
      .after fun usage => .pure (by rwa [AttributeDecl.bounds_eq])
    simp [useBounds, TypeUse.bounds]
  | none =>
    exact .bind (readInlineSimple_inRange e) fun type htype => .after fun usage =>
      .pure (by rwa [AttributeDecl.bounds_eq])

theorem addAttribute_inRange (e : Element) {known : Additions} (hknown : InRange known.bounds) :
    (addAttribute ctx e known).Gives (InRange ·.bounds) := by
  rw [addAttribute]
  split
  · refine .after fun name => ?_
    cases name with
    | some name =>
      exact .after fun usage =>
        .pure (Additions.inRange_attribute hknown (by simp [AttributeItem.bounds]))
    | none =>
      refine .bind (readAttributeDecl_inRange e false) fun decl hd =>
        .pure (Additions.inRange_attribute hknown ?_)
      rwa [AttributeItem.bounds]
  · exact .after fun name =>
      .pure (Additions.inRange_attribute hknown (by simp [AttributeItem.bounds]))
  · exact .pure hknown
  · exact .after fun _ => .pure hknown

/-! ## Complex types, groups and elements -/

mutual

theorem addAddition_inRange (e : Element) {known : Additions} (hknown : InRange known.bounds) :
    (addAddition ctx e known).Gives (InRange ·.bounds) := by
  have group {g : ModelGroup} (hg : InRange g.bounds) :
      InRange { known with group := some g : Additions }.bounds := by
    rw [Additions.bounds, inRange_append] at hknown
    simpa [Additions.bounds, groupBounds] using ⟨hg, hknown.2⟩
  rw [addAddition]
  split
  · exact .bind (readModelGroup_inRange e) fun g hg => .pure (group hg)
  · split
    · exact .bind (readGroupUse_inRange e) fun g hg => .pure (group hg)
    · exact addAttribute_inRange e hknown
termination_by (sizeOf e, 3)

theorem readDerivedContent_inRange (e : Element) {type : ComplexType}
    (htype : InRange type.bounds) : (readDerivedContent ctx e type).Gives (InRange ·.bounds) := by
  rw [ComplexType.bounds_eq, inRange_append] at htype
  have start : InRange (Additions.mk none type.attributes type.anyAttribute).bounds := by
    simpa [Additions.bounds, groupBounds] using htype.2
  rw [readDerivedContent]
  refine .after fun mixed => ?_
  split
  · exact .misread
  · next d _ =>
    refine .after fun base => .after fun arrayItem => .bind
      (.foldlM (p := fun known : Additions => InRange known.bounds) (fun known c hknown => ?_)
        start _) fun added hadded => ?_
    · have := c.sizeOf_lt
      have := d.sizeOf_lt
      exact addAddition_inRange c.1 hknown
    · rw [Additions.bounds, inRange_append] at hadded
      have finish {content : Content} (hcontent : InRange content.bounds) :
          InRange (ComplexType.bounds { type with
            mixed := type.mixed || mixed
            content := content
            attributes := added.attributes
            anyAttribute := added.anyAttribute
            arrayItem := arrayItem.or type.arrayItem }) := by
        rw [ComplexType.bounds_eq, inRange_append]
        exact ⟨hcontent, hadded.2⟩
      dsimp only
      split
      · exact .pure (finish (by rw [Content.bounds_extension]; exact hadded.1))
      · exact .pure (finish (by rw [Content.bounds_restriction]; exact hadded.1))
      · exact .pure (finish (by simp [Content.bounds]))
      · exact .after fun facets => .pure (finish (by simp [Content.bounds]))
termination_by (sizeOf e, 0)

theorem addContent_inRange (e : Element) {type : ComplexType} (htype : InRange type.bounds) :
    (addContent ctx e type).Gives (InRange ·.bounds) := by
  have own := htype
  rw [ComplexType.bounds_eq, inRange_append] at own
  have group {g : ModelGroup} (hg : InRange g.bounds) :
      InRange (ComplexType.bounds { type with content := .group g }) := by
    rw [ComplexType.bounds_eq, inRange_append, Content.bounds]
    exact ⟨hg, own.2⟩
  rw [addContent]
  split
  · exact .bind (readModelGroup_inRange e) fun g hg => .pure (group hg)
  · have start : InRange (Additions.mk none type.attributes type.anyAttribute).bounds := by
      simpa [Additions.bounds, groupBounds] using own.2
    have added : (addAttribute ctx e _).Gives fun known => InRange known.bounds :=
      addAttribute_inRange e start
    have adding {known : Additions} (hknown : InRange known.bounds) :
        InRange (ComplexType.bounds
          { type with attributes := known.attributes, anyAttribute := known.anyAttribute }) := by
      rw [Additions.bounds, inRange_append] at hknown
      rw [ComplexType.bounds_eq, inRange_append]
      exact ⟨own.1, hknown.2⟩
    split
    · exact .bind (readGroupUse_inRange e) fun g hg => .pure (group hg)
    · exact readDerivedContent_inRange e htype
    · exact readDerivedContent_inRange e htype
    · exact .bind added fun known hknown => .pure (adding hknown)
    · exact .bind added fun known hknown => .pure (adding hknown)
    · exact .bind added fun known hknown => .pure (adding hknown)
    · exact .after fun _ => .pure htype
termination_by (sizeOf e, 3)

theorem readComplexType_inRange (e : Element) (isGlobal : Bool) :
    (readComplexType ctx e isGlobal).Gives (InRange ·.bounds) := by
  rw [readComplexType]
  refine .after fun name => .after fun isAbstract => .after fun mixed =>
    .foldlM (p := fun type : ComplexType => InRange type.bounds) (fun type c htype => ?_) ?_ _
  · have := c.sizeOf_lt
    exact addContent_inRange c.1 htype
  · simp [ComplexType.bounds, Content.bounds, attributesBounds]
termination_by (sizeOf e, 0)

theorem addItem_inRange (e : Element) {items : List GroupItem}
    (hitems : InRange (itemsBounds items)) :
    (addItem ctx e items).Gives fun items => InRange (itemsBounds items) := by
  have adding {item : GroupItem} (hitem : InRange item.bounds) :
      InRange (itemsBounds (items ++ [item])) := by
    simpa [itemsBounds] using ⟨hitems, hitem⟩
  rw [addItem]
  split
  · exact .bind (readModelGroup_inRange e) fun g hg => .pure (adding (by rwa [GroupItem.bounds]))
  · split
    · exact .bind (readElementItem_inRange e) fun item hitem => .pure (adding hitem)
    · exact .bind (readGroupRef_inRange e) fun item hitem => .pure (adding hitem)
    · refine .bind (readOccurs_gives e) fun own hown => .pure (adding ?_)
      simpa [GroupItem.bounds] using hown
    · exact .after fun _ => .pure hitems
termination_by (sizeOf e, 4)

theorem readModelGroup_inRange (e : Element) :
    (readModelGroup ctx e).Gives (InRange ·.bounds) := by
  rw [readModelGroup]
  refine .bind (.foldlM (p := fun items => InRange (itemsBounds items)) (a := [])
    (fun items c hitems => ?_) (by simp [itemsBounds]) _) fun items hitems => ?_
  · have := c.sizeOf_lt
    exact addItem_inRange c.1 hitems
  · refine .bind (readOccurs_gives e) fun own hown => .pure ?_
    rw [ModelGroup.bounds, inRange_cons]
    exact ⟨hown, hitems⟩
termination_by (sizeOf e, 0)

theorem readElementItem_inRange (e : Element) :
    (readElementItem ctx e).Gives (InRange ·.bounds) := by
  rw [readElementItem]
  refine .bind (readOccurs_gives e) fun own hown => .after fun name => ?_
  cases name with
  | some name => exact .pure (by simpa [GroupItem.bounds] using hown)
  | none =>
    dsimp only
    split
    · refine .bind (readElementDecl_inRange e false) fun decl hd => .pure ?_
      rw [GroupItem.bounds, inRange_cons]
      exact ⟨hown, hd⟩
    · exact .misread
termination_by (sizeOf e, 2)

theorem readElementDecl_inRange (e : Element) (isGlobal : Bool) :
    (readElementDecl ctx e isGlobal).Gives (InRange ·.bounds) := by
  rw [readElementDecl]
  refine .after fun name => .after fun ns => .bind (readElementType_inRange e) fun type htype =>
    .after fun _ => .after fun nillable => .after fun isAbstract => .after fun head => .pure ?_
  rwa [ElementDecl.bounds_eq]
termination_by (sizeOf e, 1)

theorem readElementType_inRange (e : Element) :
    (readElementType ctx e).Gives fun type => InRange (useBounds type) := by
  rw [readElementType]
  refine .after fun q => ?_
  cases q with
  | some q => exact .pure (by simp [useBounds, TypeUse.bounds])
  | none =>
    dsimp only
    split
    · exact .pure inRange_nil
    · next c _ =>
      have := c.sizeOf_lt
      split
      · refine .bind (readComplexType_inRange c.1 false) fun t ht => .pure ?_
        simpa [useBounds, TypeUse.bounds, TypeDecl.bounds] using ht
      · refine .bind (readSimpleType_inRange c.1 false) fun t ht => .pure ?_
        simpa [useBounds, TypeUse.bounds, TypeDecl.bounds] using ht
termination_by (sizeOf e, 0)

end

/-! ## Schemas -/

/-- All that one schema declares. -/
structure Declarations.InRange (d : Declarations) : Prop where
  types : ∀ t ∈ d.types, Schema.InRange t.bounds
  elements : ∀ e ∈ d.elements, Schema.InRange e.bounds
  attributes : ∀ a ∈ d.attributes, Schema.InRange a.bounds
  groups : ∀ g ∈ d.groups, Schema.InRange g.group.bounds
  attributeGroups : ∀ g ∈ d.attributeGroups, Schema.InRange (attributesBounds g.attributes)

theorem readGroupDecl_inRange (e : Element) :
    (readGroupDecl ctx e).Gives (InRange ·.group.bounds) := by
  rw [readGroupDecl]
  refine .after fun name => ?_
  split
  · exact .misread
  · next c _ => exact .bind (readModelGroup_inRange c.1) fun g hg => .pure hg

theorem readAttributeGroupDecl_inRange (e : Element) :
    (readAttributeGroupDecl ctx e).Gives fun g => InRange (attributesBounds g.attributes) := by
  rw [readAttributeGroupDecl]
  refine .after fun name => .bind (q := fun added : Additions => InRange added.bounds) ?_
    fun added hadded => .pure ?_
  · refine .foldlM (fun known c hknown => addAttribute_inRange c.1 hknown) ?_ (declaring e)
    simp [Additions.bounds, groupBounds, attributesBounds]
  · rw [Additions.bounds, inRange_append] at hadded
    exact hadded.2

theorem addDeclaration_inRange {s : Declarations} {e : Element} (hs : s.InRange) :
    (addDeclaration ctx s e).Gives (·.InRange) := by
  have more {α : Type} {f : α → List Occurs} {as : List α} {a : α}
      (has : ∀ a ∈ as, InRange (f a)) (ha : InRange (f a)) : ∀ b ∈ as ++ [a], InRange (f b) := by
    simpa [or_imp, forall_and] using ⟨has, ha⟩
  rw [addDeclaration]
  split
  · exact .after fun _ => .pure hs
  · split
    · exact .pure hs
    · exact .pure { hs with }
    · exact .after fun _ => .pure { hs with }
    · exact .after fun _ => .after fun _ => .pure { hs with }
    · refine .bind (readComplexType_inRange e true) fun t ht =>
        .pure { hs with types := more hs.types ?_ }
      rwa [TypeDecl.bounds]
    · refine .bind (readSimpleType_inRange e true) fun t ht =>
        .pure { hs with types := more hs.types ?_ }
      rwa [TypeDecl.bounds]
    · exact .bind (readElementDecl_inRange e true) fun d hd =>
        .pure { hs with elements := more hs.elements hd }
    · exact .bind (readAttributeDecl_inRange e true) fun d hd =>
        .pure { hs with attributes := more hs.attributes hd }
    · exact .bind (readGroupDecl_inRange e) fun g hg =>
        .pure { hs with groups := more hs.groups hg }
    · exact .bind (readAttributeGroupDecl_inRange e) fun g hg =>
        .pure { hs with attributeGroups := more hs.attributeGroups hg }
    · exact .after fun _ => .pure hs

theorem readSchema_inRange {target : String} {isAdopted : Bool} (e : Element) :
    (readSchema target isAdopted e).Gives (·.InRange) := by
  rw [readSchema]
  refine .after fun elementForm => .after fun attributeForm =>
    .foldlM (fun s e hs => addDeclaration_inRange hs) ?_ _
  constructor
  all_goals exact fun _ h => absurd h List.not_mem_nil

/-- All bounds in a schema that was read are ranges. -/
theorem Declarations.IsRead.inRange {s : Declarations} (h : s.IsRead) : s.InRange := by
  obtain ⟨_, _, e, _, _, run⟩ := h
  exact readSchema_inRange e _ _ _ run

end Schema

end SoapBindings
