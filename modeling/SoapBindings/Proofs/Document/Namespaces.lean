import SoapBindings.Proofs.Document.Importers
import SoapBindings.Proofs.Schema.LocalNames

/-!
# Documents declare names of their own

A reader puts each name that it declares in the namespace of its schema, or in none, and nowhere
else is a name declared. So whatever holds of the namespaces of the schemas in a document holds of
the namespaces of all names in them (`Document.declaresIn_of_read`). Each reader has one lemma,
stated for any property of the namespace, in the recursion of the readers themselves.
-/

set_option autoImplicit false

namespace SoapBindings

open Xml

namespace Reading.Gives

variable {α β : Type} {p : α → Prop}

/-- Of readers that pass nothing over, too, what comes first does not matter. -/
theorem liftAfter {x : Except Misreading β} {f : β → Except Misreading α}
    (next : ∀ b, Gives (liftM (f b)) p) : Gives (liftM (x >>= f) : Reading α) p := by
  cases x with
  | error m => exact .lift fun _ h => nomatch h
  | ok b => exact next b

theorem liftPure {a : α} (h : p a) : Gives (liftM (Pure.pure a : Except Misreading α)) p :=
  .lift fun _ same => Except.ok.inj same ▸ h

theorem misread {e : Element} {fault : SyntaxFault} :
    Gives (liftM (misread e fault : Except Misreading α)) p :=
  .lift fun _ h => nomatch h

end Reading.Gives

namespace Schema

variable {p : String → Prop} {ctx : Context}

theorem readNamespace_gives (h : p ctx.targetNamespace) (e : Element) (isGlobal : Bool)
    (absent : Form) :
    (liftM (readNamespace ctx e isGlobal absent) : Reading (Option String)).Gives
      fun ns => ∀ n, ns = some n → p n := by
  have own : ∀ n, some ctx.targetNamespace = some n → p n := fun n hn => Option.some.inj hn ▸ h
  rw [readNamespace]
  split
  · exact .liftPure own
  · refine .liftAfter fun form => ?_
    cases form with
    | qualified => exact .liftPure own
    | unqualified => exact .liftPure nofun

/-- A reference to a group declares nothing. -/
theorem readGroupRef_gives (e : Element) :
    (liftM (readGroupRef ctx e) : Reading GroupItem).Gives (·.DeclaresIn p) := by
  rw [readGroupRef]
  exact .liftAfter fun name => .liftAfter fun occurs => .liftPure trivial

theorem readGroupUse_gives (e : Element) :
    (liftM (readGroupUse ctx e) : Reading ModelGroup).Gives (·.DeclaresIn p) := by
  rw [readGroupUse, readGroupRef]
  simp only [bind_assoc]
  exact .liftAfter fun name => .liftAfter fun occurs => .liftPure ⟨trivial, trivial⟩

/-! ## Simple types -/

mutual

theorem readInlineSimple_gives (e : Element) :
    (readInlineSimple ctx e).Gives (UseDeclaresIn p) := by
  rw [readInlineSimple]
  split
  · exact .pure trivial
  · next c _ =>
    have := c.sizeOf_lt
    exact .bind (readSimpleType_gives c.1 false) fun t ht => .pure ht
termination_by (sizeOf e, 0)

theorem readTypeUse_gives (e : Element) (name : String) :
    (readTypeUse ctx e name).Gives (·.DeclaresIn p) := by
  rw [readTypeUse]
  refine .after fun q => ?_
  cases q with
  | some q => exact .pure trivial
  | none =>
    refine .bind (readInlineSimple_gives e) fun use huse => ?_
    cases use with
    | some use => exact .pure huse
    | none => exact .misread
termination_by (sizeOf e, 1)

theorem readDerivation_gives (e : Element) :
    (readDerivation ctx e).Gives (·.DeclaresIn p) := by
  rw [readDerivation]
  split
  · exact .bind (readTypeUse_gives e "base") fun base hbase => .after fun facets => .pure hbase
  · exact .bind (readTypeUse_gives e "itemType") fun item hitem => .pure hitem
  · exact .after fun named => .after fun declared => .pure trivial
termination_by (sizeOf e, 2)

theorem readSimpleType_gives (e : Element) (isGlobal : Bool) :
    (readSimpleType ctx e isGlobal).Gives (·.DeclaresIn p) := by
  rw [readSimpleType]
  refine .after fun name => ?_
  split
  · exact .misread
  · next c _ =>
    have := c.sizeOf_lt
    exact .bind (readDerivation_gives c.1) fun derivation hd => .pure hd
termination_by (sizeOf e, 3)

end

/-! ## Attributes -/

/-- What a derivation adds. -/
structure Additions.DeclaresIn (p : String → Prop) (a : Additions) : Prop where
  group : ∀ g, a.group = some g → g.DeclaresIn p
  attributes : AttributesDeclareIn p a.attributes

theorem Additions.DeclaresIn.attribute {known : Additions} (h : known.DeclaresIn p)
    {item : AttributeItem} (hitem : item.DeclaresIn p) :
    Additions.DeclaresIn p { known with attributes := known.attributes ++ [item] } :=
  ⟨h.group, attributesDeclareIn_append.mpr ⟨h.attributes, hitem, trivial⟩⟩

theorem readAttributeDecl_gives (h : p ctx.targetNamespace) (e : Element) (isGlobal : Bool) :
    (readAttributeDecl ctx e isGlobal).Gives (·.DeclaresIn p) := by
  rw [readAttributeDecl]
  refine .after fun name => .bind (readNamespace_gives h e isGlobal _) fun ns hns =>
    .after fun q => ?_
  cases q with
  | some q =>
    refine .bind (q := UseDeclaresIn p) (.pure trivial) fun type htype => .after fun usage => ?_
    exact .pure ⟨hns, htype⟩
  | none =>
    exact .bind (readInlineSimple_gives e) fun type htype => .after fun usage => .pure ⟨hns, htype⟩

theorem addAttribute_gives (h : p ctx.targetNamespace) (e : Element) {known : Additions}
    (hknown : known.DeclaresIn p) : (addAttribute ctx e known).Gives (·.DeclaresIn p) := by
  rw [addAttribute]
  split
  · refine .after fun name => ?_
    cases name with
    | some name => exact .after fun usage => .pure (hknown.attribute trivial)
    | none =>
      exact .bind (readAttributeDecl_gives h e false) fun decl hd => .pure (hknown.attribute hd)
  · exact .after fun name => .pure (hknown.attribute trivial)
  · exact .pure ⟨hknown.group, hknown.attributes⟩
  · exact .after fun _ => .pure hknown

/-! ## Complex types, groups and elements -/

mutual

theorem addAddition_gives (h : p ctx.targetNamespace) (e : Element) {known : Additions}
    (hknown : known.DeclaresIn p) : (addAddition ctx e known).Gives (·.DeclaresIn p) := by
  have group {g : ModelGroup} (hg : g.DeclaresIn p) :
      Additions.DeclaresIn p { known with group := some g } :=
    ⟨fun g' hg' => Option.some.inj hg' ▸ hg, hknown.attributes⟩
  rw [addAddition]
  split
  · exact .bind (readModelGroup_gives h e) fun g hg => .pure (group hg)
  · split
    · exact .bind (readGroupUse_gives e) fun g hg => .pure (group hg)
    · exact addAttribute_gives h e hknown
termination_by (sizeOf e, 3)

theorem readDerivedContent_gives (h : p ctx.targetNamespace) (e : Element) {type : ComplexType}
    (htype : type.DeclaresIn p) :
    (readDerivedContent ctx e type).Gives (·.DeclaresIn p) := by
  have start : Additions.DeclaresIn p ⟨none, type.attributes, type.anyAttribute⟩ :=
    ⟨nofun, (ComplexType.declaresIn_iff.mp htype).2⟩
  rw [readDerivedContent]
  refine .after fun mixed => ?_
  split
  · exact .misread
  · next d _ =>
    refine .after fun base => .after fun arrayItem => .bind
      (.foldlM (p := Additions.DeclaresIn p) (fun known c hknown => ?_) start _) fun added hadded =>
      ?_
    · have := c.sizeOf_lt
      have := d.sizeOf_lt
      exact addAddition_gives h c.1 hknown
    · have finish {content : Content} (hcontent : content.DeclaresIn p) :
          ComplexType.DeclaresIn p { type with
            mixed := type.mixed || mixed
            content := content
            attributes := added.attributes
            anyAttribute := added.anyAttribute
            arrayItem := arrayItem.or type.arrayItem } :=
        ComplexType.declaresIn_iff.mpr ⟨hcontent, hadded.attributes⟩
      dsimp only
      split
      · exact .pure (finish (Content.declaresIn_extension hadded.group))
      · exact .pure (finish (Content.declaresIn_restriction hadded.group))
      · exact .pure (finish trivial)
      · exact .after fun facets => .pure (finish trivial)
termination_by (sizeOf e, 0)

theorem addContent_gives (h : p ctx.targetNamespace) (e : Element) {type : ComplexType}
    (htype : type.DeclaresIn p) : (addContent ctx e type).Gives (·.DeclaresIn p) := by
  obtain ⟨content, attributes⟩ := ComplexType.declaresIn_iff.mp htype
  rw [addContent]
  split
  · exact .bind (readModelGroup_gives h e) fun g hg =>
      .pure (ComplexType.declaresIn_iff.mpr ⟨hg, attributes⟩)
  · have start : Additions.DeclaresIn p ⟨none, type.attributes, type.anyAttribute⟩ :=
      ⟨nofun, attributes⟩
    have added := addAttribute_gives h e start
    have adding {known : Additions} (hknown : known.DeclaresIn p) :
        ComplexType.DeclaresIn p
          { type with attributes := known.attributes, anyAttribute := known.anyAttribute } :=
      ComplexType.declaresIn_iff.mpr ⟨content, hknown.attributes⟩
    split
    · exact .bind (readGroupUse_gives e) fun g hg =>
        .pure (ComplexType.declaresIn_iff.mpr ⟨hg, attributes⟩)
    · exact readDerivedContent_gives h e htype
    · exact readDerivedContent_gives h e htype
    · exact .bind added fun known hknown => .pure (adding hknown)
    · exact .bind added fun known hknown => .pure (adding hknown)
    · exact .bind added fun known hknown => .pure (adding hknown)
    · exact .after fun _ => .pure htype
termination_by (sizeOf e, 3)

theorem readComplexType_gives (h : p ctx.targetNamespace) (e : Element) (isGlobal : Bool) :
    (readComplexType ctx e isGlobal).Gives (·.DeclaresIn p) := by
  rw [readComplexType]
  refine .after fun name => .after fun isAbstract => .after fun mixed =>
    .foldlM (fun type c htype => ?_) ?_ _
  · have := c.sizeOf_lt
    exact addContent_gives h c.1 htype
  · rw [ComplexType.declaresIn_iff]
    exact ⟨trivial, trivial⟩
termination_by (sizeOf e, 0)

theorem addItem_gives (h : p ctx.targetNamespace) (e : Element) {items : List GroupItem}
    (hitems : ItemsDeclareIn p items) : (addItem ctx e items).Gives (ItemsDeclareIn p) := by
  have adding {item : GroupItem} (hitem : item.DeclaresIn p) : ItemsDeclareIn p (items ++ [item]) :=
    itemsDeclareIn_append.mpr ⟨hitems, hitem, trivial⟩
  rw [addItem]
  split
  · exact .bind (readModelGroup_gives h e) fun g hg => .pure (adding hg)
  · split
    · exact .bind (readElementItem_gives h e) fun item hitem => .pure (adding hitem)
    · exact .bind (readGroupRef_gives e) fun item hitem => .pure (adding hitem)
    · exact .after fun occurs => .pure (adding trivial)
    · exact .after fun _ => .pure hitems
termination_by (sizeOf e, 4)

theorem readModelGroup_gives (h : p ctx.targetNamespace) (e : Element) :
    (readModelGroup ctx e).Gives (·.DeclaresIn p) := by
  rw [readModelGroup]
  refine .bind (.foldlM (p := ItemsDeclareIn p) (a := []) (fun items c hitems => ?_) trivial _)
    fun items hitems => .after fun occurs => .pure hitems
  have := c.sizeOf_lt
  exact addItem_gives h c.1 hitems
termination_by (sizeOf e, 0)

theorem readElementItem_gives (h : p ctx.targetNamespace) (e : Element) :
    (readElementItem ctx e).Gives (·.DeclaresIn p) := by
  rw [readElementItem]
  refine .after fun occurs => .after fun name => ?_
  cases name with
  | some name => exact .pure trivial
  | none =>
    dsimp only
    split
    · exact .bind (readElementDecl_gives h e false) fun decl hd => .pure hd
    · exact .misread
termination_by (sizeOf e, 2)

theorem readElementDecl_gives (h : p ctx.targetNamespace) (e : Element) (isGlobal : Bool) :
    (readElementDecl ctx e isGlobal).Gives (·.DeclaresIn p) := by
  rw [readElementDecl]
  exact .after fun name => .bind (readNamespace_gives h e isGlobal _) fun ns hns =>
    .bind (readElementType_gives h e) fun type htype => .after fun _ => .after fun nillable =>
    .after fun isAbstract => .after fun head => .pure ⟨hns, htype⟩
termination_by (sizeOf e, 1)

theorem readElementType_gives (h : p ctx.targetNamespace) (e : Element) :
    (readElementType ctx e).Gives (UseDeclaresIn p) := by
  rw [readElementType]
  refine .after fun q => ?_
  cases q with
  | some q => exact .pure trivial
  | none =>
    dsimp only
    split
    · exact .pure trivial
    · next c _ =>
      have := c.sizeOf_lt
      split
      · exact .bind (readComplexType_gives h c.1 false) fun t ht => .pure ht
      · exact .bind (readSimpleType_gives c.1 false) fun t ht => .pure ht
termination_by (sizeOf e, 0)

end

/-! ## Schemas -/

theorem readGroupDecl_gives (h : p ctx.targetNamespace) (e : Element) :
    (readGroupDecl ctx e).Gives (·.group.DeclaresIn p) := by
  rw [readGroupDecl]
  refine .after fun name => ?_
  split
  · exact .misread
  · next c _ => exact .bind (readModelGroup_gives h c.1) fun g hg => .pure hg

theorem readAttributeGroupDecl_gives (h : p ctx.targetNamespace) (e : Element) :
    (readAttributeGroupDecl ctx e).Gives fun g => AttributesDeclareIn p g.attributes := by
  rw [readAttributeGroupDecl]
  have start : Additions.DeclaresIn p ⟨none, [], false⟩ := ⟨nofun, trivial⟩
  refine .after fun name => .bind (q := Additions.DeclaresIn p) ?_
    fun added hadded => .pure hadded.attributes
  refine .foldlM (p := Additions.DeclaresIn p) (fun known c hknown => ?_) start (declaring e)
  exact addAttribute_gives h c.1 hknown

theorem addDeclaration_declaresIn (h : p ctx.targetNamespace) {s : Declarations} {e : Element}
    (hs : s.DeclaresIn p) : (addDeclaration ctx s e).Gives (·.DeclaresIn p) := by
  have more {α : Type} {q : α → Prop} {as : List α} {a : α} (has : ∀ a ∈ as, q a) (ha : q a) :
      ∀ b ∈ as ++ [a], q b := by
    intro b hb
    rcases List.mem_append.mp hb with hb | hb
    · exact has b hb
    · exact List.mem_singleton.mp hb ▸ ha
  rw [addDeclaration]
  split
  · exact .after fun _ => .pure hs
  · split
    · exact .pure hs
    · exact .pure { hs with }
    · exact .after fun _ => .pure { hs with }
    · exact .after fun _ => .after fun _ => .pure { hs with }
    · exact .bind (readComplexType_gives h e true) fun t ht =>
        .pure { hs with types := more hs.types ht }
    · exact .bind (readSimpleType_gives e true) fun t ht =>
        .pure { hs with types := more hs.types ht }
    · exact .bind (readElementDecl_gives h e true) fun d hd =>
        .pure { hs with elements := more hs.elements hd }
    · exact .bind (readAttributeDecl_gives h e true) fun d hd =>
        .pure { hs with attributes := more hs.attributes hd }
    · exact .bind (readGroupDecl_gives h e) fun g hg =>
        .pure { hs with groups := more hs.groups hg }
    · exact .bind (readAttributeGroupDecl_gives h e) fun g hg =>
        .pure { hs with attributeGroups := more hs.attributeGroups hg }
    · exact .after fun _ => .pure hs

theorem readSchema_declaresIn {target : String} (h : p target) (isAdopted : Bool) (e : Element) :
    (readSchema target isAdopted e).Gives (·.DeclaresIn p) := by
  rw [readSchema]
  refine .after fun elementForm => .after fun attributeForm =>
    .foldlM (fun s e hs => addDeclaration_declaresIn h hs) ?_ _
  constructor
  all_goals exact fun _ h => absurd h List.not_mem_nil

/-- The schema declares names in its own namespace. -/
def Declarations.IsOwn (s : Declarations) : Prop :=
  ∀ p : String → Prop, p s.targetNamespace → s.DeclaresIn p

theorem Declarations.IsRead.isOwn {s : Declarations} (h : s.IsRead) : s.IsOwn := by
  obtain ⟨target, isAdopted, e, _, _, run⟩ := h
  intro p own
  rw [(readSchema_gives _ _ _ run).1] at own
  exact readSchema_declaresIn own isAdopted e _ _ _ run

end Schema

end SoapBindings
