import Mathlib
import SoapBindings.Proofs.Document.Importers
import SoapBindings.Proofs.Schema.Adoption
import SoapBindings.Proofs.Text.Utf8

/-!
# Reading for an including schema

A schema that gives no namespace may be read by itself or for a schema that includes it. Every name
in it passes through one resolver, `Context.qname`, which the two readings run in contexts that
differ in the adopted namespace alone (`Context.Adopts`). So each reader of the second gives what
the reader of the first gives, put into that namespace (`Renames`): one lemma per reader, in the
recursion of the readers themselves, up to `readSchema_renames` and `Document.read_adopted`.

A document that is no such schema is the same whoever reads it (`Document.read_including`).
-/

set_option autoImplicit false

namespace SoapBindings

open Schema Xml

/-! ## Readers that differ by a renaming -/

section

variable {m : Type → Type} [Monad m] [LawfulMonad m] {α α' β β' : Type}

/-- The second reader gives what the first gives, renamed, and differs in nothing else. -/
def Renames (f : α → α') (x : m α) (x' : m α') : Prop := x' = f <$> x

namespace Renames

variable {f : α → α'} {g : β → β'} {x : m α} {x' : m α'}

theorem pure {a : α} {a' : α'} (h : a' = f a) : Renames f (Pure.pure a : m α) (Pure.pure a') := by
  rw [Renames, map_pure, h]

theorem bind {k : α → m β} {k' : α' → m β'} (first : Renames f x x')
    (next : ∀ a, Renames g (k a) (k' (f a))) : Renames g (x >>= k) (x' >>= k') := by
  rw [Renames, first, bind_map_left, map_bind]
  exact bind_congr next

/-- What comes first is the same. -/
theorem after {k : α → m β} {k' : α → m β'} (next : ∀ a, Renames g (k a) (k' a)) :
    Renames g (x >>= k) (x >>= k') := by
  rw [Renames, map_bind]
  exact bind_congr next

theorem map {h : α → β} {h' : α' → β'} (first : Renames f x x') (step : ∀ a, h' (f a) = g (h a)) :
    Renames g (h <$> x) (h' <$> x') := by
  rw [Renames, first, Functor.map_map, Functor.map_map]
  exact congrArg (· <$> x) (funext step)

theorem foldlM {k : α → β → m α} {k' : α' → β → m α'}
    (step : ∀ a b, Renames f (k a b) (k' (f a) b)) (a : α) (bs : List β) :
    Renames f (bs.foldlM k a) (bs.foldlM k' (f a)) := by
  induction bs generalizing a with
  | nil => exact .pure rfl
  | cons b bs ih =>
    rw [List.foldlM_cons, List.foldlM_cons]
    exact .bind (step a b) ih

theorem mapM {k : β → m α} {k' : β → m α'} (step : ∀ b, Renames f (k b) (k' b)) (bs : List β) :
    Renames (List.map f) (bs.mapM k) (bs.mapM k') := by
  induction bs with
  | nil => exact .pure rfl
  | cons b bs ih =>
    rw [List.mapM_cons, List.mapM_cons]
    exact .bind (step b) fun a => .bind ih fun as => .pure rfl

end Renames

end

theorem Renames.lift {α α' : Type} {f : α → α'} {x : Except Misreading α}
    {x' : Except Misreading α'} (h : Renames f x x') :
    Renames f (liftM x : Reading α) (liftM x' : Reading α') := by
  rw [Renames] at h
  subst h
  cases x with
  | error fault => rfl
  | ok a => rfl

theorem Renames.misread {α α' : Type} {f : α → α'} {e : Element} {fault : SyntaxFault} :
    Renames f (misread e fault : Except Misreading α) (SoapBindings.misread e fault) := rfl

/-- The contexts of one schema: it gives no namespace, and the second adopts one. -/
structure Context.Adopts (ns : String) (ctx ctx' : Context) : Prop where
  lacks : ctx.targetNamespace = ""
  keeps : ctx.isAdopted = false
  takes : ctx'.targetNamespace = ns
  adopts : ctx'.isAdopted = true
  elementForm : ctx'.elementForm = ctx.elementForm
  attributeForm : ctx'.attributeForm = ctx.attributeForm

/-! ## Names -/

namespace Context.Adopts

variable {ns : String} {ctx ctx' : Context}

theorem qname (h : Adopts ns ctx ctx') (e : Element) (value : String) :
    Renames (QName.adopt ns) (ctx.qname e value) (ctx'.qname e value) := by
  rw [Context.qname, Context.qname]
  cases e.resolve value with
  | error bound => exact .misread
  | ok name =>
    refine .pure ?_
    simp only [h.keeps, h.adopts, h.takes, Bool.true_and, Bool.false_and, Bool.false_eq_true,
      if_false, QName.adopt, adopted]
    cases name.ns.isEmpty with
    | true => rfl
    | false => rfl

theorem qname? (h : Adopts ns ctx ctx') (e : Element) (name : String) :
    Renames (Option.map (QName.adopt ns)) (ctx.qname? e name) (ctx'.qname? e name) := by
  rw [Context.qname?, Context.qname?]
  cases e.attribute? name with
  | none => exact .pure rfl
  | some value => exact (h.qname e value).map fun _ => rfl

theorem requiredQName (h : Adopts ns ctx ctx') (e : Element) (name : String) :
    Renames (QName.adopt ns) (ctx.requiredQName e name) (ctx'.requiredQName e name) := by
  rw [Context.requiredQName, Context.requiredQName]
  refine .bind (h.qname? e name) fun q => ?_
  cases q with
  | none => exact .misread
  | some q => exact .pure rfl

end Context.Adopts

/-! ## Leaves -/

namespace Schema

section

variable {ns : String} {ctx ctx' : Context}

theorem readNamespace_renames (h : Context.Adopts ns ctx ctx') (e : Element) (isGlobal : Bool)
    (absent : Form) :
    Renames (Option.map (adopted ns)) (readNamespace ctx e isGlobal absent)
      (readNamespace ctx' e isGlobal absent) := by
  rw [readNamespace, readNamespace, h.lacks, h.takes]
  cases isGlobal with
  | true => exact .pure rfl
  | false =>
    refine .after fun form => ?_
    cases form with
    | qualified => exact .pure rfl
    | unqualified => exact .pure rfl

theorem readGroupRef_renames (h : Context.Adopts ns ctx ctx') (e : Element) :
    Renames (GroupItem.adopt ns) (readGroupRef ctx e) (readGroupRef ctx' e) := by
  rw [readGroupRef, readGroupRef]
  exact .bind (h.requiredQName e "ref") fun name => .after fun occurs => .pure rfl

theorem readGroupUse_renames (h : Context.Adopts ns ctx ctx') (e : Element) :
    Renames (ModelGroup.adopt ns) (readGroupUse ctx e) (readGroupUse ctx' e) := by
  rw [readGroupUse, readGroupUse]
  exact .bind (readGroupRef_renames h e) fun item => .pure rfl

theorem readArrayItem_renames (h : Context.Adopts ns ctx ctx') (e : Element) :
    Renames (Option.map (QName.adopt ns)) (readArrayItem ctx e) (readArrayItem ctx' e) := by
  unfold readArrayItem
  dsimp only
  split
  · exact .pure rfl
  · exact (h.qname _ _).map fun _ => rfl

/-! ## Simple types -/

mutual

theorem readInlineSimple_renames (h : Context.Adopts ns ctx ctx') (e : Element) :
    Renames (Option.map (TypeUse.adopt ns)) (readInlineSimple ctx e) (readInlineSimple ctx' e) := by
  rw [readInlineSimple, readInlineSimple]
  split
  · exact .pure rfl
  · next c _ =>
    have := c.sizeOf_lt
    exact .bind (readSimpleType_renames h c.1 false) fun t => .pure rfl
termination_by (sizeOf e, 0)

theorem readTypeUse_renames (h : Context.Adopts ns ctx ctx') (e : Element) (name : String) :
    Renames (TypeUse.adopt ns) (readTypeUse ctx e name) (readTypeUse ctx' e name) := by
  rw [readTypeUse, readTypeUse]
  refine .bind (.lift (h.qname? e name)) fun q => ?_
  cases q with
  | some q => exact .pure rfl
  | none =>
    refine .bind (readInlineSimple_renames h e) fun use => ?_
    cases use with
    | some use => exact .pure rfl
    | none => exact .lift .misread
termination_by (sizeOf e, 1)

theorem readDerivation_renames (h : Context.Adopts ns ctx ctx') (e : Element) :
    Renames (Derivation.adopt ns) (readDerivation ctx e) (readDerivation ctx' e) := by
  rw [readDerivation, readDerivation]
  split
  · exact .bind (readTypeUse_renames h e "base") fun base => .after fun facets => .pure rfl
  · exact .bind (readTypeUse_renames h e "itemType") fun item => .pure rfl
  · refine .bind (.mapM (f := TypeUse.adopt ns) (fun name => ?_) _) fun named =>
      .bind (.mapM (f := TypeUse.adopt ns) (fun c => ?_) _) fun declared => .pure ?_
    · exact .bind (.lift (h.qname e _)) fun q => .pure rfl
    · have := c.sizeOf_lt
      exact .bind (readSimpleType_renames h c.1 false) fun t => .pure rfl
    · rw [Derivation.adopt, adoptUses_eq, List.map_append]
termination_by (sizeOf e, 2)

theorem readSimpleType_renames (h : Context.Adopts ns ctx ctx') (e : Element) (isGlobal : Bool) :
    Renames (SimpleType.adopt ns) (readSimpleType ctx e isGlobal)
      (readSimpleType ctx' e isGlobal) := by
  rw [readSimpleType, readSimpleType]
  refine .after fun name => ?_
  split
  · exact .lift .misread
  · next c _ =>
    have := c.sizeOf_lt
    exact .bind (readDerivation_renames h c.1) fun derivation => .pure rfl
termination_by (sizeOf e, 3)

end

/-! ## Attributes -/

/-- What a derivation adds, in a namespace. -/
def Additions.adopt (ns : String) (a : Additions) : Additions :=
  ⟨a.group.map (·.adopt ns), a.attributes.map (·.adopt ns), a.anyAttribute⟩

/-- A derivation starts with what its type has already. -/
theorem additions_adopt (type : ComplexType) :
    Additions.mk none (type.adopt ns).attributes (type.adopt ns).anyAttribute =
      Additions.adopt ns ⟨none, type.attributes, type.anyAttribute⟩ := by
  simp only [ComplexType.adopt_eq, Additions.adopt, Option.map_none]

theorem readAttributeDecl_renames (h : Context.Adopts ns ctx ctx') (e : Element)
    (isGlobal : Bool) :
    Renames (AttributeDecl.adopt ns) (readAttributeDecl ctx e isGlobal)
      (readAttributeDecl ctx' e isGlobal) := by
  rw [readAttributeDecl, readAttributeDecl, h.attributeForm]
  have complete (name : String) (own : Option String) (type : Option TypeUse) (usage : Usage) :
      (⟨name, own.map (adopted ns), type.map (·.adopt ns), usage, e.attribute? "default",
          e.attribute? "fixed"⟩ : AttributeDecl) =
        AttributeDecl.adopt ns
          ⟨name, own, type, usage, e.attribute? "default", e.attribute? "fixed"⟩ := by
    rw [AttributeDecl.adopt, adoptUse_eq]
  refine .after fun name => .bind (.lift (readNamespace_renames h e isGlobal _)) fun own =>
    .bind (.lift (h.qname? e "type")) fun q => ?_
  cases q with
  | some q =>
    exact .bind (.pure rfl) fun type => .after fun usage => .pure (complete _ own type usage)
  | none =>
    exact .bind (readInlineSimple_renames h e) fun type => .after fun usage =>
      .pure (complete _ own type usage)

theorem addAttribute_renames (h : Context.Adopts ns ctx ctx') (e : Element) (known : Additions) :
    Renames (Additions.adopt ns) (addAttribute ctx e known)
      (addAttribute ctx' e (known.adopt ns)) := by
  have adding (item : AttributeItem) :
      { known.adopt ns with attributes := (known.adopt ns).attributes ++ [item.adopt ns] } =
        Additions.adopt ns { known with attributes := known.attributes ++ [item] } := by
    simp only [Additions.adopt, List.map_append, List.map_cons, List.map_nil]
  rw [addAttribute, addAttribute]
  split
  · refine .bind (.lift (h.qname? e "ref")) fun name => ?_
    cases name with
    | some name => exact .after fun usage => .pure (adding (.ref name usage))
    | none =>
      exact .bind (readAttributeDecl_renames h e false) fun decl => .pure (adding (.own decl))
  · exact .bind (.lift (h.requiredQName e "ref")) fun name => .pure (adding (.groupRef name))
  · exact .pure rfl
  · exact .after fun _ => .pure rfl

/-! ## Complex types, groups and elements -/

mutual

theorem addAddition_renames (h : Context.Adopts ns ctx ctx') (e : Element) (known : Additions) :
    Renames (Additions.adopt ns) (addAddition ctx e known)
      (addAddition ctx' e (known.adopt ns)) := by
  rw [addAddition, addAddition]
  split
  · exact .bind (readModelGroup_renames h e) fun g => .pure rfl
  · split
    · exact .bind (.lift (readGroupUse_renames h e)) fun g => .pure rfl
    · exact addAttribute_renames h e known
termination_by (sizeOf e, 3)

theorem readDerivedContent_renames (h : Context.Adopts ns ctx ctx') (e : Element)
    (type : ComplexType) :
    Renames (ComplexType.adopt ns) (readDerivedContent ctx e type)
      (readDerivedContent ctx' e (type.adopt ns)) := by
  have complete (mixed : Bool) (arrayItem : Option QName) (added : Additions) (content : Content) :
      ({ type.adopt ns with
          mixed := (type.adopt ns).mixed || mixed
          content := content.adopt ns
          attributes := (added.adopt ns).attributes
          anyAttribute := (added.adopt ns).anyAttribute
          arrayItem := (arrayItem.map (QName.adopt ns)).or (type.adopt ns).arrayItem } :
        ComplexType) =
      ComplexType.adopt ns { type with
        mixed := type.mixed || mixed
        content := content
        attributes := added.attributes
        anyAttribute := added.anyAttribute
        arrayItem := arrayItem.or type.arrayItem } := by
    simp only [ComplexType.adopt_eq, Additions.adopt, Option.map_or]
  rw [readDerivedContent, readDerivedContent, additions_adopt]
  refine .after fun mixed => ?_
  split
  · exact .lift .misread
  · next d _ =>
    refine .bind (.lift (h.requiredQName d.1 "base")) fun base =>
      .bind (.lift (readArrayItem_renames h d.1)) fun arrayItem =>
      .bind (.foldlM (fun known c => ?_) _ _) fun added => ?_
    · have := c.sizeOf_lt
      have := d.sizeOf_lt
      exact addAddition_renames h c.1 known
    · have group : (added.adopt ns).group = adoptGroup ns added.group :=
        (adoptGroup_eq added.group).symm
      have finish := complete mixed arrayItem added
      rw [group]
      dsimp only
      split
      · refine .bind (f := Content.adopt ns) (.pure ?_) fun content => .pure (finish content)
        rw [Content.adopt]
      · refine .bind (f := Content.adopt ns) (.pure ?_) fun content => .pure (finish content)
        rw [Content.adopt]
      · refine .bind (f := Content.adopt ns) (.pure ?_) fun content => .pure (finish content)
        rw [Content.adopt]
      · refine .after fun facets =>
          .bind (f := Content.adopt ns) (.pure ?_) fun content => .pure (finish content)
        rw [Content.adopt]
termination_by (sizeOf e, 0)

theorem addContent_renames (h : Context.Adopts ns ctx ctx') (e : Element) (type : ComplexType) :
    Renames (ComplexType.adopt ns) (addContent ctx e type) (addContent ctx' e (type.adopt ns)) := by
  have group (g : ModelGroup) : { type.adopt ns with content := .group (g.adopt ns) } =
      ComplexType.adopt ns { type with content := .group g } := by
    simp only [ComplexType.adopt_eq, Content.adopt]
  have attributes (known : Additions) :
      { type.adopt ns with
        attributes := (known.adopt ns).attributes, anyAttribute := (known.adopt ns).anyAttribute } =
      ComplexType.adopt ns
        { type with attributes := known.attributes, anyAttribute := known.anyAttribute } := by
    simp only [ComplexType.adopt_eq, Additions.adopt]
  rw [addContent, addContent, additions_adopt]
  split
  · exact .bind (readModelGroup_renames h e) fun g => .pure (group g)
  · split
    · exact .bind (.lift (readGroupUse_renames h e)) fun g => .pure (group g)
    · exact readDerivedContent_renames h e type
    · exact readDerivedContent_renames h e type
    · exact .bind (addAttribute_renames h e _) fun known => .pure (attributes known)
    · exact .bind (addAttribute_renames h e _) fun known => .pure (attributes known)
    · exact .bind (addAttribute_renames h e _) fun known => .pure (attributes known)
    · exact .after fun _ => .pure rfl
termination_by (sizeOf e, 3)

theorem readComplexType_renames (h : Context.Adopts ns ctx ctx') (e : Element) (isGlobal : Bool) :
    Renames (ComplexType.adopt ns) (readComplexType ctx e isGlobal)
      (readComplexType ctx' e isGlobal) := by
  rw [readComplexType, readComplexType]
  refine .after fun name => .after fun isAbstract => .after fun mixed => ?_
  exact .foldlM (fun type c =>
    have := c.sizeOf_lt
    addContent_renames h c.1 type) _ _
termination_by (sizeOf e, 0)

theorem addItem_renames (h : Context.Adopts ns ctx ctx') (e : Element) (items : List GroupItem) :
    Renames (List.map (GroupItem.adopt ns)) (addItem ctx e items)
      (addItem ctx' e (items.map (GroupItem.adopt ns))) := by
  have adding (item : GroupItem) :
      items.map (GroupItem.adopt ns) ++ [item.adopt ns] =
        (items ++ [item]).map (GroupItem.adopt ns) := by
    rw [List.map_append, List.map_cons, List.map_nil]
  rw [addItem, addItem]
  split
  · exact .bind (readModelGroup_renames h e) fun g => .pure (adding (.group g))
  · split
    · exact .bind (readElementItem_renames h e) fun item => .pure (adding item)
    · exact .bind (.lift (readGroupRef_renames h e)) fun item => .pure (adding item)
    · exact .after fun occurs => .pure (adding (.any occurs))
    · exact .after fun _ => .pure rfl
termination_by (sizeOf e, 4)

theorem readModelGroup_renames (h : Context.Adopts ns ctx ctx') (e : Element) :
    Renames (ModelGroup.adopt ns) (readModelGroup ctx e) (readModelGroup ctx' e) := by
  rw [readModelGroup, readModelGroup]
  refine .bind (.foldlM (f := List.map (GroupItem.adopt ns)) (fun items c => ?_) [] _)
    fun items => .after fun occurs => .pure ?_
  · have := c.sizeOf_lt
    exact addItem_renames h c.1 items
  · rw [ModelGroup.adopt, adoptItems_eq]
termination_by (sizeOf e, 0)

theorem readElementItem_renames (h : Context.Adopts ns ctx ctx') (e : Element) :
    Renames (GroupItem.adopt ns) (readElementItem ctx e) (readElementItem ctx' e) := by
  rw [readElementItem, readElementItem]
  refine .after fun occurs => .bind (.lift (h.qname? e "ref")) fun name => ?_
  cases name with
  | some name => exact .pure rfl
  | none =>
    simp only [Option.map_none]
    split
    · exact .bind (readElementDecl_renames h e false) fun decl => .pure rfl
    · exact .lift .misread
termination_by (sizeOf e, 2)

theorem readElementDecl_renames (h : Context.Adopts ns ctx ctx') (e : Element) (isGlobal : Bool) :
    Renames (ElementDecl.adopt ns) (readElementDecl ctx e isGlobal)
      (readElementDecl ctx' e isGlobal) := by
  rw [readElementDecl, readElementDecl, h.elementForm]
  refine .after fun name => .bind (.lift (readNamespace_renames h e isGlobal _)) fun own =>
    .bind (readElementType_renames h e) fun type => .after fun _ => .after fun nillable =>
    .after fun isAbstract => .bind (.lift (h.qname? e "substitutionGroup")) fun head => .pure ?_
  rw [ElementDecl.adopt, adoptUse_eq]
termination_by (sizeOf e, 1)

theorem readElementType_renames (h : Context.Adopts ns ctx ctx') (e : Element) :
    Renames (Option.map (TypeUse.adopt ns)) (readElementType ctx e) (readElementType ctx' e) := by
  rw [readElementType, readElementType]
  refine .bind (.lift (h.qname? e "type")) fun q => ?_
  cases q with
  | some q => exact .pure rfl
  | none =>
    simp only [Option.map_none]
    split
    · exact .pure rfl
    · next c _ =>
      have := c.sizeOf_lt
      split
      · exact .bind (readComplexType_renames h c.1 false) fun t => .pure rfl
      · exact .bind (readSimpleType_renames h c.1 false) fun t => .pure rfl
termination_by (sizeOf e, 0)

end

/-! ## Schemas -/

theorem readGroupDecl_renames (h : Context.Adopts ns ctx ctx') (e : Element) :
    Renames (GroupDecl.adopt ns) (readGroupDecl ctx e) (readGroupDecl ctx' e) := by
  rw [readGroupDecl, readGroupDecl]
  refine .after fun name => ?_
  split
  · exact .lift .misread
  · next c _ => exact .bind (readModelGroup_renames h c.1) fun g => .pure rfl

theorem readAttributeGroupDecl_renames (h : Context.Adopts ns ctx ctx') (e : Element) :
    Renames (AttributeGroupDecl.adopt ns) (readAttributeGroupDecl ctx e)
      (readAttributeGroupDecl ctx' e) := by
  rw [readAttributeGroupDecl, readAttributeGroupDecl]
  refine .after fun name => .bind
    (.foldlM (f := Additions.adopt ns) (fun known c => ?_) ⟨none, [], false⟩ _)
    fun added => .pure ?_
  · exact addAttribute_renames h c.1 known
  · rw [AttributeGroupDecl.adopt, adoptAttributes_eq]
    rfl

theorem readImport_adopt (target : String) (e : Element) :
    readImport (adopted ns target) e = (readImport target e).adopt ns := rfl

theorem readInclusion_renames (target : String) {kind : ImportKind}
    (includes : kind = .included ∨ kind = .redefined) (e : Element) :
    Renames (Import.adopt ns) (readInclusion target kind e)
      (readInclusion (adopted ns target) kind e) := by
  rw [readInclusion, readInclusion]
  refine .after fun location => .pure ?_
  rcases includes with rfl | rfl
  · rfl
  · rfl

theorem addDeclaration_renames (h : Context.Adopts ns ctx ctx') (schema : Declarations)
    (e : Element) :
    Renames (Declarations.adopt ns) (addDeclaration ctx schema e)
      (addDeclaration ctx' (schema.adopt ns) e) := by
  have target : (schema.adopt ns).targetNamespace = adopted ns schema.targetNamespace := rfl
  rw [addDeclaration, addDeclaration, target]
  split
  · exact .after fun _ => .pure rfl
  · split
    · exact .pure rfl
    · rw [readImport_adopt]
      refine .pure ?_
      simp only [Declarations.adopt, List.map_append, List.map_cons, List.map_nil]
    · refine .bind (.lift (readInclusion_renames _ (.inl rfl) e)) fun i => .pure ?_
      simp only [Declarations.adopt, List.map_append, List.map_cons, List.map_nil]
    · refine .after fun _ =>
        .bind (.lift (readInclusion_renames _ (.inr rfl) e)) fun i => .pure ?_
      simp only [Declarations.adopt, List.map_append, List.map_cons, List.map_nil]
    · refine .bind (readComplexType_renames h e true) fun type => .pure ?_
      simp only [Declarations.adopt, List.map_append, List.map_cons, List.map_nil, TypeDecl.adopt]
    · refine .bind (readSimpleType_renames h e true) fun type => .pure ?_
      simp only [Declarations.adopt, List.map_append, List.map_cons, List.map_nil, TypeDecl.adopt]
    · refine .bind (readElementDecl_renames h e true) fun decl => .pure ?_
      simp only [Declarations.adopt, List.map_append, List.map_cons, List.map_nil]
    · refine .bind (readAttributeDecl_renames h e true) fun decl => .pure ?_
      simp only [Declarations.adopt, List.map_append, List.map_cons, List.map_nil]
    · refine .bind (readGroupDecl_renames h e) fun decl => .pure ?_
      simp only [Declarations.adopt, List.map_append, List.map_cons, List.map_nil]
    · refine .bind (readAttributeGroupDecl_renames h e) fun decl => .pure ?_
      simp only [Declarations.adopt, List.map_append, List.map_cons, List.map_nil]
    · exact .after fun _ => .pure rfl

theorem readSchema_renames (ns : String) (e : Element) :
    Renames (Declarations.adopt ns) (readSchema "" false e) (readSchema ns true e) := by
  rw [readSchema, readSchema]
  refine .after fun elementForm => .after fun attributeForm => ?_
  have h : Context.Adopts ns ⟨"", false, elementForm, attributeForm⟩
      ⟨ns, true, elementForm, attributeForm⟩ := ⟨rfl, rfl, rfl, rfl, rfl, rfl⟩
  exact .foldlM (addDeclaration_renames h)
    ⟨"", elementForm, attributeForm, [], [], [], [], [], []⟩ e.children

end

end Schema

/-! ## Documents -/

namespace Document

variable {l : Locator} {content : ByteArray} {root : Element}

theorem ofRoot_renames (schema : root.is Namespaces.schema "schema")
    (undeclared : trimmed? root "targetNamespace" = none) (ns : String) :
    Renames (Document.adopt ns) (ofRoot l none root) (ofRoot l (some ns) root) := by
  rw [ofRoot, ofRoot, undeclared, if_pos schema, if_pos schema]
  refine .bind (f := Prod.map (Declarations.adopt ns) id) ?_ fun read => .pure rfl
  rw [Renames]
  have same := readSchema_renames ns root
  rw [Renames] at same
  exact congrArg (·.run []) same

/-- Nothing else takes notice of the schema that includes it. -/
theorem read_including (declares : ¬ LacksNamespace content) (l : Locator)
    (including : Option String) : read l including content = read l none content := by
  refine read_congr fun text root decoded parsed => ?_
  rw [ofRoot, ofRoot]
  split
  · next schema =>
    cases declared : trimmed? root "targetNamespace" with
    | none => exact absurd ⟨text, root, decoded, parsed, schema, declared⟩ declares
    | some target => rfl
  · rfl

theorem read_renames (lacks : LacksNamespace content) (l : Locator) (ns : String) :
    Renames (Document.adopt ns) (read l none content) (read l (some ns) content) := by
  obtain ⟨text, root, decoded, parsed, schema, undeclared⟩ := lacks
  have adopting := ofRoot_renames (l := l) schema undeclared ns
  rw [Renames] at adopting
  rw [Renames, read_of_root decoded parsed, read_of_root decoded parsed, adopting]
  cases ofRoot l none root with
  | error fault => rfl
  | ok d => rfl

/-- Whoever a document is read for, it is what it is by itself, or that in another namespace. -/
theorem read_eq_or_adopted (l : Locator) (including : Option String) (content : ByteArray) :
    read l including content = read l none content ∨
      ∃ ns, read l including content = (read l none content).map (·.adopt ns) := by
  by_cases lacks : LacksNamespace content
  · cases including with
    | none => exact Or.inl rfl
    | some ns => exact Or.inr ⟨ns, read_renames lacks l ns⟩
  · exact Or.inl (read_including lacks l including)

/-- A schema that gives no namespace, read for one that includes it, is what it is by itself, put
into the namespace of the other, and is refused exactly if it is refused by itself, for the same
fault. -/
theorem read_adopted (lacks : LacksNamespace content) (l : Locator) (ns : String) :
    read l (some ns) content = (read l none content).map (·.adopt ns) :=
  read_renames lacks l ns

/-! ## A schema without prefixes in its names -/

/-- An element whose type is in no namespace unless one is adopted. -/
def unprefixed : String :=
  "<xs:schema xmlns:xs=\"http://www.w3.org/2001/XMLSchema\"><xs:element name=\"e\" type=\"T\"/>" ++
    "</xs:schema>"

def unprefixedElement : Element :=
  ⟨some Namespaces.schema, "element", [⟨none, "name", "e"⟩, ⟨none, "type", "T"⟩], [], "", 55,
    [(some "xs", Namespaces.schema)]⟩

def unprefixedRoot : Element :=
  ⟨some Namespaces.schema, "schema", [], [unprefixedElement], "", 0,
    [(some "xs", Namespaces.schema)]⟩

/-- The schema where nothing includes it. -/
def unprefixedSchema : Declarations where
  targetNamespace := ""
  elementForm := .unqualified
  attributeForm := .unqualified
  imports := []
  types := []
  elements := [⟨"e", some "", some (.named ⟨"", "T"⟩), false, false, none, none, none, none⟩]
  attributes := []
  groups := []
  attributeGroups := []

theorem parse_unprefixed : Element.ofText unprefixed = .ok unprefixedRoot := by cbv

theorem readSchema_unprefixed : readSchema "" false unprefixedRoot = pure unprefixedSchema := by
  have type (ctx : Context) : readElementType ctx unprefixedElement =
      (liftM (ctx.qname unprefixedElement "T") : Reading QName) >>= fun q =>
        pure (some (.named q)) := by
    rw [readElementType]
    rfl
  have decl : readElementDecl ⟨"", false, .unqualified, .unqualified⟩ unprefixedElement true =
      pure ⟨"e", some "", some (.named ⟨"", "T"⟩), false, false, none, none, none, none⟩ := by
    rw [readElementDecl, type]
    rfl
  have unfolded : readSchema "" false unprefixedRoot =
      ((readElementDecl ⟨"", false, .unqualified, .unqualified⟩ unprefixedElement true >>=
        fun decl => pure { unprefixedSchema with elements := [decl] }) >>= pure) := rfl
  rw [unfolded, decl]
  rfl

theorem read_unprefixed : read default none unprefixed.toUTF8 =
    .ok ⟨default, .schema, "", [], [unprefixedSchema], [], [], [], [], []⟩ := by
  refine read_eq_ok_iff.mpr ⟨_, _, Text.Utf8.decode?_toUTF8 _, parse_unprefixed, ?_⟩
  have unfolded : ofRoot default none unprefixedRoot =
      (readSchema "" false unprefixedRoot).run [] >>= fun r =>
        pure ⟨default, .schema, "", [], [r.1], [], [], [], [], r.2.reverse⟩ := rfl
  rw [unfolded, readSchema_unprefixed]
  rfl

/-- Included from `urn:n`, the element and its type are in `urn:n`. -/
theorem read_adopted_unprefixed : LacksNamespace unprefixed.toUTF8 ∧
    read default (some "urn:n") unprefixed.toUTF8 =
      (read default none unprefixed.toUTF8).map (·.adopt "urn:n") ∧
    ∃ d, read default (some "urn:n") unprefixed.toUTF8 = .ok d ∧ d.schemas.map (·.elements) =
      [[⟨"e", some "urn:n", some (.named ⟨"urn:n", "T"⟩), false, false, none, none, none, none⟩]] := by
  have lacks : LacksNamespace unprefixed.toUTF8 :=
    ⟨unprefixed, unprefixedRoot, Text.Utf8.decode?_toUTF8 _, parse_unprefixed, rfl, rfl⟩
  have same := read_adopted lacks default "urn:n"
  have adopted := same
  rw [read_unprefixed, Except.map] at adopted
  exact ⟨lacks, same, _, adopted, rfl⟩

end Document

end SoapBindings
