import Mathlib
import SoapBindings.Proofs.Document.Adoption
import SoapBindings.Proofs.Document.Variants

/-!
# Reading variants of a schema

A schema and its variant are read alike, be it that white space changes around attribute values or
that elements of other languages come and go. There is one lemma for each reader, in the recursion
of the readers themselves, up to `readSchema_agrees`.

Readers look at the children that declare something, and those correspond one to one whatever stands
between them (`declaring_varies`). Only the reader of the schema element itself sees its other
children, and it does no more than note them (`addDeclaration_added`). So elements of other
languages never change what a schema declares or why it is refused (`readSchema_extended`).
-/

set_option autoImplicit false

namespace SoapBindings.Schema

open Text Xml

variable {v : Variation} {e e' : Element}

/-! ## Children that declare something -/

/-- A declaring child and its variant. -/
structure Child.Varies (v : Variation) (c : Child e) (c' : Child e') : Prop where
  element : c.1.Varies v c'.1
  ns : c.1.ns = some Namespaces.schema

theorem map_declaring (e : Element) : (declaring e).map (·.1) =
    e.children.filter fun c => c.ns == some Namespaces.schema && c.name != "annotation" := by
  have shown := List.filter_map (p := fun c : Element => c.ns == some Namespaces.schema &&
    c.name != "annotation") (f := Subtype.val) (l := e.children.attach)
  rw [List.attach_map_subtype_val] at shown
  exact shown.symm

theorem declaring_varies (h : e.Varies v e') :
    List.Forall₂ (Child.Varies v) (declaring e) (declaring e') := by
  have kept := h.children.filter
    (p := fun c => c.ns == some Namespaces.schema && c.name != "annotation")
    (fun c c' hc => by rw [hc.start.ns, hc.start.name])
    (fun c added => by
      rw [Bool.and_eq_false_iff]
      exact .inl (beq_eq_false_iff_ne.mpr fun own => Variation.not_adds (.inl own) added))
  rw [← map_declaring, ← map_declaring, List.forall₂_map_left_iff,
    List.forall₂_map_right_iff] at kept
  refine kept.imp fun c c' hc => ⟨hc.1, ?_⟩
  have own := hc.2
  rw [Bool.and_eq_true, beq_iff_eq] at own
  exact own.1

theorem firstOf?_varies (h : e.Varies v e') (names : List String) :
    Option.Rel (fun c c' => Child.Varies v c c' ∧ c.1.name ∈ names)
      (firstOf? e names) (firstOf? e' names) := by
  have found := rel_find? (p := fun c : Child e => names.contains c.1.name)
    (q := fun c : Child e' => names.contains c.1.name)
    (fun c c' hc => by rw [hc.element.start.name]) (declaring_varies h)
  rw [firstOf?, firstOf?]
  generalize List.find? _ (declaring e) = c, List.find? _ (declaring e') = c' at found
  cases found with
  | none => exact .none
  | some hc => exact .some ⟨hc.1, List.contains_iff_mem.mp hc.2⟩

theorem Child.Varies.keepsName {c : Child e} {c' : Child e'} (h : c.Varies v c')
    (named : c.1.name ∈ Variation.keptDeclarations) :
    Variation.KeepsName c.1 := .inl ⟨h.ns, named⟩

/-! ## Leaves -/

theorem readFacets_same (h : e.Varies v e') : v.Outcomes Eq (readFacets e) (readFacets e') := by
  have seq := Variation.Outcomes.sequential v
  have value : "value" ∉ Variation.spacedNames := by simp [Variation.spacedNames]
  rw [readFacets, readFacets]
  refine seq.foldlM (fun facets c c' hc => ?_) (declaring_varies h) _
  have given := hc.element.required_same (Variation.not_respaces value)
  rw [addFacet, addFacet, hc.element.start.name]
  split
  · exact seq.bind given fun _ => seq.pure _
  · split
    · exact seq.bind given fun _ => seq.pure _
    · exact seq.pure _

theorem readTypeName_same (h : e.Varies v e') (kept : Variation.KeepsName e) (isGlobal : Bool) :
    v.Outcomes Eq (readTypeName e isGlobal) (readTypeName e' isGlobal) := by
  rw [readTypeName, readTypeName, h.attribute?_eq (Variation.not_respaces_name kept)]
  split
  · exact (h.requiredName_same kept).map
  · exact .ok rfl

theorem readGroupRef_same (ctx : Context) (h : e.Varies v e') :
    v.Outcomes Eq (readGroupRef ctx e) (readGroupRef ctx e') := by
  have seq := Variation.Outcomes.sequential v
  rw [readGroupRef, readGroupRef]
  exact seq.bind (h.requiredQName_same ctx "ref") fun name =>
    seq.bind h.readOccurs_same fun occurs => seq.pure _

theorem readGroupUse_same (ctx : Context) (h : e.Varies v e') :
    v.Outcomes Eq (readGroupUse ctx e) (readGroupUse ctx e') := by
  have seq := Variation.Outcomes.sequential v
  rw [readGroupUse, readGroupUse]
  exact seq.bind (readGroupRef_same ctx h) fun item => seq.pure _

theorem readNamespace_same (ctx : Context) (h : e.Varies v e') (isGlobal : Bool) (absent : Form) :
    v.Outcomes Eq (readNamespace ctx e isGlobal absent) (readNamespace ctx e' isGlobal absent) := by
  have seq := Variation.Outcomes.sequential v
  rw [readNamespace, readNamespace]
  split
  · exact seq.pure _
  · refine seq.bind (h.readWord_same "form" absent _) fun form => ?_
    cases form with
    | qualified => exact seq.pure _
    | unqualified => exact seq.pure _

theorem readArrayItem_same (ctx : Context) (h : e.Varies v e') :
    v.Outcomes Eq (readArrayItem ctx e) (readArrayItem ctx e') := by
  have found := rel_findSome?
    (s := fun x x' => x.1.Varies v x'.1 ∧ trim x'.2 = trim x.2)
    (f := fun c : Child e =>
      if c.1.name == "attribute" then
        (c.1.attributeIn? Namespaces.wsdl "arrayType").map (c.1, ·)
      else none)
    (g := fun c : Child e' =>
      if c.1.name == "attribute" then
        (c.1.attributeIn? Namespaces.wsdl "arrayType").map (c.1, ·)
      else none)
    (fun c c' hc => ?_) (declaring_varies h)
  · unfold readArrayItem
    generalize List.findSome? _ (declaring e) = x, List.findSome? _ (declaring e') = x' at found
    cases found with
    | none => exact .ok rfl
    | @some x x' same =>
      dsimp only
      rw [same.2]
      exact (same.1.qname_same ctx rfl).map
  · rw [hc.element.start.name]
    split
    · have rel := hc.element.rel_attributeIn? Namespaces.wsdl "arrayType"
      generalize c.1.attributeIn? _ _ = a, c'.1.attributeIn? _ _ = a' at rel
      cases rel with
      | none => exact .none
      | some same => exact .some ⟨hc.element, same.trim_eq⟩
    · exact .none

/-- The names in a list are its words. -/
theorem memberTypes_eq (h : e.Varies v e') :
    (splitWhere isBlank ((e'.attribute? "memberTypes").getD "").toList).filter (!·.isEmpty) =
      (splitWhere isBlank ((e.attribute? "memberTypes").getD "").toList).filter (!·.isEmpty) := by
  have rel := h.rel_attribute? "memberTypes"
  generalize e.attribute? "memberTypes" = a, e'.attribute? "memberTypes" = a' at rel
  cases rel with
  | none => rfl
  | some same => exact wordsBetween_of_trim_eq same.trim_eq

/-! ## Simple types -/

mutual

theorem readInlineSimple_agrees (ctx : Context) (e e' : Element) (h : e.Varies v e') :
    Reading.Agrees v (readInlineSimple ctx e) (readInlineSimple ctx e') := by
  rw [readInlineSimple, readInlineSimple]
  have first := firstOf?_varies h ["simpleType"]
  generalize firstOf? e _ = c, firstOf? e' _ = c' at first
  cases first with
  | none => exact .pure _
  | @some c c' hc =>
    have := c.sizeOf_lt
    have kept := hc.1.keepsName (by rw [List.mem_singleton.mp hc.2]; decide)
    exact .bind (readSimpleType_agrees ctx c.1 c'.1 hc.1.element kept false) fun t => .pure _
termination_by (sizeOf e, 0)

theorem readTypeUse_agrees (ctx : Context) (e e' : Element) (h : e.Varies v e') (name : String) :
    Reading.Agrees v (readTypeUse ctx e name) (readTypeUse ctx e' name) := by
  rw [readTypeUse, readTypeUse]
  refine .bind (.lift (h.qname?_same ctx name)) fun q => ?_
  cases q with
  | some q => exact .pure _
  | none =>
    refine .bind (readInlineSimple_agrees ctx e e' h) fun use => ?_
    cases use with
    | some use => exact .pure _
    | none => exact .lift (h.misread_same fun _ => rfl)
termination_by (sizeOf e, 1)

theorem readDerivation_agrees (ctx : Context) (e e' : Element) (h : e.Varies v e') :
    Reading.Agrees v (readDerivation ctx e) (readDerivation ctx e') := by
  have seq := Reading.Agrees.sequential v
  have inline := forall₂_filter (p := fun c : Child e => c.1.name == "simpleType")
    (q := fun c : Child e' => c.1.name == "simpleType")
    (fun c c' hc => by rw [hc.element.start.name]) (declaring_varies h)
  rw [readDerivation, readDerivation, h.start.name, memberTypes_eq h]
  split
  · exact .bind (readTypeUse_agrees ctx e e' h "base") fun base =>
      .bind (.lift (readFacets_same h)) fun facets => .pure _
  · exact .bind (readTypeUse_agrees ctx e e' h "itemType") fun item => .pure _
  · refine .bind (seq.mapM (r := Eq) (fun name _ same => ?_) (List.forall₂_same.mpr fun _ _ => rfl))
      fun named => .bind (seq.mapM (fun c c' hc => ?_) inline) fun declared => .pure _
    -- A name of the list is the same text on both sides, and stands for the same where it stands.
    · subst same
      exact .bind (.lift (h.qname_same ctx rfl)) fun q => .pure _
    · have := c.sizeOf_lt
      have kept := hc.1.keepsName (by rw [beq_iff_eq.mp hc.2]; decide)
      exact .bind (readSimpleType_agrees ctx c.1 c'.1 hc.1.element kept false) fun t => .pure _
termination_by (sizeOf e, 2)

theorem readSimpleType_agrees (ctx : Context) (e e' : Element) (h : e.Varies v e')
    (kept : Variation.KeepsName e) (isGlobal : Bool) :
    Reading.Agrees v (readSimpleType ctx e isGlobal) (readSimpleType ctx e' isGlobal) := by
  rw [readSimpleType, readSimpleType, h.documentation?_eq]
  refine .bind (.lift (readTypeName_same h kept isGlobal)) fun name => ?_
  have first := firstOf?_varies h ["restriction", "list", "union"]
  generalize firstOf? e _ = c, firstOf? e' _ = c' at first
  cases first with
  | none => exact .lift (h.misread_same fun _ => rfl)
  | @some c c' hc =>
    have := c.sizeOf_lt
    exact .bind (readDerivation_agrees ctx c.1 c'.1 hc.1.element) fun derivation => .pure _
termination_by (sizeOf e, 3)

end

/-! ## Attributes -/

theorem literal_eq (h : e.Varies v e') {name : String} (literal : name ∉ Variation.spacedNames) :
    e'.attribute? name = e.attribute? name := h.attribute?_eq (Variation.not_respaces literal)

theorem default_eq (h : e.Varies v e') : e'.attribute? "default" = e.attribute? "default" :=
  literal_eq h (by simp [Variation.spacedNames])

theorem fixed_eq (h : e.Varies v e') : e'.attribute? "fixed" = e.attribute? "fixed" :=
  literal_eq h (by simp [Variation.spacedNames])

theorem readAttributeDecl_agrees (ctx : Context) (h : e.Varies v e') (isGlobal : Bool) :
    Reading.Agrees v (readAttributeDecl ctx e isGlobal) (readAttributeDecl ctx e' isGlobal) := by
  rw [readAttributeDecl, readAttributeDecl, default_eq h, fixed_eq h]
  -- The two names may differ, but they are trimmed before anything is done with them.
  refine .lift_bind (h.required_keeps "name") fun name name' same => ?_
  rw [same.trim_eq]
  refine .bind (.lift (readNamespace_same ctx h isGlobal _)) fun own =>
    .bind (.lift (h.qname?_same ctx "type")) fun q => ?_
  have usage : v.Outcomes Eq (readUsage e) (readUsage e') := h.readWord_same "use" _ _
  cases q with
  | some q => exact .bind (.pure _) fun type => .bind (.lift usage) fun usage => .pure _
  | none =>
    exact .bind (readInlineSimple_agrees ctx e e' h) fun type =>
      .bind (.lift usage) fun usage => .pure _

theorem addAttribute_agrees (ctx : Context) (h : e.Varies v e') (known : Additions) :
    Reading.Agrees v (addAttribute ctx e known) (addAttribute ctx e' known) := by
  rw [addAttribute, addAttribute, h.start.name]
  split
  · refine .bind (.lift (h.qname?_same ctx "ref")) fun name => ?_
    cases name with
    | some name => exact .bind (.lift (h.readWord_same "use" _ _)) fun usage => .pure _
    | none => exact .bind (readAttributeDecl_agrees ctx h false) fun decl => .pure _
  · exact .bind (.lift (h.requiredQName_same ctx "ref")) fun name => .pure _
  · exact .pure _
  · exact .bind h.skip_agrees fun _ => .pure _

/-! ## Complex types, groups and elements -/

mutual

theorem addAddition_agrees (ctx : Context) (e e' : Element) (h : e.Varies v e')
    (known : Additions) :
    Reading.Agrees v (addAddition ctx e known) (addAddition ctx e' known) := by
  rw [addAddition, addAddition, h.start.name]
  split
  · exact .bind (readModelGroup_agrees ctx e e' h) fun g => .pure _
  · split
    · exact .bind (.lift (readGroupUse_same ctx h)) fun g => .pure _
    · exact addAttribute_agrees ctx h known
termination_by (sizeOf e, 3)

theorem readDerivedContent_agrees (ctx : Context) (e e' : Element) (h : e.Varies v e')
    (type : ComplexType) :
    Reading.Agrees v (readDerivedContent ctx e type) (readDerivedContent ctx e' type) := by
  have seq := Reading.Agrees.sequential v
  rw [readDerivedContent, readDerivedContent, h.start.name]
  refine .bind (.lift (h.readBool_same "mixed")) fun mixed => ?_
  have first := firstOf?_varies h ["extension", "restriction"]
  generalize firstOf? e _ = d, firstOf? e' _ = d' at first
  cases first with
  | none => exact .lift (h.misread_same fun _ => rfl)
  | @some d d' hd =>
    have hd := hd.1.element
    dsimp only
    rw [hd.start.name]
    refine .bind (.lift (hd.requiredQName_same ctx "base")) fun base =>
      .bind (.lift (readArrayItem_same ctx hd)) fun arrayItem =>
      .bind (seq.foldlM (fun known c c' hc => ?_) (declaring_varies hd) _) fun added => ?_
    · have := c.sizeOf_lt
      have := d.sizeOf_lt
      exact addAddition_agrees ctx c.1 c'.1 hc.element known
    · split
      · exact .bind (.pure _) fun content => .pure _
      · exact .bind (.pure _) fun content => .pure _
      · exact .bind (.pure _) fun content => .pure _
      · exact .bind (.lift (readFacets_same hd)) fun facets =>
          .bind (.pure _) fun content => .pure _
termination_by (sizeOf e, 0)

theorem addContent_agrees (ctx : Context) (e e' : Element) (h : e.Varies v e')
    (type : ComplexType) :
    Reading.Agrees v (addContent ctx e type) (addContent ctx e' type) := by
  rw [addContent, addContent, h.start.name]
  split
  · exact .bind (readModelGroup_agrees ctx e e' h) fun g => .pure _
  · split
    · exact .bind (.lift (readGroupUse_same ctx h)) fun g => .pure _
    · exact readDerivedContent_agrees ctx e e' h type
    · exact readDerivedContent_agrees ctx e e' h type
    · exact .bind (addAttribute_agrees ctx h _) fun known => .pure _
    · exact .bind (addAttribute_agrees ctx h _) fun known => .pure _
    · exact .bind (addAttribute_agrees ctx h _) fun known => .pure _
    · exact .bind h.skip_agrees fun _ => .pure _
termination_by (sizeOf e, 3)

theorem readComplexType_agrees (ctx : Context) (e e' : Element) (h : e.Varies v e')
    (kept : Variation.KeepsName e) (isGlobal : Bool) :
    Reading.Agrees v (readComplexType ctx e isGlobal) (readComplexType ctx e' isGlobal) := by
  have seq := Reading.Agrees.sequential v
  rw [readComplexType, readComplexType, h.documentation?_eq]
  refine .bind (.lift (readTypeName_same h kept isGlobal)) fun name =>
    .bind (.lift (h.readBool_same "abstract")) fun isAbstract =>
    .bind (.lift (h.readBool_same "mixed")) fun mixed => ?_
  exact seq.foldlM (fun type c c' hc =>
    have := c.sizeOf_lt
    addContent_agrees ctx c.1 c'.1 hc.element type) (declaring_varies h) _
termination_by (sizeOf e, 0)

theorem addItem_agrees (ctx : Context) (e e' : Element) (h : e.Varies v e')
    (items : List GroupItem) :
    Reading.Agrees v (addItem ctx e items) (addItem ctx e' items) := by
  rw [addItem, addItem, h.start.name]
  split
  · exact .bind (readModelGroup_agrees ctx e e' h) fun g => .pure _
  · split
    · exact .bind (readElementItem_agrees ctx e e' h) fun item => .pure _
    · exact .bind (.lift (readGroupRef_same ctx h)) fun item => .pure _
    · exact .bind (.lift h.readOccurs_same) fun occurs => .pure _
    · exact .bind h.skip_agrees fun _ => .pure _
termination_by (sizeOf e, 4)

theorem readModelGroup_agrees (ctx : Context) (e e' : Element) (h : e.Varies v e') :
    Reading.Agrees v (readModelGroup ctx e) (readModelGroup ctx e') := by
  have seq := Reading.Agrees.sequential v
  rw [readModelGroup, readModelGroup, h.start.name]
  refine .bind (seq.foldlM (fun items c c' hc => ?_) (declaring_varies h) []) fun items =>
    .bind (.lift h.readOccurs_same) fun occurs => .pure _
  have := c.sizeOf_lt
  exact addItem_agrees ctx c.1 c'.1 hc.element items
termination_by (sizeOf e, 0)

theorem readElementItem_agrees (ctx : Context) (e e' : Element) (h : e.Varies v e') :
    Reading.Agrees v (readElementItem ctx e) (readElementItem ctx e') := by
  rw [readElementItem, readElementItem, h.isSome_attribute? "name"]
  refine .bind (.lift h.readOccurs_same) fun occurs =>
    .bind (.lift (h.qname?_same ctx "ref")) fun name => ?_
  cases name with
  | some name => exact .pure _
  | none =>
    dsimp only
    split
    · exact .bind (readElementDecl_agrees ctx e e' h false) fun decl => .pure _
    · exact .lift (h.misread_same fun _ => rfl)
termination_by (sizeOf e, 2)

theorem readElementDecl_agrees (ctx : Context) (e e' : Element) (h : e.Varies v e')
    (isGlobal : Bool) :
    Reading.Agrees v (readElementDecl ctx e isGlobal) (readElementDecl ctx e' isGlobal) := by
  have constraints := forall₂_filter
    (p := fun c : Child e => ["key", "keyref", "unique"].contains c.1.name)
    (q := fun c : Child e' => ["key", "keyref", "unique"].contains c.1.name)
    (fun c c' hc => by rw [hc.element.start.name]) (declaring_varies h)
  have seq := Reading.Agrees.sequential v
  rw [readElementDecl, readElementDecl, default_eq h, fixed_eq h, h.documentation?_eq]
  refine .lift_bind (h.required_keeps "name") fun name name' same => ?_
  rw [same.trim_eq]
  refine .bind (.lift (readNamespace_same ctx h isGlobal _)) fun own =>
    .bind (readElementType_agrees ctx e e' h) fun type =>
    .bind (seq.forM (fun c c' hc => hc.1.element.skip_agrees) constraints) fun _ =>
    .bind (.lift (h.readBool_same "nillable")) fun nillable =>
    .bind (.lift (h.readBool_same "abstract")) fun isAbstract =>
    .bind (.lift (h.qname?_same ctx "substitutionGroup")) fun head => .pure _
termination_by (sizeOf e, 1)

theorem readElementType_agrees (ctx : Context) (e e' : Element) (h : e.Varies v e') :
    Reading.Agrees v (readElementType ctx e) (readElementType ctx e') := by
  rw [readElementType, readElementType]
  refine .bind (.lift (h.qname?_same ctx "type")) fun q => ?_
  cases q with
  | some q => exact .pure _
  | none =>
    dsimp only
    have first := firstOf?_varies h ["complexType", "simpleType"]
    generalize firstOf? e _ = c, firstOf? e' _ = c' at first
    cases first with
    | none => exact .pure _
    | @some c c' hc =>
      have := c.sizeOf_lt
      have kept := hc.1.keepsName (by
        rcases List.mem_pair.mp hc.2 with named | named <;> rw [named] <;> decide)
      dsimp only
      rw [hc.1.element.start.name]
      split
      · exact .bind (readComplexType_agrees ctx c.1 c'.1 hc.1.element kept false) fun t => .pure _
      · exact .bind (readSimpleType_agrees ctx c.1 c'.1 hc.1.element kept false) fun t => .pure _
termination_by (sizeOf e, 0)

end

/-! ## Schemas -/

theorem readGroupDecl_agrees (ctx : Context) (h : e.Varies v e') (kept : Variation.KeepsName e) :
    Reading.Agrees v (readGroupDecl ctx e) (readGroupDecl ctx e') := by
  rw [readGroupDecl, readGroupDecl]
  refine .bind (.lift (h.requiredName_same kept)) fun name => ?_
  have first := firstOf?_varies h groupNames
  generalize firstOf? e _ = c, firstOf? e' _ = c' at first
  cases first with
  | none => exact .lift (h.misread_same fun _ => rfl)
  | some hc => exact .bind (readModelGroup_agrees ctx _ _ hc.1.element) fun g => .pure _

theorem readAttributeGroupDecl_agrees (ctx : Context) (h : e.Varies v e')
    (kept : Variation.KeepsName e) :
    Reading.Agrees v (readAttributeGroupDecl ctx e) (readAttributeGroupDecl ctx e') := by
  have seq := Reading.Agrees.sequential v
  rw [readAttributeGroupDecl, readAttributeGroupDecl]
  exact .bind (.lift (h.requiredName_same kept)) fun name =>
    .bind (seq.foldlM (fun known c c' hc => addAttribute_agrees ctx hc.element known)
      (declaring_varies h) _) fun added => .pure _

theorem readInclusion_same (h : e.Varies v e') (target : String) (kind : ImportKind) :
    v.Outcomes Eq (readInclusion target kind e) (readInclusion target kind e') := by
  rw [readInclusion, readInclusion]
  refine (h.required_keeps "schemaLocation").bind fun location location' same => ?_
  rw [same.trim_eq]
  exact .ok rfl

theorem addDeclaration_agrees (ctx : Context) (schema : Declarations) (h : e.Varies v e') :
    Reading.Agrees v (addDeclaration ctx schema e) (addDeclaration ctx schema e') := by
  have imported : readImport schema.targetNamespace e' = readImport schema.targetNamespace e := by
    rw [readImport, readImport, h.trimmed?_eq, h.trimmed?_eq]
  rw [addDeclaration, addDeclaration, h.start.ns, imported, h.start.name]
  split
  · exact .bind h.skip_agrees fun _ => .pure _
  · next own =>
    have own : e.ns = some Namespaces.schema := by simpa using own
    have kept (name : String) (same : e.name = name)
        (listed : name ∈ Variation.keptDeclarations) :
        Variation.KeepsName e := .inl ⟨own, same ▸ listed⟩
    split
    · exact .pure _
    · exact .pure _
    · exact .bind (.lift (readInclusion_same h _ _)) fun i => .pure _
    · exact .bind h.skip_agrees fun _ => .bind (.lift (readInclusion_same h _ _)) fun i => .pure _
    · next named =>
      exact .bind (readComplexType_agrees ctx e e' h (kept _ named (by decide)) true) fun t =>
        .pure _
    · next named =>
      exact .bind (readSimpleType_agrees ctx e e' h (kept _ named (by decide)) true) fun t =>
        .pure _
    · exact .bind (readElementDecl_agrees ctx e e' h true) fun decl => .pure _
    · exact .bind (readAttributeDecl_agrees ctx h true) fun decl => .pure _
    · next named =>
      exact .bind (readGroupDecl_agrees ctx h (kept _ named (by decide))) fun decl => .pure _
    · next named =>
      exact .bind (readAttributeGroupDecl_agrees ctx h (kept _ named (by decide))) fun decl =>
        .pure _
    · exact .bind h.skip_agrees fun _ => .pure _

/-- An element of another language is noted and nothing else. -/
theorem addDeclaration_added (ctx : Context) (schema : Declarations) (added : v.Adds e) :
    addDeclaration ctx schema e = (skip e >>= fun _ => pure schema) := by
  have other : (e.ns != some Namespaces.schema) = true :=
    bne_iff_ne.mpr fun own => Variation.not_adds (.inl own) added
  rw [addDeclaration, if_pos other]

theorem readSchema_agrees (target : String) (isAdopted : Bool) (h : e.Varies v e') :
    Reading.Agrees v (readSchema target isAdopted e) (readSchema target isAdopted e') := by
  have seq := Reading.Agrees.sequential v
  rw [readSchema, readSchema]
  refine .bind (.lift (h.readWord_same "elementFormDefault" _ _)) fun elementForm =>
    .bind (.lift (h.readWord_same "attributeFormDefault" _ _)) fun attributeForm => ?_
  -- This reader alone goes through all children, so here alone some may be on one side only.
  refine seq.foldlM_interleaves (r := Element.Varies v)
    (fun schema c c' hc => addDeclaration_agrees _ schema hc)
    (fun schema c added => ?_) (fun schema c added => ?_) h.children _
  · rw [addDeclaration_added _ _ added]
    exact added.skip_agrees schema
  · rw [addDeclaration_added _ _ added]
    exact added.agrees_skip schema

/-! ## Extensions -/

/-- Elements of other languages say nothing about types. Wherever they are put into a schema or
taken out of it, it declares and imports the same, or is refused for the same fault. -/
theorem readSchema_extended (h : e.Varies .extensions e') (target : String) (isAdopted : Bool)
    (noted noted' : List Skipped) : ((readSchema target isAdopted e').run noted').map Prod.fst =
      ((readSchema target isAdopted e).run noted).map Prod.fst := by
  have agree := readSchema_agrees target isAdopted h noted noted' trivial
  generalize (readSchema target isAdopted e).run noted = x,
    (readSchema target isAdopted e').run noted' = x' at agree
  cases agree with
  | ok same => exact congrArg Except.ok same.1
  | error same => rw [same rfl]

/-- An element of another language with a child that would declare something elsewhere. -/
def remark : Element :=
  ⟨some "urn:x", "remark", [], [Document.unprefixedElement], "", 0, []⟩

/-- The schema of one element with such remarks, in front of that element and inside it. -/
def remarkedRoot : Element :=
  { Document.unprefixedRoot with
    children := [remark, { Document.unprefixedElement with children := [remark] }] }

/-- The remarks declare nothing. -/
theorem readSchema_remarked : Document.unprefixedRoot.Varies .extensions remarkedRoot ∧
    ((readSchema "" false remarkedRoot).run []).map Prod.fst = .ok Document.unprefixedSchema := by
  have foreign : Variation.extensions.Adds remark :=
    ⟨by simp [remark, Namespaces.schema], by simp [remark, Namespaces.wsdl]⟩
  have inside : Document.unprefixedElement.Varies .extensions
      { Document.unprefixedElement with children := [remark] } :=
    .of ⟨rfl, rfl, rfl, rfl, fun _ => rfl, (Element.Varies.refl _ _).start.attributes⟩
      (.right foreign .nil)
  have extended : Document.unprefixedRoot.Varies .extensions remarkedRoot :=
    .of ⟨rfl, rfl, rfl, rfl, fun _ => rfl, .nil⟩ (.right foreign (.both inside .nil))
  refine ⟨extended, ?_⟩
  rw [readSchema_extended extended "" false [] [], Document.readSchema_unprefixed]
  rfl

end SoapBindings.Schema
