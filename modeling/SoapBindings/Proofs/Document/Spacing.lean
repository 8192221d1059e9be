import Mathlib
import SoapBindings.Proofs.Schema.Variants

/-!
# White space around attribute values

White space around a value does not matter where the value is a reference, a word, a truth value, a
count or an address, and where it is the name of an element or an attribute. Two documents that
differ in nothing else are read as the same document (`Document.read_respaced`), with one reader
after the other compared on the two sides as in the schemas.

It does matter around the names of all other declarations, which are kept as they are written. A
type that is declared with a space in front of its name is found by no reference
(`Document.not_alike_spaced`).
-/

set_option autoImplicit false

namespace SoapBindings

open Text Xml

variable {e e' : Element}

/-! ## Service declarations -/

namespace Wsdl

/-- Nothing comes or goes among the children. -/
theorem children_respaced (h : e.Varies .spacing e') :
    List.Forall₂ (Element.Varies .spacing) e.children e'.children :=
  h.children.forall₂ fun _ => id

theorem childrenIn_respaced (h : e.Varies .spacing e') :
    List.Forall₂ (fun c c' => c.Varies .spacing c' ∧ c.ns = some Namespaces.wsdl)
      (e.childrenIn Namespaces.wsdl) (e'.childrenIn Namespaces.wsdl) :=
  (forall₂_filter (fun c c' hc => by rw [hc.start.ns]) (children_respaced h)).imp
    fun _ _ hc => ⟨hc.1, beq_iff_eq.mp hc.2⟩

theorem named_respaced (h : e.Varies .spacing e') (name : String)
    (kept : name ∈ Variation.keptServices) :
    List.Forall₂ (fun c c' => c.Varies .spacing c' ∧ Variation.KeepsName c)
      (named e name) (named e' name) :=
  (forall₂_filter (fun c c' hc => by rw [hc.1.start.name]) (childrenIn_respaced h)).imp
    fun _ _ hc => ⟨hc.1.1, .inr ⟨hc.1.2, beq_iff_eq.mp hc.2 ▸ kept⟩⟩

theorem soapChild?_respaced (h : e.Varies .spacing e') (name : String) :
    Option.Rel (Element.Varies .spacing) (soapChild? e name) (soapChild? e' name) := by
  have found := rel_find? (p := isSoap name) (q := isSoap name)
    (fun c c' hc => by rw [isSoap, isSoap, hc.is_eq, hc.is_eq]) (children_respaced h)
  rw [soapChild?, soapChild?]
  generalize List.find? _ e.children = c, List.find? _ e'.children = c' at found
  cases found with
  | none => exact .none
  | some hc => exact .some hc.1

section

variable (ctx : Context)

theorem readPart_respaced (h : e.Varies .spacing e') (kept : Variation.KeepsName e) :
    Variation.spacing.Outcomes Eq (readPart ctx e) (readPart ctx e') := by
  have seq := Variation.Outcomes.sequential .spacing
  rw [readPart, readPart]
  refine seq.bind (h.requiredName_same kept) fun name =>
    seq.bind (h.qname?_same ctx "element") fun element =>
    seq.bind (h.qname?_same ctx "type") fun type => ?_
  split
  · exact seq.pure _
  · exact seq.pure _
  · exact h.misread_same fun _ => rfl

theorem readMessage_respaced (h : e.Varies .spacing e') (kept : Variation.KeepsName e) :
    Variation.spacing.Outcomes Eq (readMessage ctx e) (readMessage ctx e') := by
  have seq := Variation.Outcomes.sequential .spacing
  rw [readMessage, readMessage]
  exact seq.bind (seq.mapM (fun c c' hc => readPart_respaced ctx hc.1 hc.2)
    (named_respaced h "part" (by decide))) fun parts =>
    seq.bind (h.requiredName_same kept) fun name => seq.pure _

theorem readMessageUse_respaced (h : e.Varies .spacing e') (kept : Variation.KeepsName e) :
    Variation.spacing.Outcomes Eq (readMessageUse ctx e) (readMessageUse ctx e') := by
  have seq := Variation.Outcomes.sequential .spacing
  rw [readMessageUse, readMessageUse, h.attribute?_eq (Variation.not_respaces_name kept)]
  exact seq.bind (h.requiredQName_same ctx "message") fun message => seq.pure _

theorem addMessage_respaced (h : e.Varies .spacing e') (own : e.ns = some Namespaces.wsdl)
    (x : Exchange) :
    Variation.spacing.Outcomes Eq (addMessage ctx x e) (addMessage ctx x e') := by
  have seq := Variation.Outcomes.sequential .spacing
  rw [addMessage, addMessage, h.start.name]
  split
  · next named =>
    have kept : Variation.KeepsName e := .inr ⟨own, by rw [named]; decide⟩
    exact seq.bind (readMessageUse_respaced ctx h kept) fun use => seq.pure _
  · next named =>
    have kept : Variation.KeepsName e := .inr ⟨own, by rw [named]; decide⟩
    exact seq.bind (readMessageUse_respaced ctx h kept) fun use => seq.pure _
  · next named =>
    have kept : Variation.KeepsName e := .inr ⟨own, by rw [named]; decide⟩
    exact seq.bind (readMessageUse_respaced ctx h kept) fun use => seq.pure _
  · exact seq.pure _

theorem readOperation_respaced (h : e.Varies .spacing e') (kept : Variation.KeepsName e) :
    Variation.spacing.Outcomes Eq (readOperation ctx e) (readOperation ctx e') := by
  have seq := Variation.Outcomes.sequential .spacing
  rw [readOperation, readOperation, h.documentation?_eq]
  refine seq.bind (seq.foldlM (fun x c c' hc => addMessage_respaced ctx hc.1 hc.2 x)
    (childrenIn_respaced h) _) fun x => ?_
  cases x.pattern? with
  | none => exact h.misread_same fun _ => rfl
  | some pattern =>
    exact seq.bind (h.requiredName_same kept) fun name => seq.pure _

theorem readPortType_respaced (h : e.Varies .spacing e') (kept : Variation.KeepsName e) :
    Variation.spacing.Outcomes Eq (readPortType ctx e) (readPortType ctx e') := by
  have seq := Variation.Outcomes.sequential .spacing
  rw [readPortType, readPortType]
  exact seq.bind (seq.mapM (fun c c' hc => readOperation_respaced ctx hc.1 hc.2)
    (named_respaced h "operation" (by decide))) fun operations =>
    seq.bind (h.requiredName_same kept) fun name => seq.pure _

theorem readIfAny_respaced {α : Type} {x x' : Option Element}
    {read : Element → Except Misreading (Option α)} (h : Option.Rel (Element.Varies .spacing) x x')
    (same : ∀ c c' : Element, c.Varies .spacing c' →
      Variation.spacing.Outcomes Eq (read c) (read c')) :
    Variation.spacing.Outcomes Eq (readIfAny x read) (readIfAny x' read) := by
  cases h with
  | none => exact .ok rfl
  | some hc => exact same _ _ hc

theorem readBodyUse_respaced (h : e.Varies .spacing e') :
    Variation.spacing.Outcomes Eq (readBodyUse e) (readBodyUse e') := by
  have found := soapChild?_respaced h "body"
  rw [readBodyUse, readBodyUse]
  generalize soapChild? e "body" = c, soapChild? e' "body" = c' at found
  cases found with
  | none => exact .ok rfl
  | some hc => exact hc.readWord_same "use" _ _

theorem readBindingOperation_respaced (h : e.Varies .spacing e')
    (kept : Variation.KeepsName e) :
    Variation.spacing.Outcomes Eq (readBindingOperation e) (readBindingOperation e') := by
  have seq := Variation.Outcomes.sequential .spacing
  have soap := soapChild?_respaced h "operation"
  have action : ((soapChild? e' "operation").bind (·.attribute? "soapAction")) =
      (soapChild? e "operation").bind (·.attribute? "soapAction") := by
    generalize soapChild? e "operation" = c, soapChild? e' "operation" = c' at soap
    cases soap with
    | none => rfl
    | some hc => exact Schema.literal_eq hc (by simp [Variation.spacedNames])
  rw [readBindingOperation, readBindingOperation, action]
  exact seq.bind (h.requiredName_same kept) fun name =>
    seq.bind (readIfAny_respaced soap fun c c' hc => hc.readWord_same "style" _ _) fun style =>
    seq.bind (readIfAny_respaced (h.rel_child? (.inr rfl) "input") fun c c' hc =>
      readBodyUse_respaced hc) fun input =>
    seq.bind (readIfAny_respaced (h.rel_child? (.inr rfl) "output") fun c c' hc =>
      readBodyUse_respaced hc) fun output => seq.pure _

theorem addBinding_respaced (h : e.Varies .spacing e') (b : Binding) :
    Variation.spacing.Outcomes Eq (addBinding b e) (addBinding b e') := by
  have seq := Variation.Outcomes.sequential .spacing
  have transport : e'.attribute? "transport" = e.attribute? "transport" :=
    Schema.literal_eq h (by simp [Variation.spacedNames])
  rw [addBinding, addBinding, h.start.name, h.start.ns, h.is_eq, transport]
  split
  · exact seq.bind (h.readWord_same "style" _ _) fun style => seq.pure _
  · split
    · next operation =>
      rw [Element.is, Bool.and_eq_true, beq_iff_eq, beq_iff_eq] at operation
      have kept : Variation.KeepsName e := .inr ⟨operation.2, by rw [operation.1]; decide⟩
      exact seq.bind (readBindingOperation_respaced h kept) fun o => seq.pure _
    · exact seq.pure _

theorem readBinding_respaced (h : e.Varies .spacing e') (kept : Variation.KeepsName e) :
    Variation.spacing.Outcomes Eq (readBinding ctx e) (readBinding ctx e') := by
  have seq := Variation.Outcomes.sequential .spacing
  rw [readBinding, readBinding]
  exact seq.bind (h.requiredQName_same ctx "type") fun portType =>
    seq.bind (seq.foldlM (r := Element.Varies .spacing)
      (fun b c c' hc => addBinding_respaced hc b) (children_respaced h) _) fun b =>
    seq.bind (h.requiredName_same kept) fun name => seq.pure _

theorem readPort_respaced (h : e.Varies .spacing e') (kept : Variation.KeepsName e) :
    Variation.spacing.Outcomes Eq (readPort ctx e) (readPort ctx e') := by
  have seq := Variation.Outcomes.sequential .spacing
  have address : ((e'.children.find? (·.name == "address")).bind (trimmed? · "location")) =
      (e.children.find? (·.name == "address")).bind (trimmed? · "location") := by
    have found := rel_find? (p := fun c : Element => c.name == "address")
      (q := fun c : Element => c.name == "address") (fun c c' hc => by rw [hc.start.name])
      (children_respaced h)
    generalize List.find? _ e.children = c, List.find? _ e'.children = c' at found
    cases found with
    | none => rfl
    | some hc => exact hc.1.trimmed?_eq "location"
  rw [readPort, readPort, address]
  exact seq.bind (h.requiredName_same kept) fun name =>
    seq.bind (h.requiredQName_same ctx "binding") fun binding => seq.pure _

theorem readService_respaced (h : e.Varies .spacing e') (kept : Variation.KeepsName e) :
    Variation.spacing.Outcomes Eq (readService ctx e) (readService ctx e') := by
  have seq := Variation.Outcomes.sequential .spacing
  rw [readService, readService, h.documentation?_eq]
  exact seq.bind (seq.mapM (fun c c' hc => readPort_respaced ctx hc.1 hc.2)
    (named_respaced h "port" (by decide))) fun ports =>
    seq.bind (h.requiredName_same kept) fun name => seq.pure _

end

end Wsdl

/-! ## Documents -/

theorem addSchema_respaced (h : e.Varies .spacing e') (d : Definitions) :
    Reading.Agrees .spacing (addSchema d e) (addSchema d e') := by
  rw [addSchema, addSchema, h.is_eq, h.is_eq, h.trimmed?_eq]
  split
  · exact .bind (Schema.readSchema_agrees _ false h) fun schema => .pure _
  · split
    · exact .pure _
    · exact .bind h.skip_agrees fun _ => .pure _

theorem addDefinition_respaced (ctx : Context) (h : e.Varies .spacing e') (d : Definitions) :
    Reading.Agrees .spacing (addDefinition ctx d e) (addDefinition ctx d e') := by
  have seq := Reading.Agrees.sequential .spacing
  rw [addDefinition, addDefinition, h.start.ns, h.start.name, h.trimmed?_eq, h.trimmed?_eq]
  split
  · exact .bind h.skip_agrees fun _ => .pure _
  · next own =>
    have own : e.ns = some Namespaces.wsdl := by simpa using own
    have kept (name : String) (same : e.name = name) (listed : name ∈ Variation.keptServices) :
        Variation.KeepsName e := .inr ⟨own, same ▸ listed⟩
    split
    · exact .pure _
    · exact .pure _
    · exact seq.foldlM (r := Element.Varies .spacing)
        (fun d c c' hc => addSchema_respaced hc d) (Wsdl.children_respaced h) d
    · next named =>
      exact .bind (.lift (Wsdl.readMessage_respaced ctx h (kept _ named (by decide)))) fun m =>
        .pure _
    · next named =>
      exact .bind (.lift (Wsdl.readPortType_respaced ctx h (kept _ named (by decide)))) fun p =>
        .pure _
    · next named =>
      exact .bind (.lift (Wsdl.readBinding_respaced ctx h (kept _ named (by decide)))) fun b =>
        .pure _
    · next named =>
      exact .bind (.lift (Wsdl.readService_respaced ctx h (kept _ named (by decide)))) fun s =>
        .pure _
    · exact .bind h.skip_agrees fun _ => .pure _

namespace Document

/-- The same document, but for the places of what was passed over and the white space in its
description. -/
structure Alike (d d' : Document) : Prop where
  same : d' = { d with skipped := d'.skipped }
  skipped : List.Forall₂ Skipped.Alike d.skipped d'.skipped

theorem ofRoot_respaced (h : e.Varies .spacing e') (l : Locator) (including : Option String) :
    Variation.spacing.Outcomes Alike (ofRoot l including e) (ofRoot l including e') := by
  have seq := Reading.Agrees.sequential .spacing
  rw [ofRoot, ofRoot, h.is_eq, h.is_eq, h.trimmed?_eq]
  dsimp only
  split
  · refine (Schema.readSchema_agrees _ _ h [] [] .nil).bind fun r r' same => .ok ?_
    rw [same.1]
    exact ⟨rfl, List.forall₂_reverse_iff.mpr same.2⟩
  · split
    · have definitions := seq.foldlM (r := Element.Varies .spacing)
        (fun d c c' hc => addDefinition_respaced
          (.ofNamespace ((trimmed? e "targetNamespace").getD "")) hc d)
        (Wsdl.children_respaced h) .none
      refine (definitions [] [] .nil).bind fun r r' same => .ok ?_
      rw [same.1]
      exact ⟨rfl, List.forall₂_reverse_iff.mpr same.2⟩
    · exact h.misread_same fun extended => absurd extended Variation.spacing_ne_extensions

/-- The second text is the first with other white space around attribute values. -/
def Respaced (content content' : ByteArray) : Prop :=
  ∃ text text' root root', Utf8.decode? content = some text ∧ Utf8.decode? content' = some text' ∧
    Element.ofText text = .ok root ∧ Element.ofText text' = .ok root' ∧ root.Varies .spacing root'

/-- White space may stand around attribute values or not, the names of some declarations apart. -/
theorem read_respaced {content content' : ByteArray} (h : Respaced content content') {l : Locator}
    {including : Option String} {d : Document} (hd : read l including content = .ok d) :
    ∃ d', read l including content' = .ok d' ∧ d.Alike d' := by
  obtain ⟨text, text', root, root', decoded, decoded', parsed, parsed', same⟩ := h
  have outcome := ofRoot_respaced same l including
  rw [read_of_root decoded parsed] at hd
  rw [read_of_root decoded' parsed']
  generalize ofRoot l including root = x, ofRoot l including root' = x' at hd outcome
  cases outcome with
  | error => cases hd
  | @ok a a' alike =>
    cases hd
    exact ⟨a', rfl, alike⟩

/-- The element and its type with white space around their names. -/
def padded : String :=
  "<xs:schema xmlns:xs=\"http://www.w3.org/2001/XMLSchema\"><xs:element name=\" e \" " ++
    "type=\" T\"/></xs:schema>"

def paddedElement : Element :=
  { unprefixedElement with attributes := [⟨none, "name", " e "⟩, ⟨none, "type", " T"⟩] }

theorem parse_padded :
    Element.ofText padded = .ok { unprefixedRoot with children := [paddedElement] } := by cbv

theorem respaced_padded : Respaced unprefixed.toUTF8 padded.toUTF8 := by
  have name : Variation.spacing.Respaces unprefixedElement "name" :=
    ⟨by simp [Variation.spacedNames],
      fun _ => by
        simp [Variation.KeepsName, Variation.keptDeclarations, unprefixedElement,
          Namespaces.schema, Namespaces.wsdl]⟩
  have type : Variation.spacing.Respaces unprefixedElement "type" :=
    ⟨by simp [Variation.spacedNames], by simp⟩
  have element : unprefixedElement.Varies .spacing paddedElement :=
    .of ⟨rfl, rfl, rfl, rfl, fun _ => rfl, .cons ⟨rfl, rfl, .around " " " " name rfl rfl⟩
      (.cons ⟨rfl, rfl, .around " " "" type rfl rfl⟩ .nil)⟩ .nil
  exact ⟨_, _, _, _, Utf8.decode?_toUTF8 _, Utf8.decode?_toUTF8 _, parse_unprefixed, parse_padded,
    .of ⟨rfl, rfl, rfl, rfl, fun _ => rfl, .nil⟩ (.both element .nil)⟩

theorem read_padded : Respaced unprefixed.toUTF8 padded.toUTF8 ∧
    ∃ d, read default none unprefixed.toUTF8 = .ok d ∧
      ∃ d', read default none padded.toUTF8 = .ok d' ∧ d.Alike d' :=
  ⟨respaced_padded, _, read_unprefixed, read_respaced respaced_padded read_unprefixed⟩

/-! ## Names that are kept -/

/-- A schema of one type. -/
def oneType : String :=
  "<xs:schema xmlns:xs=\"http://www.w3.org/2001/XMLSchema\"><xs:complexType name=\"T\"/>" ++
    "</xs:schema>"

/-- The same with a space in front of the name. -/
def oneSpacedType : String :=
  "<xs:schema xmlns:xs=\"http://www.w3.org/2001/XMLSchema\"><xs:complexType name=\" T\"/>" ++
    "</xs:schema>"

def typeElement (name : String) : Element :=
  ⟨some Namespaces.schema, "complexType", [⟨none, "name", name⟩], [], "", 55,
    [(some "xs", Namespaces.schema)]⟩

theorem parse_oneType :
    Element.ofText oneType = .ok { unprefixedRoot with children := [typeElement "T"] } := by cbv

theorem parse_oneSpacedType :
    Element.ofText oneSpacedType = .ok { unprefixedRoot with children := [typeElement " T"] } := by
  cbv

def typeDocument (name : String) : Document :=
  ⟨default, .schema, "", [], [⟨"", .unqualified, .unqualified, [],
    [.complex ⟨some name, none, false, false, .empty, [], false, none⟩], [], [], [], []⟩],
    [], [], [], [], []⟩

theorem read_typeDocument {text name : String} (given : isBlankText name = false)
    (parsed : Element.ofText text = .ok { unprefixedRoot with children := [typeElement name] }) :
    read default none text.toUTF8 = .ok (typeDocument name) := by
  have type :
      Schema.readComplexType ⟨"", false, .unqualified, .unqualified⟩ (typeElement name) true =
        pure ⟨some name, none, false, false, .empty, [], false, none⟩ := by
    have named : required (typeElement name) "name" = .ok name := by
      have written : (typeElement name).attribute? "name" = some name := rfl
      rw [required, written]
      exact if_neg (given ▸ Bool.false_ne_true)
    rw [Schema.readComplexType, Schema.readTypeName, if_pos rfl, named]
    rfl
  refine read_eq_ok_iff.mpr ⟨_, _, Utf8.decode?_toUTF8 _, parsed, ?_⟩
  have unfolded : ofRoot default none { unprefixedRoot with children := [typeElement name] } =
      ((Schema.readComplexType ⟨"", false, .unqualified, .unqualified⟩ (typeElement name) true >>=
        fun type => pure { unprefixedSchema with elements := [], types := [.complex type] }) >>=
          pure).run [] >>= fun r =>
        pure ⟨default, .schema, "", [], [r.1], [], [], [], [], r.2.reverse⟩ := rfl
  rw [unfolded, type]
  rfl

/-- A type with a space in front of its name is another type. -/
theorem not_alike_spaced : read default none oneType.toUTF8 = .ok (typeDocument "T") ∧
    read default none oneSpacedType.toUTF8 = .ok (typeDocument " T") ∧
    ¬ (typeDocument "T").Alike (typeDocument " T") := by
  refine ⟨read_typeDocument rfl parse_oneType, read_typeDocument rfl parse_oneSpacedType,
    fun alike => ?_⟩
  -- Alike documents have types of the same names.
  have names := congrArg (fun d => d.schemas.map (·.types.map (·.name))) alike.same
  have differ : [[some " T"]] ≠ [[some "T"]] := by simp
  exact differ names

end Document

end SoapBindings
