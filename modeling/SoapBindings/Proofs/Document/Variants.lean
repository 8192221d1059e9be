import Mathlib
import SoapBindings.Document.Reader
import SoapBindings.Proofs.Text.Split

/-!
# Variants of a document

Two element trees may differ and yet say the same. In one kind of variant there is other white space
around the values of attributes, and so every element may stand at another place; in the other there
are more or fewer elements of other languages, at any depth (`Element.Varies`).

Readers of such variants agree if they give the same value or refuse both, for the same fault where
only elements of other languages differ (`Variation.Outcomes`, `Reading.Agrees`), and readers that
are put one after the other agree if each of them does (`Sequential`). Everything else in this file
is what all readers look at: attributes, names, words, counts and the first child of a name.

What a reader passes over it notes by a text that repeats a name as it is written. So notes on the
two sides are alike only up to white space in such a name (`Skipped.Alike`), and for elements of
other languages, which are passed over themselves, nothing is said of the notes.
-/

set_option autoImplicit false

namespace SoapBindings

open Text Xml

/-! ## Lists that correspond -/

section

variable {α β γ δ : Type} {r : α → β → Prop} {s : γ → δ → Prop} {as : List α} {bs : List β}

theorem rel_head? (h : List.Forall₂ r as bs) : Option.Rel r as.head? bs.head? := by
  cases h with
  | nil => exact .none
  | cons first _ => exact .some first

theorem rel_findSome? {f : α → Option γ} {g : β → Option δ}
    (same : ∀ a b, r a b → Option.Rel s (f a) (g b)) (h : List.Forall₂ r as bs) :
    Option.Rel s (as.findSome? f) (bs.findSome? g) := by
  induction h with
  | nil => exact .none
  | @cons a b as bs hab _ ih =>
    rw [List.findSome?_cons, List.findSome?_cons]
    have first := same a b hab
    generalize f a = x, g b = y at first
    cases first with
    | none => exact ih
    | some h => exact .some h

theorem forall₂_filter {p : α → Bool} {q : β → Bool} (same : ∀ a b, r a b → q b = p a)
    (h : List.Forall₂ r as bs) :
    List.Forall₂ (fun a b => r a b ∧ p a) (as.filter p) (bs.filter q) := by
  induction h with
  | nil => exact .nil
  | @cons a b as bs hab _ ih =>
    rw [List.filter_cons, List.filter_cons, same a b hab]
    split
    · next ha => exact .cons ⟨hab, ha⟩ ih
    · exact ih

theorem rel_find? {p : α → Bool} {q : β → Bool} (same : ∀ a b, r a b → q b = p a)
    (h : List.Forall₂ r as bs) :
    Option.Rel (fun a b => r a b ∧ p a) (as.find? p) (bs.find? q) := by
  rw [← List.head?_filter, ← List.head?_filter]
  exact rel_head? (forall₂_filter same h)

end

/-! ## Lists with items of one side only -/

/-- Two lists correspond item by item once some extra items are left out of each. -/
inductive Interleaves {α : Type} (r : α → α → Prop) (extra : α → Prop) : List α → List α → Prop
  | nil : Interleaves r extra [] []
  | both {a b : α} {as bs : List α} (same : r a b) (rest : Interleaves r extra as bs) :
      Interleaves r extra (a :: as) (b :: bs)
  | left {a : α} {as bs : List α} (apart : extra a) (rest : Interleaves r extra as bs) :
      Interleaves r extra (a :: as) bs
  | right {b : α} {as bs : List α} (apart : extra b) (rest : Interleaves r extra as bs) :
      Interleaves r extra as (b :: bs)

namespace Interleaves

variable {α : Type} {r : α → α → Prop} {extra : α → Prop} {as bs : List α} {p : α → Bool}

theorem of_forall₂ (h : List.Forall₂ r as bs) : Interleaves r extra as bs := by
  induction h with
  | nil => exact .nil
  | cons same _ ih => exact .both same ih

theorem forall₂ (h : Interleaves r extra as bs) (none : ∀ a, ¬ extra a) :
    List.Forall₂ r as bs := by
  induction h with
  | nil => exact .nil
  | both same _ ih => exact .cons same ih
  | left apart => exact absurd apart (none _)
  | right apart => exact absurd apart (none _)

theorem filter (h : Interleaves r extra as bs) (same : ∀ a b, r a b → p b = p a)
    (apart : ∀ a, extra a → p a = false) :
    List.Forall₂ (fun a b => r a b ∧ p a) (as.filter p) (bs.filter p) := by
  induction h with
  | nil => exact .nil
  | @both a b as bs hab _ ih =>
    rw [List.filter_cons, List.filter_cons, same a b hab]
    split
    · next ha => exact .cons ⟨hab, ha⟩ ih
    · exact ih
  | left ha _ ih => rwa [List.filter_cons, apart _ ha, if_neg nofun]
  | right hb _ ih => rwa [List.filter_cons, apart _ hb, if_neg nofun]

theorem find? (h : Interleaves r extra as bs) (same : ∀ a b, r a b → p b = p a)
    (apart : ∀ a, extra a → p a = false) :
    Option.Rel (fun a b => r a b ∧ p a) (as.find? p) (bs.find? p) := by
  rw [← List.head?_filter, ← List.head?_filter]
  exact rel_head? (h.filter same apart)

end Interleaves

/-! ## Trees that vary -/

/-- How a document may differ from another that says the same. -/
inductive Variation where
  /-- By white space around the values of attributes. -/
  | spacing
  /-- By elements of other languages. -/
  | extensions

namespace Variation

/-- The attributes whose values are names, references, words, truth values, counts or addresses. -/
def spacedNames : List String :=
  ["name", "ref", "type", "base", "itemType", "memberTypes", "substitutionGroup", "arrayType",
    "element", "message", "binding", "use", "style", "form", "elementFormDefault",
    "attributeFormDefault", "abstract", "mixed", "nillable", "minOccurs", "maxOccurs",
    "targetNamespace", "namespace", "schemaLocation", "location"]

/-- The declarations of a schema whose names are kept as they are written. -/
def keptDeclarations : List String := ["simpleType", "complexType", "group", "attributeGroup"]

/-- The service declarations, the names of all of which are kept as they are written. -/
def keptServices : List String :=
  ["message", "part", "portType", "operation", "input", "output", "fault", "binding", "service",
    "port"]

theorem spacing_ne_extensions : spacing ≠ extensions := by
  intro h
  cases h

/-- A construct whose own name is kept as it is written. -/
def KeepsName (e : Element) : Prop :=
  e.ns = some Namespaces.schema ∧ e.name ∈ keptDeclarations ∨
    e.ns = some Namespaces.wsdl ∧ e.name ∈ keptServices

/-- White space may change around the value of this attribute. -/
def Respaces : Variation → Element → String → Prop
  | spacing, e, name => name ∈ spacedNames ∧ (name = "name" → ¬ KeepsName e)
  | extensions, _, _ => False

/-- The element may come or go. -/
def Adds : Variation → Element → Prop
  | spacing, _ => False
  | extensions, e => e.ns ≠ some Namespaces.schema ∧ e.ns ≠ some Namespaces.wsdl

/-- The value is the same, or differs by white space that may change. -/
def Keeps (v : Variation) (e : Element) (name : String) (value value' : String) : Prop :=
  value' = value ∨ v.Respaces e name ∧ trim value' = trim value

variable {v : Variation} {e : Element} {name value value' : String}

theorem Keeps.trim_eq (h : v.Keeps e name value value') : trim value' = trim value := by
  rcases h with rfl | ⟨-, h⟩
  · rfl
  · exact h

theorem Keeps.eq (h : v.Keeps e name value value') (kept : ¬ v.Respaces e name) :
    value' = value := by
  rcases h with h | ⟨spaced, -⟩
  · exact h
  · exact absurd spaced kept

theorem Keeps.around (front back : String) (spaced : v.Respaces e name)
    (hfront : isBlankText front) (hback : isBlankText back) :
    v.Keeps e name value (front ++ value ++ back) :=
  .inr ⟨spaced, trim_around hfront hback value⟩

theorem not_respaces_name (h : KeepsName e) : ¬ v.Respaces e "name" := by
  cases v with
  | spacing => exact fun spaced => spaced.2 rfl h
  | extensions => exact id

theorem not_respaces (h : name ∉ spacedNames) : ¬ v.Respaces e name := by
  cases v with
  | spacing => exact fun spaced => h spaced.1
  | extensions => exact id

theorem not_adds (h : e.ns = some Namespaces.schema ∨ e.ns = some Namespaces.wsdl) :
    ¬ v.Adds e := by
  cases v with
  | spacing => exact id
  | extensions => exact fun added => h.elim added.1 added.2

end Variation

namespace Xml

/-- An attribute of an element and its variant. -/
structure Attribute.Varies (v : Variation) (e : Element) (a a' : Attribute) : Prop where
  ns : a'.ns = a.ns
  name : a'.name = a.name
  value : v.Keeps e a.name a.value a'.value

/-- An element and its variant, their children apart. -/
structure Element.Resembles (v : Variation) (e e' : Element) : Prop where
  ns : e'.ns = e.ns
  name : e'.name = e.name
  text : e'.text = e.text
  scope : e'.scope = e.scope
  position : v = .extensions → e'.position = e.position
  attributes : List.Forall₂ (Attribute.Varies v e) e.attributes e'.attributes

/-- Each of the two trees is a variant of the other. -/
inductive Element.Varies (v : Variation) : Element → Element → Prop
  | of {e e' : Element} (start : e.Resembles v e')
      (children : Interleaves (Element.Varies v) v.Adds e.children e'.children) :
      Element.Varies v e e'

namespace Element.Varies

variable {v : Variation} {e e' : Element}

theorem start (h : Varies v e e') : e.Resembles v e' := by
  cases h with
  | of start _ => exact start

theorem children (h : Varies v e e') :
    Interleaves (Varies v) v.Adds e.children e'.children := by
  cases h with
  | of _ children => exact children

theorem refl (v : Variation) (e : Element) : Varies v e e :=
  .of ⟨rfl, rfl, rfl, rfl, fun _ => rfl, List.forall₂_same.mpr fun _ _ => ⟨rfl, rfl, .inl rfl⟩⟩
    (.of_forall₂ (List.forall₂_same.mpr fun c hc =>
      have := Schema.sizeOf_child_lt hc
      refl v c))
termination_by sizeOf e

theorem is_eq (h : Varies v e e') (ns name : String) : e'.is ns name = e.is ns name := by
  rw [Element.is, Element.is, h.start.ns, h.start.name]

/-! ### Attributes -/

theorem rel_value? (h : Varies v e e') (inNamespace : Option String → Bool) (name : String) :
    Option.Rel (v.Keeps e name)
      ((e.attributes.find? fun a => inNamespace a.ns && a.name == name).map (·.value))
      ((e'.attributes.find? fun a => inNamespace a.ns && a.name == name).map (·.value)) := by
  have found := rel_find? (p := fun a => inNamespace a.ns && a.name == name)
    (q := fun a => inNamespace a.ns && a.name == name) (fun a a' ha => by rw [ha.ns, ha.name])
    h.start.attributes
  generalize List.find? _ e.attributes = a, List.find? _ e'.attributes = a' at found
  cases found with
  | none => exact .none
  | some h =>
    obtain ⟨same, hname⟩ := h
    rw [Bool.and_eq_true, beq_iff_eq] at hname
    exact .some (hname.2 ▸ same.value)

theorem rel_attribute? (h : Varies v e e') (name : String) :
    Option.Rel (v.Keeps e name) (e.attribute? name) (e'.attribute? name) :=
  h.rel_value? (·.isNone) name

theorem rel_attributeIn? (h : Varies v e e') (ns name : String) :
    Option.Rel (v.Keeps e name) (e.attributeIn? ns name) (e'.attributeIn? ns name) :=
  h.rel_value? (· == some ns) name

theorem attribute?_eq (h : Varies v e e') {name : String} (kept : ¬ v.Respaces e name) :
    e'.attribute? name = e.attribute? name := by
  have rel := h.rel_attribute? name
  generalize e.attribute? name = a, e'.attribute? name = a' at rel
  cases rel with
  | none => rfl
  | some same => rw [same.eq kept]

theorem isSome_attribute? (h : Varies v e e') (name : String) :
    (e'.attribute? name).isSome = (e.attribute? name).isSome := by
  have rel := h.rel_attribute? name
  generalize e.attribute? name = a, e'.attribute? name = a' at rel
  cases rel with
  | none => rfl
  | some same => rfl

theorem trimmed?_eq (h : Varies v e e') (name : String) : trimmed? e' name = trimmed? e name := by
  have rel := h.rel_attribute? name
  rw [trimmed?, trimmed?]
  generalize e.attribute? name = a, e'.attribute? name = a' at rel
  cases rel with
  | none => rfl
  | some same => rw [Option.map_some, Option.map_some, same.trim_eq]

theorem resolve_eq (h : Varies v e e') {value value' : String} (same : trim value' = trim value) :
    e'.resolve value' = e.resolve value := by
  rw [resolve, resolve, same, h.start.scope]

/-! ### Children -/

theorem rel_child? (h : Varies v e e') {ns : String}
    (own : ns = Namespaces.schema ∨ ns = Namespaces.wsdl) (name : String) :
    Option.Rel (Varies v) (e.child? ns name) (e'.child? ns name) := by
  have found := h.children.find? (p := (·.is ns name)) (fun c c' hc => hc.is_eq ns name)
    (fun c added => by
      rw [Element.is, Bool.and_eq_false_iff]
      refine Or.inr (beq_eq_false_iff_ne.mpr fun same => Variation.not_adds ?_ added)
      rcases own with rfl | rfl
      · exact Or.inl same
      · exact Or.inr same)
  rw [child?, child?]
  generalize List.find? _ e.children = c, List.find? _ e'.children = c' at found
  cases found with
  | none => exact .none
  | some h => exact .some h.1

theorem documentation?_eq (h : Varies v e e') : documentation? e' = documentation? e := by
  have annotated := h.rel_child? (.inl rfl) "annotation"
  have inSchema : Option.Rel (Varies v)
      ((e.child? Namespaces.schema "annotation").bind (·.child? Namespaces.schema "documentation"))
      ((e'.child? Namespaces.schema "annotation").bind
        (·.child? Namespaces.schema "documentation")) := by
    generalize e.child? _ "annotation" = c, e'.child? _ "annotation" = c' at annotated
    cases annotated with
    | none => exact .none
    | some hc => exact hc.rel_child? (.inl rfl) "documentation"
  have inDefinitions := h.rel_child? (.inr rfl) "documentation"
  rw [documentation?, documentation?]
  generalize Option.bind (e.child? _ "annotation") _ = c,
    Option.bind (e'.child? _ "annotation") _ = c' at inSchema
  generalize e.child? _ "documentation" = d, e'.child? _ "documentation" = d' at inDefinitions
  cases inSchema with
  | some hc => rw [Option.some_or, Option.some_or, Option.map_some, Option.map_some, hc.start.text]
  | none =>
    cases inDefinitions with
    | none => rfl
    | some hd =>
      rw [Option.none_or, Option.none_or, Option.map_some, Option.map_some, hd.start.text]

end Element.Varies

end Xml

/-! ## Outcomes -/

/-- What reading an element and its variant comes to: values that are related, or two faults. -/
inductive Variation.Outcomes (v : Variation) {α : Type} (r : α → α → Prop) :
    Except Misreading α → Except Misreading α → Prop
  | ok {a a' : α} (same : r a a') : Outcomes v r (.ok a) (.ok a')
  | error {m m' : Misreading} (same : v = .extensions → m' = m) :
      Outcomes v r (.error m) (.error m')

/-- Two notes of one construct, perhaps with other white space around its quoted name. -/
inductive Skipped.Alike : Skipped → Skipped → Prop
  | same {construct : String} {position position' : Nat} :
      Alike ⟨construct, position⟩ ⟨construct, position'⟩
  | named {before name name' : String} {position position' : Nat} (same : trim name' = trim name) :
      Alike ⟨before ++ quoted name, position⟩ ⟨before ++ quoted name', position'⟩

/-- The notes that were taken of an element and of its variant. -/
def Variation.Noted : Variation → List Skipped → List Skipped → Prop
  | spacing, noted, noted' => List.Forall₂ Skipped.Alike noted noted'
  | extensions, _, _ => True

/-- Both readers give the same value, or both refuse. -/
def Reading.Agrees {α : Type} (v : Variation) (x x' : Reading α) : Prop :=
  ∀ noted noted', v.Noted noted noted' →
    v.Outcomes (fun r r' => r'.1 = r.1 ∧ v.Noted r.2 r'.2) (x.run noted) (x'.run noted')

/-- A relation of readers that holds where one reader comes after another if it holds of both. -/
structure Sequential {m : Type → Type} [Monad m] (agrees : (α : Type) → m α → m α → Prop) :
    Prop where
  pure {α : Type} (a : α) : agrees α (Pure.pure a) (Pure.pure a)
  bind {α β : Type} {x x' : m α} {k k' : α → m β} (first : agrees α x x')
    (next : ∀ a, agrees β (k a) (k' a)) : agrees β (x >>= k) (x' >>= k')

namespace Sequential

variable {m : Type → Type} [Monad m] {agrees : (α : Type) → m α → m α → Prop}
  {α β β' : Type} {r : β → β' → Prop} {bs : List β} {bs' : List β'}

theorem foldlM (h : Sequential agrees) {k : α → β → m α} {k' : α → β' → m α}
    (step : ∀ a b b', r b b' → agrees α (k a b) (k' a b')) (related : List.Forall₂ r bs bs')
    (a : α) : agrees α (bs.foldlM k a) (bs'.foldlM k' a) := by
  induction related generalizing a with
  | nil => exact h.pure a
  | cons same _ ih =>
    rw [List.foldlM_cons, List.foldlM_cons]
    exact h.bind (step a _ _ same) ih

theorem mapM [LawfulMonad m] (h : Sequential agrees) {k : β → m α} {k' : β' → m α}
    (step : ∀ b b', r b b' → agrees α (k b) (k' b')) (related : List.Forall₂ r bs bs') :
    agrees (List α) (bs.mapM k) (bs'.mapM k') := by
  induction related with
  | nil => exact h.pure []
  | cons same _ ih =>
    rw [List.mapM_cons, List.mapM_cons]
    exact h.bind (step _ _ same) fun a => h.bind ih fun as => h.pure (a :: as)

theorem forM (h : Sequential agrees) {k : β → m PUnit} {k' : β' → m PUnit}
    (step : ∀ b b', r b b' → agrees PUnit (k b) (k' b')) (related : List.Forall₂ r bs bs') :
    agrees PUnit (bs.forM k) (bs'.forM k') := by
  induction related with
  | nil => exact h.pure PUnit.unit
  | cons same _ ih => exact h.bind (step _ _ same) fun _ => ih

/-- Extra items may be left out of a loop that does nothing at them. -/
theorem foldlM_interleaves [LawfulMonad m] (h : Sequential agrees) {r : β → β → Prop}
    {extra : β → Prop} {bs bs' : List β} {k : α → β → m α}
    (step : ∀ a b b', r b b' → agrees α (k a b) (k a b'))
    (left : ∀ a b, extra b → agrees α (k a b) (Pure.pure a))
    (right : ∀ a b, extra b → agrees α (Pure.pure a) (k a b))
    (related : Interleaves r extra bs bs') (a : α) : agrees α (bs.foldlM k a) (bs'.foldlM k a) := by
  induction related generalizing a with
  | nil => exact h.pure a
  | both same _ ih =>
    rw [List.foldlM_cons, List.foldlM_cons]
    exact h.bind (step a _ _ same) ih
  -- The side without the item is taken to do nothing first.
  | @left b bs bs' apart _ ih =>
    rw [List.foldlM_cons, ← pure_bind a (fun a => bs'.foldlM k a)]
    exact h.bind (left a b apart) ih
  | @right b bs bs' apart _ ih =>
    rw [List.foldlM_cons, ← pure_bind a (fun a => bs.foldlM k a)]
    exact h.bind (right a b apart) ih

end Sequential

namespace Variation.Outcomes

variable {v : Variation} {α β : Type} {r : α → α → Prop} {s : β → β → Prop}
  {x x' : Except Misreading α}

theorem bind {k k' : α → Except Misreading β} (first : v.Outcomes r x x')
    (next : ∀ a a', r a a' → v.Outcomes s (k a) (k' a')) :
    v.Outcomes s (x >>= k) (x' >>= k') := by
  cases first with
  | ok same => exact next _ _ same
  | error same => exact .error same

theorem mono (h : v.Outcomes r x x') {s : α → α → Prop} (imp : ∀ a a', r a a' → s a a') :
    v.Outcomes s x x' := by
  cases h with
  | ok same => exact .ok (imp _ _ same)
  | error same => exact .error same

theorem map {f : α → β} (h : v.Outcomes Eq x x') : v.Outcomes Eq (x.map f) (x'.map f) := by
  cases h with
  | ok same => exact .ok (congrArg f same)
  | error same => exact .error same

theorem sequential (v : Variation) :
    Sequential fun α (x x' : Except Misreading α) => v.Outcomes Eq x x' where
  pure _ := .ok rfl
  bind first next := first.bind fun a _ same => same ▸ next a

end Variation.Outcomes

namespace Reading.Agrees

variable {v : Variation} {α β : Type} {x x' : Reading α}

theorem pure (a : α) : Agrees v (Pure.pure a) (Pure.pure a) :=
  fun _ _ noted => .ok ⟨rfl, noted⟩

theorem bind {k k' : α → Reading β} (first : Agrees v x x') (next : ∀ a, Agrees v (k a) (k' a)) :
    Agrees v (x >>= k) (x' >>= k') := by
  intro noted noted' same
  rw [StateT.run_bind, StateT.run_bind]
  refine (first noted noted' same).bind fun r r' h => ?_
  rw [h.1]
  exact next r.1 r.2 r'.2 h.2

theorem sequential (v : Variation) : Sequential fun α (x x' : Reading α) => Agrees v x x' :=
  ⟨pure, bind⟩

theorem lift_bind {r : α → α → Prop} {x x' : Except Misreading α} {k k' : α → Reading β}
    (first : v.Outcomes r x x') (next : ∀ a a', r a a' → Agrees v (k a) (k' a')) :
    Agrees v (liftM x >>= k) (liftM x' >>= k') := by
  intro noted noted' same
  cases first with
  | ok h => exact next _ _ h noted noted' same
  | error h => exact .error h

theorem lift {x x' : Except Misreading α} (h : v.Outcomes Eq x x') :
    Agrees v (liftM x : Reading α) (liftM x' : Reading α) := by
  intro noted noted' same
  cases h with
  | ok h => exact .ok ⟨h.symm, same⟩
  | error h => exact .error h

end Reading.Agrees

/-! ## Attributes -/

namespace Xml.Element.Varies

variable {v : Variation} {e e' : Element}

theorem describe_eq (h : Varies .extensions e e') : describe e' = describe e := by
  rw [describe, describe, h.start.name, h.attribute?_eq id, h.attribute?_eq id]

theorem misread_same (h : Varies v e e') {α : Type} {r : α → α → Prop} {fault fault' : SyntaxFault}
    (same : v = .extensions → fault' = fault) :
    v.Outcomes r (misread e fault) (misread e' fault') := by
  refine .error fun extended => ?_
  subst extended
  rw [h.describe_eq, h.start.position rfl, same rfl]

theorem required_keeps (h : Varies v e e') (name : String) :
    v.Outcomes (v.Keeps e name) (required e name) (required e' name) := by
  have rel := h.rel_attribute? name
  rw [required, required]
  generalize e.attribute? name = a, e'.attribute? name = a' at rel
  cases rel with
  | none => exact h.misread_same fun _ => rfl
  | @some a a' same =>
    -- A value is blank if nothing is left of it without the white space around it.
    have blank : isBlankText a' = isBlankText a := by
      rw [Bool.eq_iff_iff, isBlankText, isBlankText, List.all_eq_true, List.all_eq_true,
        ← trim_eq_empty_iff, ← trim_eq_empty_iff, same.trim_eq]
    dsimp only
    rw [blank]
    split
    · exact h.misread_same fun _ => rfl
    · exact .ok same

theorem required_same (h : Varies v e e') {name : String} (kept : ¬ v.Respaces e name) :
    v.Outcomes Eq (required e name) (required e' name) :=
  (h.required_keeps name).mono fun _ _ same => (same.eq kept).symm

theorem requiredName_same (h : Varies v e e') (kept : Variation.KeepsName e) :
    v.Outcomes Eq (required e "name") (required e' "name") :=
  h.required_same (Variation.not_respaces_name kept)

theorem qname_same (h : Varies v e e') (ctx : Context) {value value' : String}
    (same : trim value' = trim value) :
    v.Outcomes Eq (ctx.qname e value) (ctx.qname e' value') := by
  rw [Context.qname, Context.qname, h.resolve_eq same]
  cases e.resolve value with
  | error bound => exact h.misread_same fun _ => rfl
  | ok q => exact .ok rfl

theorem qname?_same (h : Varies v e e') (ctx : Context) (name : String) :
    v.Outcomes Eq (ctx.qname? e name) (ctx.qname? e' name) := by
  have rel := h.rel_attribute? name
  rw [Context.qname?, Context.qname?]
  generalize e.attribute? name = a, e'.attribute? name = a' at rel
  cases rel with
  | none => exact .ok rfl
  | some same => exact (h.qname_same ctx same.trim_eq).map

theorem requiredQName_same (h : Varies v e e') (ctx : Context) (name : String) :
    v.Outcomes Eq (ctx.requiredQName e name) (ctx.requiredQName e' name) := by
  rw [Context.requiredQName, Context.requiredQName]
  refine (Variation.Outcomes.sequential v).bind (h.qname?_same ctx name) fun q => ?_
  cases q with
  | none => exact h.misread_same fun _ => rfl
  | some q => exact .ok rfl

theorem readBool_same (h : Varies v e e') (name : String) :
    v.Outcomes Eq (readBool e name) (readBool e' name) := by
  rw [readBool, readBool, h.trimmed?_eq]
  cases trimmed? e name with
  | none => exact .ok rfl
  | some value =>
    dsimp only
    split
    · exact .ok rfl
    · split
      · exact .ok rfl
      · exact h.misread_same fun _ => rfl

theorem readWord_same (h : Varies v e e') {α : Type} (name : String) (absent : α)
    (words : List (String × α)) :
    v.Outcomes Eq (readWord e name absent words) (readWord e' name absent words) := by
  rw [readWord, readWord, h.trimmed?_eq]
  cases trimmed? e name with
  | none => exact .ok rfl
  | some value =>
    dsimp only
    cases words.lookup value with
    | some a => exact .ok rfl
    | none => exact h.misread_same fun _ => rfl

theorem readMinOccurs_same (h : Varies v e e') :
    v.Outcomes Eq (readMinOccurs e) (readMinOccurs e') := by
  have rel := h.rel_attribute? "minOccurs"
  rw [readMinOccurs, readMinOccurs]
  generalize e.attribute? "minOccurs" = a, e'.attribute? "minOccurs" = a' at rel
  cases rel with
  | none => exact .ok rfl
  | @some value value' same =>
    dsimp only
    rw [same.trim_eq]
    cases count? (trim value) with
    | some n => exact .ok rfl
    | none => exact h.misread_same fun extended => by subst extended; rw [same.eq id]

theorem readMaxOccurs_same (h : Varies v e e') :
    v.Outcomes Eq (readMaxOccurs e) (readMaxOccurs e') := by
  have rel := h.rel_attribute? "maxOccurs"
  rw [readMaxOccurs, readMaxOccurs]
  generalize e.attribute? "maxOccurs" = a, e'.attribute? "maxOccurs" = a' at rel
  cases rel with
  | none => exact .ok rfl
  | @some value value' same =>
    dsimp only
    rw [same.trim_eq]
    split
    · exact .ok rfl
    · cases count? (trim value) with
      | some n => exact .ok rfl
      | none => exact h.misread_same fun extended => by subst extended; rw [same.eq id]

theorem readOccurs_same (h : Varies v e e') : v.Outcomes Eq (readOccurs e) (readOccurs e') := by
  have seq := Variation.Outcomes.sequential v
  rw [readOccurs, readOccurs]
  refine seq.bind h.readMinOccurs_same fun min => seq.bind h.readMaxOccurs_same fun max => ?_
  cases max with
  | unbounded => exact .ok rfl
  | bounded n =>
    dsimp only
    split
    · exact h.misread_same fun _ => rfl
    · exact .ok rfl

/-! ## Notes -/

/-- A construct is described by its name, which may have other white space around it. -/
theorem describe_alike (h : Varies v e e') (before : String) (position position' : Nat) :
    Skipped.Alike ⟨before ++ describe e, position⟩ ⟨before ++ describe e', position'⟩ := by
  have name := h.rel_attribute? "name"
  have ref := h.rel_attribute? "ref"
  rw [describe, describe, h.start.name]
  generalize e.attribute? "name" = n, e'.attribute? "name" = n' at name
  generalize e.attribute? "ref" = r, e'.attribute? "ref" = r' at ref
  cases name with
  | some same =>
    dsimp only
    rw [← String.append_assoc, ← String.append_assoc, ← String.append_assoc,
      ← String.append_assoc]
    exact .named same.trim_eq
  | none =>
    cases ref with
    | none => exact .same
    | some same =>
      dsimp only
      rw [← String.append_assoc, ← String.append_assoc, ← String.append_assoc,
        ← String.append_assoc]
      exact .named same.trim_eq

theorem skip_agrees (h : Varies v e e') : Reading.Agrees v (skip e) (skip e') := by
  intro noted noted' same
  refine .ok ⟨rfl, ?_⟩
  cases v with
  | extensions => trivial
  | spacing =>
    refine .cons ?_ same
    rw [h.start.ns]
    have plain := h.describe_alike "" e.position e'.position
    rw [String.empty_append, String.empty_append] at plain
    cases e.ns with
    | none => exact plain
    | some ns =>
      dsimp only
      split
      · exact plain
      · exact h.describe_alike _ e.position e'.position

end Xml.Element.Varies

/-! ## Elements of one side only -/

namespace Variation.Adds

variable {v : Variation} {e : Element} {α : Type}

/-- To pass over an element of another language is to do nothing. -/
theorem skip_agrees (added : v.Adds e) (a : α) :
    Reading.Agrees v (skip e >>= fun _ => pure a) (pure a) := by
  cases v with
  | spacing => exact absurd added id
  | extensions => exact fun _ _ _ => .ok ⟨rfl, trivial⟩

theorem agrees_skip (added : v.Adds e) (a : α) :
    Reading.Agrees v (pure a) (skip e >>= fun _ => pure a) := by
  cases v with
  | spacing => exact absurd added id
  | extensions => exact fun _ _ _ => .ok ⟨rfl, trivial⟩

end Variation.Adds

end SoapBindings
