import Mathlib.Data.Nat.Digits.Defs
import Mathlib.Data.List.Forall2
import SoapBindings.Proofs.Xml.Markup
import SoapBindings.Proofs.Xml.Namespaces

/-!
# Escaped text

Five characters mean something in a document. A text is escaped when each of them is replaced by a
reference, be it one of the predefined names or a number in decimal or hexadecimal digits, chosen
anew at every place (`Escapes`). An attribute value is resolved as a whole, while content is cut
into text and references that are resolved one by one; both give the text back
(`readsAs_of_escapes`), and neither looks a second time at what it has resolved.

This is said of the simplest documents with such a value or such content, which are always accepted,
and of every element of every document that is accepted.
-/

set_option autoImplicit false

namespace SoapBindings.Xml

open Text

/-! ## Escaping -/

/-- The predefined entity of a character that is escaped. -/
def entity? : Char → Option (List Char)
  | '&' => some ['a', 'm', 'p']
  | '<' => some ['l', 't']
  | '>' => some ['g', 't']
  | '"' => some ['q', 'u', 'o', 't']
  | '\'' => some ['a', 'p', 'o', 's']
  | _ => none

/-- The character is the digit of a value, in either case. -/
def DigitOf (base value : Nat) (digit : Char) : Prop :=
  value < base ∧ (digit = value.digitChar ∨ digit = value.digitChar.toUpper)

/-- The digits write a number; zeros may stand in front of it. -/
def Numeral (base : Nat) (digits : List Char) (n : Nat) : Prop :=
  ∃ values, values ≠ [] ∧ List.Forall₂ (DigitOf base) values digits ∧
    Nat.ofDigits base values.reverse = n

/-- What a reference to a character has between `&` and `;`. -/
inductive RefersTo (c : Char) : List Char → Prop
  | entity {name} (h : entity? c = some name) : RefersTo c name
  | decimal {digits} (h : Numeral 10 digits c.toNat) : RefersTo c ('#' :: digits)
  | hexadecimal {digits} (h : Numeral 16 digits c.toNat) : RefersTo c ('#' :: 'x' :: digits)

/-- A text with references in the place of the five characters that are escaped. -/
inductive Escapes : List Char → List Char → Prop
  | nil : Escapes [] []
  | plain {c text escaped} (h : entity? c = none) (rest : Escapes text escaped) :
      Escapes (c :: text) (c :: escaped)
  | reference {c name text escaped} (h : (entity? c).isSome) (refers : RefersTo c name)
      (rest : Escapes text escaped) : Escapes (c :: text) ('&' :: (name ++ ';' :: escaped))

/-! ## References -/

theorem entity?_eq_some {c : Char} {name : List Char} (h : entity? c = some name) :
    (c = '&' ∧ name = ['a', 'm', 'p']) ∨ (c = '<' ∧ name = ['l', 't']) ∨
      (c = '>' ∧ name = ['g', 't']) ∨ (c = '"' ∧ name = ['q', 'u', 'o', 't']) ∨
      (c = '\'' ∧ name = ['a', 'p', 'o', 's']) := by
  unfold entity? at h
  split at h <;> simp_all

theorem ne_of_entity?_eq_none {c d : Char} (h : entity? c = none) (marked : (entity? d).isSome) :
    c ≠ d := by
  rintro rfl
  rw [h] at marked
  cases marked

/-- In a base up to sixteen a digit in either case has its value, and it is none of the characters
that are escaped or end a reference. -/
theorem digitOf_cases {base value : Nat} {digit : Char} (h : DigitOf base value digit)
    (small : base ≤ 16) :
    digitValue? base digit = some value ∧ entity? digit = none ∧ digit ≠ ';' ∧ digit ≠ 'x' := by
  have hexadecimal : ∀ value < 16, [value.digitChar, value.digitChar.toUpper].all fun digit =>
      digitValue? 16 digit = some value ∧ entity? digit = none ∧ digit ≠ ';' ∧ digit ≠ 'x' := by
    decide
  obtain ⟨below, spelled⟩ := h
  obtain ⟨found, apart⟩ := of_decide_eq_true
    (List.all_eq_true.mp (hexadecimal value (by omega)) digit (by simpa using spelled))
  refine ⟨?_, apart⟩
  have narrower : digitValue? base digit = (digitValue? 16 digit).filter (· < base) := by
    rw [digitValue?, digitValue?, Option.filter_filter]
    congr 1
    funext n
    simp
    omega
  rw [narrower, found]
  simpa using below

theorem foldlM_digits {base : Nat} (small : base ≤ 16) {values : List Nat} {digits : List Char}
    (h : List.Forall₂ (DigitOf base) values digits) (n : Nat) :
    digits.foldlM (fun n c => (digitValue? base c).map (n * base + ·)) n =
      some (values.foldl (fun n value => value + base * n) n) := by
  induction h generalizing n with
  | nil => rfl
  | cons digit _ ih =>
    rw [List.foldlM_cons, (digitOf_cases digit small).1, List.foldl_cons, ← ih]
    simp [Nat.add_comm, Nat.mul_comm]

theorem number?_of_numeral {base : Nat} {digits : List Char} {n : Nat}
    (h : Numeral base digits n) (small : base ≤ 16) : number? base digits = some n := by
  obtain ⟨values, nonempty, spelled, rfl⟩ := h
  have digitsNonempty : digits.isEmpty = false := by
    cases spelled with
    | nil => exact absurd rfl nonempty
    | cons => rfl
  rw [number?, digitsNonempty, Nat.ofDigits_eq_foldr, List.foldr_reverse]
  exact foldlM_digits small spelled 0

/-- Digits are none of the characters that are escaped or end a reference. -/
theorem Numeral.apart {base : Nat} {digits : List Char} {n : Nat} (h : Numeral base digits n)
    (small : base ≤ 16) : ∀ c ∈ digits, entity? c = none ∧ c ≠ ';' ∧ c ≠ 'x' := by
  obtain ⟨values, _, spelled, _⟩ := h
  intro c hc
  obtain ⟨value, _, digit⟩ := exists_mem_of_forall₂ spelled.flip hc
  exact (digitOf_cases digit small).2

theorem RefersTo.apart {c : Char} {name : List Char} (h : RefersTo c name) :
    ∀ d ∈ name, entity? d = none ∧ d ≠ ';' := by
  cases h with
  | entity h =>
    rcases entity?_eq_some h with ⟨-, rfl⟩ | ⟨-, rfl⟩ | ⟨-, rfl⟩ | ⟨-, rfl⟩ | ⟨-, rfl⟩ <;>
      simp [entity?]
  | decimal h =>
    refine List.forall_mem_cons.mpr ⟨by decide, fun d hd => ?_⟩
    obtain ⟨plain, semicolon, _⟩ := h.apart (by decide) d hd
    exact ⟨plain, semicolon⟩
  | hexadecimal h =>
    refine List.forall_mem_cons.mpr ⟨by decide, List.forall_mem_cons.mpr ⟨by decide, ?_⟩⟩
    intro d hd
    obtain ⟨plain, semicolon, _⟩ := h.apart (by decide) d hd
    exact ⟨plain, semicolon⟩

/-- A reference to one of the five characters names it. -/
theorem resolve?_of_refersTo {c : Char} {name : List Char} (h : RefersTo c name)
    (marked : (entity? c).isSome) : resolve? name = some c := by
  obtain ⟨entity, named⟩ := Option.isSome_iff_exists.mp marked
  have number : character? c.toNat = some c := by
    rcases entity?_eq_some named with ⟨rfl, -⟩ | ⟨rfl, -⟩ | ⟨rfl, -⟩ | ⟨rfl, -⟩ | ⟨rfl, -⟩ <;>
      decide
  cases h with
  | entity h =>
    rcases entity?_eq_some h with ⟨rfl, rfl⟩ | ⟨rfl, rfl⟩ | ⟨rfl, rfl⟩ | ⟨rfl, rfl⟩ | ⟨rfl, rfl⟩ <;>
      rfl
  | decimal h =>
    rw [resolve?, number?_of_numeral h (by decide), Option.bind_some, number]
    rintro digits rfl
    exact (h.apart (by decide) 'x' List.mem_cons_self).2.2 rfl
  | hexadecimal h => rw [resolve?, number?_of_numeral h (by decide), Option.bind_some, number]

namespace Escapes

variable {text escaped : List Char}

/-- No character of an escaped text is one of the five, other than `&`. -/
theorem apart (h : Escapes text escaped) : ∀ c ∈ escaped, c = '&' ∨ entity? c = none := by
  induction h with
  | nil =>
    intro c hc
    cases hc
  | plain h _ ih => exact List.forall_mem_cons.mpr ⟨Or.inr h, ih⟩
  | reference _ refers _ ih =>
    intro c hc
    rcases List.mem_cons.mp hc with rfl | hc
    · exact Or.inl rfl
    · rcases List.mem_append.mp hc with named | hc
      · exact Or.inr (refers.apart c named).1
      · rcases List.mem_cons.mp hc with rfl | later
        · exact Or.inr rfl
        · exact ih c later

theorem resolveAll?_eq (h : Escapes text escaped) : resolveAll? escaped = some text := by
  induction h with
  | nil => rw [resolveAll?]
  | plain h _ ih =>
    rw [resolveAll?_of_ne (ne_of_entity?_eq_none h rfl), ih, Option.map_some]
  | reference marked refers _ ih =>
    have solid : ';' ∉ _ := fun has => (refers.apart _ has).2 rfl
    have sole : '&' ∉ _ := fun has => ne_of_entity?_eq_none (refers.apart _ has).1 rfl rfl
    rw [resolveAll?_reference solid sole (resolve?_of_refersTo refers marked), ih,
      Option.map_some]

/-- As the value of an attribute. -/
theorem attributeValue_eq (h : Escapes text escaped) : attributeValue escaped = text := by
  rw [attributeValue, h.resolveAll?_eq, Option.getD_some]

end Escapes

theorem isPlain_of_entity?_eq_none {c : Char} (h : entity? c = none) : isPlain c := by
  have tag := ne_of_entity?_eq_none h (d := '<') rfl
  have reference := ne_of_entity?_eq_none h (d := '&') rfl
  simp [isPlain, tag, reference]

/-- In front of a tag an escaped text is cut into tokens of its own, which spell out the text. -/
theorem Escapes.tokenize {text escaped : List Char} (h : Escapes text escaped) (body : List Char) :
    ∃ tokens pieces, Spell tokens pieces ∧ pieces.flatten = text ∧
      tokenize (escaped ++ '<' :: body) =
        (tokens ++ (tokenize ('<' :: body)).1, (tokenize ('<' :: body)).2) := by
  induction h with
  | nil => exact ⟨[], [], .nil, rfl, rfl⟩
  | @reference c name text escaped marked refers rest ih =>
    obtain ⟨tokens, pieces, spell, joined, tail⟩ := ih
    have solid : ∀ d ∈ name, endsReference d = false := by
      intro d hd
      obtain ⟨plain, semicolon⟩ := refers.apart d hd
      have tag := ne_of_entity?_eq_none plain (d := '<') rfl
      have reference := ne_of_entity?_eq_none plain (d := '&') rfl
      simp [endsReference, semicolon, tag, reference]
    have found : (Token.reference name).chars? = some [c] := by
      rw [Token.chars?, resolve?_of_refersTo refers marked, Option.map_some]
    refine ⟨.reference name :: tokens, [c] :: pieces, .cons found spell, by simp [joined], ?_⟩
    rw [List.cons_append, List.append_assoc, List.cons_append, tokenize_reference solid, tail]
    rfl
  | @plain c text escaped h rest ih =>
    obtain ⟨tokens, pieces, spell, joined, tail⟩ := ih
    have plain := isPlain_of_entity?_eq_none h
    cases rest with
    | nil | reference =>
      refine ⟨.text [c] :: tokens, [c] :: pieces, .cons rfl spell, by simp [joined], ?_⟩
      rw [List.cons_append, tokenize_plain plain]
      exact congrArg (fun cut => (Token.text [c] :: cut.1, cut.2)) tail
    | @plain d text escaped next =>
      obtain ⟨chars, more, cut, longer⟩ :=
        tokenize_plain_plain plain (isPlain_of_entity?_eq_none next) (escaped ++ '<' :: body)
      rw [List.cons_append] at tail
      rw [List.cons_append, List.cons_append, longer]
      rw [tail] at cut ⊢
      cases spell with
      | nil => cases joined
      | @cons token piece tokens pieces here spell =>
        obtain ⟨rfl, rfl⟩ := List.cons.inj (Prod.mk.inj cut).1
        obtain rfl := Option.some.inj here
        refine ⟨.text (c :: chars) :: tokens, (c :: chars) :: pieces, .cons rfl spell, ?_, rfl⟩
        rw [← joined]
        rfl

/-! ## Reading back -/

/-- Wherever the escaped text stands in a document, it is read as the text. -/
structure ReadsAs (text escaped : List Char) : Prop where
  /-- The value of an attribute of the root. -/
  rootAttribute : ∀ name key quote, IsPlainName name → IsPlainName key →
    key ≠ ['x', 'm', 'l', 'n', 's'] → quote = '"' ∨ quote = '\'' →
    Element.ofText (attributeDocument name key quote escaped) =
      .ok ⟨none, String.ofList name, [⟨none, String.ofList key, String.ofList text⟩], [], "", 0, []⟩
  /-- The content of the root. -/
  rootContent : ∀ name, IsPlainName name →
    Element.ofText (contentDocument name escaped) =
      .ok ⟨none, String.ofList name, [], [], trim (String.ofList text), 0, []⟩
  /-- The value of any attribute, as its start tag has it. -/
  anyAttribute : ∀ document root e above, Element.ofText document = .ok root →
    StandsUnder root e above →
    ∃ content raw, (startTags 0 (documentTokens document)).lookup e.position = some content ∧
      tagAttributes (bareTag content) = .ok raw ∧
      List.Forall₂ (fun a written => written.value = escaped → a.value = String.ofList text)
        e.attributes (raw.filter fun a => !declares a.key)
  /-- The content of any element, from behind its start tag up to an end tag. -/
  anyContent : ∀ document root e above before content after, Element.ofText document = .ok root →
    StandsUnder root e above →
    withoutMarks document =
      before ++ '<' :: (content ++ '>' :: (escaped ++ '<' :: '/' :: after)) →
    byteWidth before = e.position →
    (startTags 0 (documentTokens document)).lookup e.position = some content →
    ¬ isEmptyTag content → e.children = [] ∧ e.text = trim (String.ofList text)

/-- Between the start tag and an end tag of an element nothing but an escaped text gives the element
the text and no children. -/
theorem StandsIn.escaped {scope : Scope} {cs : List Char} {e : Element}
    {text escaped before content after : List Char} (fine : (tokenize cs).2 = none)
    (stands : StandsIn scope 0 (tokenize cs).1 e) (h : Escapes text escaped)
    (whole : cs = before ++ '<' :: (content ++ '>' :: (escaped ++ '<' :: '/' :: after)))
    (place : byteWidth before = e.position)
    (tag : (startTags 0 (tokenize cs).1).lookup e.position = some content)
    (full : ¬ isEmptyTag content) : e.children = [] ∧ e.text = trim (String.ofList text) := by
  obtain ⟨front, content', inside, back, pieces, split, opened, inner, read, _, closed⟩ := stands
  have position : e.position = byteWidth (sources front) := by
    rw [opened.startedBy.1, Nat.zero_add, width]
  obtain rfl : content' = content := by
    have found : (startTags 0 (tokenize cs).1).lookup e.position = some content' := by
      rw [split, lookup_startTags, startTags_append, startTags_opening, position, Nat.zero_add]
      exact List.mem_append_right _ List.mem_cons_self
    exact Option.some.inj (found.symm.trans tag)
  obtain ⟨name, more, rfl, _⟩ := closed full
  -- Both ways of cutting the document give the same text behind the start tag.
  have behind : sources (inside ++ .closing name :: more) = escaped ++ '<' :: '/' :: after := by
    rw [← source_tokenize fine, split, sources_append, sources_cons] at whole
    have rest := (eq_of_byteWidth_eq whole (position.symm.trans place.symm)).2
    simpa [Token.source] using rest
  have cut := tokenize_of_append fine (split.trans (List.append_cons _ _ _))
  obtain ⟨tokens, spelled, spell, joined, tail⟩ := h.tokenize ('/' :: after)
  rw [behind, tail] at cut
  obtain ⟨first, rest⟩ := Prod.mk.inj cut
  obtain ⟨name', more', ends⟩ := exists_closing rest
  rw [ends] at first
  -- The escaped text is balanced, so the end tag behind it is the one that closes the element.
  obtain ⟨rfl, _⟩ := spell.balanced.eq_of_append inner.balanced first
  obtain ⟨none, rfl⟩ := spell.content_iff.mp inner
  exact ⟨none, by rw [read, joined, trim, String.toList_ofList]⟩

/-- Unescaping undoes escaping. -/
theorem readsAs_of_escapes {text escaped : List Char} (h : Escapes text escaped) :
    ReadsAs text escaped := by
  have value := h.attributeValue_eq
  refine ⟨fun name key quote named keyed other quoted => ?_, fun name named => ?_,
    fun document root e above accepted under => ?_,
    fun document root e above before content after accepted under whole place tag full => ?_⟩
  · have inside : quote ∉ escaped := by
      intro has
      rcases h.apart _ has with rfl | plain
      · rcases quoted with same | same <;> cases same
      · rcases quoted with rfl | rfl <;> cases plain
    rw [ofText_attributeDocument named keyed other quoted inside, value]
  · obtain ⟨tokens, pieces, spell, joined, cut⟩ := h.tokenize ('/' :: (name ++ ['>']))
    rw [ofText_contentDocument named spell cut, joined, trim, String.toList_ofList]
  · obtain ⟨content, raw, found, attributes, _, written⟩ := (namesResolve_ofText accepted under).tag
    refine ⟨content, raw, found, attributes, written.imp fun a raw here same => ?_⟩
    rw [here.2, RawAttribute.text, same, value]
  · exact (standsIn_ofText accepted under).escaped (ofText_eq_ok accepted).1 h whole place tag full

/-- A name, a decimal and a hexadecimal number. The text itself looks like a reference, which is not
read a second time. -/
theorem readsAs_of_escapes_mixed :
    Escapes "&lt;<\"".toList "&#038;lt;&lt;&#x22;".toList ∧
      ReadsAs "&lt;<\"".toList "&#038;lt;&lt;&#x22;".toList := by
  have ampersand : RefersTo '&' ['#', '0', '3', '8'] :=
    .decimal ⟨[0, 3, 8], List.cons_ne_nil _ _, by simp [DigitOf], by decide⟩
  have less : RefersTo '<' ['l', 't'] := .entity rfl
  have quote : RefersTo '"' ['#', 'x', '2', '2'] :=
    .hexadecimal ⟨[2, 2], List.cons_ne_nil _ _, by simp [DigitOf], by decide⟩
  have escapes := Escapes.reference rfl ampersand <| .plain (c := 'l') rfl <|
    .plain (c := 't') rfl <| .plain (c := ';') rfl <| .reference rfl less <|
    .reference rfl quote .nil
  exact ⟨escapes, readsAs_of_escapes escapes⟩

end SoapBindings.Xml
