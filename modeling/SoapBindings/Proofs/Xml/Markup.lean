import SoapBindings.Proofs.Text.Split
import SoapBindings.Proofs.Xml.Nesting

/-!
# Markup as it is written

How a document that is written piece by piece is read. Text, references and tags in front of other
text are cut off as tokens of their own, an attribute in quotes is read as it is written, and a tag
without prefixes and declarations gives an element in no namespace. A tag may have anything inside
whose quotes pair up and that has no `>` outside of them (`IsTagContent`).

Tokens can spell out a text (`Spell`). They stand for this text and no element, in every place.
-/

set_option autoImplicit false

namespace SoapBindings.Xml

open Text

/-! ## Tokens of a text -/

theorem tokenize_nil : tokenize [] = ([], none) := by
  rw [tokenize, dif_pos rfl]

theorem takeToken_plain {c : Char} (h : isPlain c) (cs : List Char) :
    ∃ taken, takeToken (c :: cs) (List.cons_ne_nil _ _) = .ok taken ∧
      taken.token = .text (c :: cs.takeWhile isPlain) ∧ taken.rest = cs.dropWhile isPlain := by
  obtain ⟨tag, reference⟩ : c ≠ '<' ∧ c ≠ '&' := by simpa [isPlain] using h
  rw [takeToken]
  · exact ⟨_, rfl, rfl, rfl⟩
  · exact fun _ same _ => tag same
  · exact fun _ same _ => reference same

theorem tokenize_plain {c : Char} (h : isPlain c) (cs : List Char) :
    tokenize (c :: cs) = (.text (c :: cs.takeWhile isPlain) :: (tokenize (cs.dropWhile isPlain)).1,
      (tokenize (cs.dropWhile isPlain)).2) := by
  obtain ⟨taken, took, token, rest⟩ := takeToken_plain h cs
  rw [tokenize_of_taken took, token, rest]

theorem tokenize_reference {name : List Char} (solid : ∀ c ∈ name, endsReference c = false)
    (cs : List Char) : tokenize ('&' :: (name ++ ';' :: cs)) =
      (.reference name :: (tokenize cs).1, (tokenize cs).2) := by
  have inside : ∀ c ∈ name, (!endsReference c) = true := fun c hc => by simp [solid c hc]
  have dropped : (name ++ ';' :: cs).dropWhile (!endsReference ·) = ';' :: cs := by
    rw [List.dropWhile_append_of_pos inside]
    rfl
  have taken : (name ++ ';' :: cs).takeWhile (!endsReference ·) = name := by
    rw [List.takeWhile_append_of_pos inside]
    exact List.append_nil _
  have took : ∃ taken, takeToken ('&' :: (name ++ ';' :: cs)) (List.cons_ne_nil _ _) = .ok taken ∧
      taken.token = .reference name ∧ taken.rest = cs := by
    rw [takeToken, takeReference]
    split
    · next rest whole =>
      rw [dropped] at whole
      cases whole
      exact ⟨_, rfl, congrArg Token.reference taken, rfl⟩
    · next other => exact absurd dropped (other _)
  obtain ⟨taken, took, token, rest⟩ := took
  rw [tokenize_of_taken took, token, rest]

/-- A character joins the token behind it if this is one of text. -/
theorem tokenize_plain_plain {c d : Char} (h : isPlain c) (next : isPlain d) (cs : List Char) :
    ∃ chars tokens, tokenize (d :: cs) = (.text chars :: tokens, (tokenize (d :: cs)).2) ∧
      tokenize (c :: d :: cs) = (.text (c :: chars) :: tokens, (tokenize (d :: cs)).2) := by
  refine ⟨d :: cs.takeWhile isPlain, (tokenize (cs.dropWhile isPlain)).1, ?_, ?_⟩
  · rw [tokenize_plain next]
  · rw [tokenize_plain h, List.takeWhile_cons_of_pos next, List.dropWhile_cons_of_pos next,
      tokenize_plain next]

/-- Tokens that spell out a text, each with the piece of it that it adds. -/
def Spell (tokens : List Token) (pieces : List (List Char)) : Prop :=
  List.Forall₂ (fun token piece => token.chars? = some piece) tokens pieces

theorem Token.not_isSkipped {token : Token} {piece : List Char} (h : token.chars? = some piece) :
    ¬ token.isSkipped := by
  cases token with
  | text | cdata | reference => exact Bool.false_ne_true
  | _ => cases h

/-- Tokens that spell out a text stand for this text alone. -/
theorem Spell.content_iff {tokens : List Token} {pieces : List (List Char)}
    (h : Spell tokens pieces) {scope : Scope} {start : Nat} {elements : List Element}
    {texts : List (List Char)} :
    Content scope start tokens elements texts ↔ elements = [] ∧ texts = pieces := by
  constructor
  · intro content
    induction content generalizing pieces with
    | nil =>
      cases h
      exact ⟨rfl, rfl⟩
    | chars found _ ih =>
      obtain _ | ⟨here, later⟩ := h
      obtain ⟨rfl, rfl⟩ := ih later
      rw [found] at here
      cases here
      exact ⟨rfl, rfl⟩
    | skip skipped =>
      obtain _ | ⟨here, _⟩ := h
      exact absurd skipped (Token.not_isSkipped here)
    | emptyTag | element =>
      obtain _ | ⟨here, _⟩ := h
      cases here
  · rintro ⟨rfl, rfl⟩
    induction h generalizing start with
    | nil => exact .nil
    | cons here _ ih => exact .chars here ih

theorem Spell.balanced {tokens : List Token} {pieces : List (List Char)} (h : Spell tokens pieces) :
    Balanced tokens := by
  have content : Content [] 0 tokens [] pieces := h.content_iff.mpr ⟨rfl, rfl⟩
  exact content.balanced

/-! ## Tags -/

/-- The text is all of a tag: quotes pair up, and no `>` stands outside of them. It begins in a
quote or outside of quotes. -/
def IsTagContent : Option Char → List Char → Prop
  | none, [] => True
  | some _, [] => False
  | none, c :: cs =>
    c ≠ '>' ∧ IsTagContent (if c = '"' ∨ c = '\'' then some c else none) cs
  | some quote, c :: cs => IsTagContent (if c = quote then none else some quote) cs

theorem tagEnd?_of_isTagContent {quote : Option Char} {content : List Char}
    (h : IsTagContent quote content) (rest : List Char) :
    ∃ cut, tagEnd? quote (content ++ '>' :: rest) = some cut ∧ cut.before = content ∧
      cut.after = rest := by
  induction content generalizing quote with
  | nil =>
    cases quote with
    | none => exact ⟨⟨[], rest, rfl⟩, by simp [tagEnd?], rfl, rfl⟩
    | some quote => cases h
  | cons c content ih =>
    cases quote with
    | none =>
      obtain ⟨inside, later⟩ := h
      obtain ⟨cut, found, whole, behind⟩ := ih later
      exact ⟨⟨c :: cut.before, cut.after, congrArg (c :: ·) cut.whole⟩,
        by simp [tagEnd?, inside, found], congrArg (c :: ·) whole, behind⟩
    | some quote =>
      obtain ⟨cut, found, whole, behind⟩ := ih h
      exact ⟨⟨c :: cut.before, cut.after, congrArg (c :: ·) cut.whole⟩,
        by simp [tagEnd?, found], congrArg (c :: ·) whole, behind⟩

theorem isTagContent_append {cs : List Char} (h : ∀ c ∈ cs, c ≠ '>' ∧ c ≠ '"' ∧ c ≠ '\'')
    (rest : List Char) : IsTagContent none (cs ++ rest) ↔ IsTagContent none rest := by
  induction cs with
  | nil => rfl
  | cons c cs ih =>
    obtain ⟨⟨ends, double, single⟩, others⟩ := List.forall_mem_cons.mp h
    rw [← ih others]
    simp [IsTagContent, ends, double, single]

theorem isTagContent_quoted {quote : Char} (h : quote = '"' ∨ quote = '\'') {value : List Char}
    (inside : quote ∉ value) (rest : List Char) :
    IsTagContent none (quote :: (value ++ quote :: rest)) ↔ IsTagContent none rest := by
  have value : IsTagContent (some quote) (value ++ quote :: rest) ↔ IsTagContent none rest := by
    induction value with
    | nil => simp [IsTagContent]
    | cons c value ih =>
      rw [List.mem_cons, not_or] at inside
      rw [List.cons_append, IsTagContent, if_neg (Ne.symm inside.1), ih inside.2]
  rw [IsTagContent, if_pos h, value, and_iff_right]
  rcases h with rfl | rfl <;> decide

theorem tokenize_opening {c : Char} {content : List Char} (h : IsTagContent none (c :: content))
    (mark : c ∉ ['!', '/', '?']) (rest : List Char) :
    tokenize ('<' :: (c :: content ++ '>' :: rest)) =
      (.opening (c :: content) :: (tokenize rest).1, (tokenize rest).2) := by
  obtain ⟨cut, found, whole, behind⟩ := tagEnd?_of_isTagContent h rest
  have took : takeToken ('<' :: (c :: content ++ '>' :: rest)) (List.cons_ne_nil _ _) =
      takeOpening (c :: content ++ '>' :: rest) := by
    obtain ⟨exclamation, slash, question⟩ : c ≠ '!' ∧ c ≠ '/' ∧ c ≠ '?' := by simpa using mark
    rw [takeToken, List.cons_append, takeMarkup]
    all_goals simp [exclamation, slash, question]
  rw [takeOpening, found] at took
  rw [tokenize_of_taken took]
  simp [whole, behind]

theorem tokenize_closing {content : List Char} (h : IsTagContent none content) (rest : List Char) :
    tokenize ('<' :: '/' :: (content ++ '>' :: rest)) =
      (.closing content :: (tokenize rest).1, (tokenize rest).2) := by
  obtain ⟨cut, found, whole, behind⟩ := tagEnd?_of_isTagContent h rest
  have took : takeToken ('<' :: '/' :: (content ++ '>' :: rest)) (List.cons_ne_nil _ _) =
      takeClosing (content ++ '>' :: rest) := by
    rw [takeToken, takeMarkup]
  rw [takeClosing, found] at took
  rw [tokenize_of_taken took]
  simp [whole, behind]

/-- Where `</` can be cut off it begins an end tag. -/
theorem exists_closing {body : List Char} (fine : (tokenize ('<' :: '/' :: body)).2 = none) :
    ∃ name more, (tokenize ('<' :: '/' :: body)).1 = .closing name :: more := by
  have took : takeToken ('<' :: '/' :: body) (List.cons_ne_nil _ _) = takeClosing body := by
    rw [takeToken, takeMarkup]
  rw [takeClosing] at took
  cases ends : tagEnd? none body with
  | none =>
    rw [ends] at took
    rw [tokenize, dif_neg (List.cons_ne_nil _ _), took] at fine
    cases fine
  | some cut =>
    rw [ends] at took
    exact ⟨cut.before, _, by rw [tokenize_of_taken took]⟩

/-! ## Attributes -/

theorem readValue_quoted {quote : Char} (h : quote = '"' ∨ quote = '\'') {value : List Char}
    (inside : quote ∉ value) (rest : List Char) (offset : Nat) :
    ∃ read, readValue (quote :: (value ++ quote :: rest)) offset = .ok read ∧ read.1 = value ∧
      read.2.1.1 = rest := by
  have space : isSpace quote = false := by rcases h with rfl | rfl <;> rfl
  have other : ∀ c ∈ value, decide (c ≠ quote) = true := fun c hc => by
    exact decide_eq_true fun same => inside (same ▸ hc)
  have taken : (value ++ quote :: rest).takeWhile (· ≠ quote) = value := by
    rw [List.takeWhile_append_of_pos other]
    simp
  have dropped : (value ++ quote :: rest).dropWhile (· ≠ quote) = quote :: rest := by
    rw [List.dropWhile_append_of_pos other]
    simp
  unfold readValue
  dsimp only
  split
  · next whole => simp [space] at whole
  · next whole =>
    simp only [List.dropWhile_cons, space] at whole
    cases whole
    rw [if_pos h]
    split
    · next behind =>
      rw [dropped] at behind
      cases behind
    · next behind =>
      rw [dropped] at behind
      cases behind
      exact ⟨_, rfl, taken, rfl⟩

theorem readAttribute_quoted {earlier : List RawAttribute} {first quote : Char}
    {key value : List Char} (plain : ∀ c ∈ key, endsKey c = false)
    (h : quote = '"' ∨ quote = '\'') (inside : quote ∉ value)
    (fresh : first :: key ∉ earlier.map (·.key)) (rest : List Char) (offset : Nat) :
    ∃ read, readAttribute earlier first (key ++ '=' :: quote :: (value ++ quote :: rest)) offset =
      .ok read ∧ read.raw = ⟨offset, first :: key, value⟩ ∧ read.rest = rest := by
  have within : ∀ c ∈ key, (!endsKey c) = true := fun c hc => by simp [plain c hc]
  have taken : (key ++ '=' :: quote :: (value ++ quote :: rest)).takeWhile (!endsKey ·) = key := by
    rw [List.takeWhile_append_of_pos within]
    exact List.append_nil _
  have dropped : (key ++ '=' :: quote :: (value ++ quote :: rest)).dropWhile (!endsKey ·) =
      '=' :: quote :: (value ++ quote :: rest) := by
    rw [List.dropWhile_append_of_pos within]
    rfl
  have absent : earlier.find? (·.key = first :: key) = none := by
    simpa using fresh
  unfold readAttribute
  dsimp only
  split
  · next body whole =>
    rw [dropped] at whole
    cases whole
    have value (offset : Nat) := readValue_quoted h inside rest offset
    simp only [taken, absent]
    split
    · next fault failed =>
      obtain ⟨read, found, _⟩ := value _
      rw [failed] at found
      cases found
    · next result _ _ found =>
      obtain ⟨read, found', same, behind⟩ := value _
      rw [found] at found'
      cases found'
      exact ⟨_, rfl, congrArg (RawAttribute.mk offset (first :: key)) same, behind⟩
  · next other =>
    rw [dropped] at other
    exact absurd rfl (other _)

theorem readAttributes_nil (earlier : List RawAttribute) (offset : Nat) :
    readAttributes earlier [] offset = .ok earlier.reverse := by
  rw [readAttributes]
  rfl

/-- An attribute behind a space, at the front of a text. -/
theorem readAttributes_quoted {earlier : List RawAttribute} {first quote : Char}
    {key value : List Char} (start : isSpace first = false) (plain : ∀ c ∈ key, endsKey c = false)
    (h : quote = '"' ∨ quote = '\'') (inside : quote ∉ value)
    (fresh : first :: key ∉ earlier.map (·.key)) (rest : List Char) (offset : Nat) :
    ∃ next, readAttributes earlier
        (' ' :: (first :: key ++ '=' :: quote :: (value ++ quote :: rest))) offset =
      readAttributes (⟨offset + 1, first :: key, value⟩ :: earlier) rest next := by
  have dropped (cs : List Char) : (' ' :: (first :: cs)).dropWhile isSpace = first :: cs := by
    rw [List.dropWhile_cons_of_pos (by rfl), List.dropWhile_cons_of_neg (by simp [start])]
  have width (cs : List Char) : byteWidth ((' ' :: (first :: cs)).takeWhile isSpace) = 1 := by
    rw [List.takeWhile_cons_of_pos (by rfl), List.takeWhile_cons_of_neg (by simp [start])]
    rfl
  rw [readAttributes]
  split
  · next whole =>
    rw [List.cons_append, dropped] at whole
    cases whole
  · next first' body whole =>
    rw [List.cons_append, dropped] at whole
    cases whole
    obtain ⟨read, found, raw, behind⟩ :=
      readAttribute_quoted plain h inside fresh rest (offset + 1)
    simp only [List.cons_append, width]
    rw [found]
    refine ⟨read.restOffset, ?_⟩
    change readAttributes (read.raw :: earlier) read.rest _ = _
    rw [raw, behind]

/-! ## Elements -/

/-- Without prefixes and declarations everything on a tag is in no namespace. -/
theorem openElement_of_unbound {content : List Char} {raw : List RawAttribute}
    (attributes : tagAttributes content = .ok raw) (named : ':' ∉ tagName content)
    (plain : ∀ a ∈ raw, ':' ∉ a.key ∧ a.key ≠ ['x', 'm', 'l', 'n', 's']) (position : Nat) :
    openElement [] content position = .ok ⟨none, String.ofList (tagName content),
      raw.map fun a => ⟨none, String.ofList a.key, String.ofList (attributeValue a.value)⟩,
      [], "", position, []⟩ := by
  have undeclared : ∀ a ∈ raw, declaration? a = none := by
    intro a ha
    obtain ⟨absent, other⟩ := plain a ha
    rw [declaration?, if_neg other, after?_of_not_mem (c := ':') (by decide) absent]
    rfl
  have kept : raw.filter (declaration? · |>.isNone) = raw :=
    List.filter_eq_self.mpr fun a ha => by rw [undeclared a ha]; rfl
  have scope : raw.filterMap declaration? = [] := List.filterMap_eq_nil_iff.mpr undeclared
  have own : splitName (tagName content) = (none, String.ofList (tagName content)) := by
    rw [splitName, splitFirst_of_not_mem named]
  have resolved : raw.mapM (resolveAttribute []) = .ok (raw.map fun a =>
      ⟨none, String.ofList a.key, String.ofList (attributeValue a.value)⟩) := by
    clear attributes undeclared kept scope
    induction raw with
    | nil => rfl
    | cons a raw ih =>
      obtain ⟨⟨absent, _⟩, others⟩ := List.forall_mem_cons.mp plain
      have here : resolveAttribute [] a =
          .ok ⟨none, String.ofList a.key, String.ofList (attributeValue a.value)⟩ := by
        rw [resolveAttribute, splitName, splitFirst_of_not_mem absent]
      rw [List.mapM_cons, here, ih others]
      rfl
  unfold openElement
  rw [attributes, own]
  simp only [Except.mapError, bind, Except.bind, scope, kept, List.reverse_nil, List.append_nil,
    resolved]
  rfl

/-! ## Names -/

/-- The text is a name in a tag: no character of it ends a name or means something in markup, and it
has no prefix. -/
def IsPlainName (name : List Char) : Prop :=
  name ≠ [] ∧ ∀ c ∈ name, isSpace c = false ∧
    c ∉ ['<', '>', '/', '=', '"', '\'', '!', '?', '&', ':']

namespace IsPlainName

variable {name : List Char}

theorem space (h : IsPlainName name) : ∀ c ∈ name, isSpace c = false := fun c hc => (h.2 c hc).1

theorem not_mem (h : IsPlainName name) {mark : Char}
    (has : mark ∈ ['<', '>', '/', '=', '"', '\'', '!', '?', '&', ':']) : mark ∉ name :=
  fun found => (h.2 mark found).2 has

theorem inTag (h : IsPlainName name) : ∀ c ∈ name, c ≠ '>' ∧ c ≠ '"' ∧ c ≠ '\'' := by
  intro c hc
  refine ⟨?_, ?_, ?_⟩ <;>
  · rintro rfl
    exact h.not_mem (by decide) hc

theorem endsKey (h : IsPlainName name) : ∀ c ∈ name, endsKey c = false := by
  intro c hc
  have equals : c ≠ '=' := by
    rintro rfl
    exact h.not_mem (by decide) hc
  simp [Xml.endsKey, equals, h.space c hc]

/-- In a start tag it is the first thing. -/
theorem tokenize (h : IsPlainName name) {more : List Char} (inside : IsTagContent none more)
    (rest : List Char) : tokenize ('<' :: (name ++ more ++ '>' :: rest)) =
      (.opening (name ++ more) :: (tokenize rest).1, (tokenize rest).2) := by
  have whole := (isTagContent_append h.inTag more).mpr inside
  obtain ⟨some, plain⟩ := h
  cases name with
  | nil => exact absurd rfl some
  | cons c name =>
    have mark : c ∉ ['!', '/', '?'] := fun has =>
      (plain c List.mem_cons_self).2 (by revert has; simp; tauto)
    exact tokenize_opening whole mark rest

/-- In a start tag it goes up to the end or to the first space. -/
theorem tag_append (h : IsPlainName name) {more : List Char}
    (ends : more = [] ∨ ∃ rest, more = ' ' :: rest) :
    tagName (name ++ more) = name ∧ (name ++ more).dropWhile (!isSpace ·) = more := by
  have within : ∀ c ∈ name, (!isSpace c) = true := fun c hc => by simp [h.space c hc]
  rw [tagName, List.takeWhile_append_of_pos within, List.dropWhile_append_of_pos within]
  rcases ends with rfl | ⟨rest, rfl⟩
  · simp
  · rw [List.takeWhile_cons_of_neg (by decide), List.dropWhile_cons_of_neg (by decide),
      List.append_nil]
    exact ⟨rfl, rfl⟩

end IsPlainName

/-! ## Documents -/

/-- A name, and an attribute with a value in quotes. -/
def attributeTag (name key : List Char) (quote : Char) (value : List Char) : List Char :=
  name ++ ' ' :: (key ++ '=' :: quote :: (value ++ [quote]))

/-- An element with an attribute and nothing else. -/
def attributeDocument (name key : List Char) (quote : Char) (value : List Char) : String :=
  String.ofList ('<' :: (attributeTag name key quote value ++ ['/', '>']))

/-- An element with content and nothing else. -/
def contentDocument (name content : List Char) : String :=
  String.ofList ('<' :: (name ++ '>' :: (content ++ '<' :: '/' :: (name ++ ['>']))))

theorem withoutMarks_ofList (rest : List Char) :
    withoutMarks (String.ofList ('<' :: rest)) = '<' :: rest := by
  rw [withoutMarks, String.toList_ofList]
  rfl

variable {name key value : List Char} {quote : Char}

/-- An attribute is all that such a tag has. -/
theorem tagAttributes_attributeTag (named : IsPlainName name) (keyed : IsPlainName key)
    (h : quote = '"' ∨ quote = '\'') (inside : quote ∉ value) :
    ∃ offset, tagAttributes (attributeTag name key quote value) = .ok [⟨offset, key, value⟩] := by
  have split := named.tag_append (Or.inr ⟨key ++ '=' :: quote :: (value ++ [quote]), rfl⟩)
  rw [tagAttributes, attributeTag, split.1, split.2]
  cases key with
  | nil => exact absurd rfl keyed.1
  | cons first key =>
    obtain ⟨start, _⟩ := keyed.2 first List.mem_cons_self
    have fresh : first :: key ∉ ([] : List RawAttribute).map (·.key) := List.not_mem_nil
    obtain ⟨next, read⟩ := readAttributes_quoted start
      (fun c hc => keyed.endsKey c (List.mem_cons_of_mem first hc)) h inside fresh []
      (byteWidth name)
    exact ⟨_, read.trans (readAttributes_nil _ _)⟩

theorem tokenize_attributeDocument (named : IsPlainName name) (keyed : IsPlainName key)
    (h : quote = '"' ∨ quote = '\'') (inside : quote ∉ value) :
    tokenize (withoutMarks (attributeDocument name key quote value)) =
      ([.opening (attributeTag name key quote value ++ ['/'])], none) := by
  have space : ∀ c ∈ [' '], c ≠ '>' ∧ c ≠ '"' ∧ c ≠ '\'' := by simp
  have equals : ∀ c ∈ ['='], c ≠ '>' ∧ c ≠ '"' ∧ c ≠ '\'' := by simp
  have whole :
      IsTagContent none ([' '] ++ (key ++ (['='] ++ quote :: (value ++ quote :: ['/'])))) := by
    rw [isTagContent_append space, isTagContent_append keyed.inTag, isTagContent_append equals,
      isTagContent_quoted h inside]
    exact ⟨by decide, trivial⟩
  have cut := named.tokenize whole []
  rw [tokenize_nil] at cut
  rw [attributeDocument, withoutMarks_ofList]
  simpa [attributeTag] using cut

theorem endTagName_eq (h : IsPlainName name) : endTagName name = name := by
  have kept : name.reverse.dropWhile isSpace = name.reverse := by
    refine List.dropWhile_eq_self_iff.mpr fun nonempty => ?_
    rw [h.space _ (List.mem_reverse.mp (List.getElem_mem nonempty))]
    decide
  rw [endTagName, stripEnd, kept, List.reverse_reverse, ite_self]

/-- What the value stands for is the value of the only attribute. -/
theorem ofText_attributeDocument (named : IsPlainName name) (keyed : IsPlainName key)
    (other : key ≠ ['x', 'm', 'l', 'n', 's']) (h : quote = '"' ∨ quote = '\'')
    (inside : quote ∉ value) :
    Element.ofText (attributeDocument name key quote value) =
      .ok ⟨none, String.ofList name,
        [⟨none, String.ofList key, String.ofList (attributeValue value)⟩], [], "", 0, []⟩ := by
  obtain ⟨offset, attributes⟩ := tagAttributes_attributeTag named keyed h inside
  have cut := tokenize_attributeDocument named keyed h inside
  have own : tagName (attributeTag name key quote value) = name :=
    (named.tag_append (Or.inr ⟨_, rfl⟩)).1
  have opened := openElement_of_unbound attributes (by rw [own]; exact named.not_mem (by decide))
    (List.forall_mem_singleton.mpr ⟨keyed.not_mem (by decide), other⟩) 0
  rw [own] at opened
  refine ofText_eq_ok_iff.mpr ⟨by rw [cut], [], ?_⟩
  rw [documentTokens, cut]
  exact .emptyTag List.getLast?_concat (by rwa [List.dropLast_concat]) .nil

/-- Tokens that spell out the content give the text of the root. -/
theorem ofText_contentDocument (named : IsPlainName name) {content : List Char}
    {tokens : List Token} {pieces : List (List Char)} (spell : Spell tokens pieces)
    (cut : tokenize (content ++ '<' :: '/' :: (name ++ ['>'])) =
      (tokens ++ (tokenize ('<' :: '/' :: (name ++ ['>']))).1,
        (tokenize ('<' :: '/' :: (name ++ ['>']))).2)) :
    Element.ofText (contentDocument name content) =
      .ok ⟨none, String.ofList name, [], [], String.ofList (stripBoth isBlank pieces.flatten), 0,
        []⟩ := by
  have whole : tokenize (withoutMarks (contentDocument name content)) =
      (.opening name :: (tokens ++ [.closing name]), none) := by
    have inTag : IsTagContent none (name ++ []) :=
      (isTagContent_append named.inTag []).mpr trivial
    have first := named.tokenize (show IsTagContent none [] from trivial)
      (content ++ '<' :: '/' :: (name ++ ['>']))
    rw [List.append_nil] at inTag first
    have last := tokenize_closing inTag []
    rw [tokenize_nil] at last
    rw [contentDocument, withoutMarks_ofList]
    rw [first, cut, last]
  have bare := named.tag_append (Or.inl rfl)
  rw [List.append_nil] at bare
  have attributes : tagAttributes name = .ok [] := by
    rw [tagAttributes, bare.2, readAttributes_nil]
    rfl
  have opened := openElement_of_unbound attributes (by rw [bare.1]; exact named.not_mem (by decide))
    (by simp) 0
  rw [bare.1] at opened
  refine ofText_eq_ok_iff.mpr ⟨by rw [whole], [], ?_⟩
  rw [documentTokens, whole]
  exact .element (fun empty => named.not_mem (by decide) (List.mem_of_getLast? empty)) opened
    (spell.content_iff.mpr ⟨rfl, rfl⟩) ((endTagName_eq named).trans bare.1.symm) .nil

end SoapBindings.Xml
