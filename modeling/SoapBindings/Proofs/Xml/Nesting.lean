import Mathlib
import SoapBindings.Proofs.Text.Split
import SoapBindings.Proofs.Xml.Content

/-!
# Elements and their tags

The tree of a document has one element for each start tag and each empty tag, in the order of the
tags, and an element holds the elements of exactly those tags that stand between its own start tag
and the end tag that matches it (`inOrder_ofText`). Which end tag matches is said by the balance of
what is in between, and there is only one that does (`Matching.unique`).

The position of an element is the byte offset of its `<`, behind which its name is written; since
offsets of tags grow, so do the positions of elements in document order.

Where an element stands is said once (`StandsIn`): between which tokens, and which declarations are
in effect there. It goes from an element to those in it (`StandsIn.child`), so down from the root to
every element of the tree (`standsIn_ofText`).
-/

set_option autoImplicit false

namespace SoapBindings.Xml

open Text

/-! ## Document order -/

mutual

/-- An element and all elements in it, each before those in it. -/
def Element.inOrder : Element → List Element
  | ⟨ns, name, attributes, children, text, position, scope⟩ =>
    ⟨ns, name, attributes, children, text, position, scope⟩ :: inOrderAll children

/-- Some elements and all elements in them. -/
def inOrderAll : List Element → List Element
  | [] => []
  | e :: es => e.inOrder ++ inOrderAll es

end

/-- The elements in an element. -/
def Element.descendants (e : Element) : List Element := inOrderAll e.children

theorem Element.inOrder_eq (e : Element) : e.inOrder = e :: e.descendants := by
  cases e
  rw [Element.inOrder]
  rfl

theorem inOrderAll_cons (e : Element) (es : List Element) :
    inOrderAll (e :: es) = e :: e.descendants ++ inOrderAll es := by
  rw [inOrderAll, e.inOrder_eq]

theorem descendants_filled (start : Element) (children : List Element) (pieces : List (List Char)) :
    (start.filled children pieces).descendants = inOrderAll children := rfl

/-! ## Names as they are written -/

/-- What is read of a tag: an empty tag has a slash at its end. -/
def bareTag (content : List Char) : List Char :=
  if content.getLast? = some '/' then content.dropLast else content

theorem bareTag_of_emptyTag {content : List Char} (h : isEmptyTag content) :
    bareTag content = content.dropLast := if_pos h

theorem bareTag_of_startTag {content : List Char} (h : ¬ isEmptyTag content) :
    bareTag content = content := if_neg h

/-- The text is a name, or a prefix, a colon and the name. -/
def WrittenAs (written : List Char) (name : String) : Prop :=
  (':' ∉ written ∧ written = name.toList) ∨
    ∃ bound, ':' ∉ bound ∧ written = bound ++ ':' :: name.toList

/-- The text goes on with something that is no part of a name in a tag. -/
def EndsName (after : List Char) : Prop :=
  (∃ c rest, isSpace c ∧ after = c :: rest) ∨ (∃ rest, after = '>' :: rest) ∨
    ∃ rest, after = '/' :: '>' :: rest

/-- The element comes from a start tag at an offset: it stands there and has the name of the tag. -/
def StartedBy (e : Element) (tag : Nat × List Char) : Prop :=
  e.position = tag.1 ∧ WrittenAs (tagName (bareTag tag.2)) e.name

/-- At the position of the element stand `<` and its name as written, up to where a name ends. -/
def StandsAt (cs : List Char) (e : Element) : Prop :=
  ∃ before written after, cs = before ++ '<' :: (written ++ after) ∧
    byteWidth before = e.position ∧ WrittenAs written e.name ∧
    (∀ c ∈ written, isSpace c = false) ∧ EndsName after

theorem writtenAs_splitName (written : List Char) :
    WrittenAs written (splitName written).2 := by
  rw [splitName]
  cases split : splitFirst ':' written with
  | none => exact Or.inl ⟨splitFirst_eq_none_iff.mp split, by simp⟩
  | some parts =>
    obtain ⟨absent, whole⟩ := splitFirst_eq_some_iff.mp split
    exact Or.inr ⟨parts.1, absent, by simpa using whole⟩

/-- What a start tag says of its element. -/
theorem openElement_eq_ok {scope : Scope} {content : List Char} {position : Nat} {e : Element}
    (h : openElement scope content position = .ok e) :
    ∃ raw, tagAttributes content = .ok raw ∧
      e.scope = (raw.filterMap declaration?).reverse ++ scope ∧
      elementNamespace e.scope (splitName (tagName content)).1 = .ok e.ns ∧
      (raw.filter (declaration? · |>.isNone)).mapM (resolveAttribute e.scope) = .ok e.attributes ∧
      e.name = (splitName (tagName content)).2 ∧ e.position = position := by
  unfold openElement at h
  cases tag : tagAttributes content with
  | error fault =>
    rw [tag] at h
    cases h
  | ok raw =>
    simp only [tag, Except.mapError, bind, Except.bind] at h
    split at h
    · cases h
    · next ns hns =>
      split at h
      · cases h
      · next attributes hattributes =>
        cases h
        exact ⟨raw, rfl, rfl, hns, hattributes, rfl, rfl⟩

/-- An element as its start tag gives it, with any content. -/
def Opened (scope : Scope) (tag : Nat × List Char) (e : Element) : Prop :=
  ∃ start children pieces, openElement scope (bareTag tag.2) tag.1 = .ok start ∧
    e = start.filled children pieces

theorem Opened.startedBy {scope : Scope} {tag : Nat × List Char} {e : Element}
    (h : Opened scope tag e) : StartedBy e tag := by
  obtain ⟨start, children, pieces, opened, rfl⟩ := h
  obtain ⟨_, _, _, _, _, name, position⟩ := openElement_eq_ok opened
  refine ⟨position, ?_⟩
  change WrittenAs _ start.name
  rw [name]
  exact writtenAs_splitName _

/-- What a start tag has behind its name. -/
theorem exists_endsName (content rest : List Char) :
    ∃ after, content ++ '>' :: rest = tagName (bareTag content) ++ after ∧ EndsName after := by
  have split : bareTag content =
      tagName (bareTag content) ++ (bareTag content).dropWhile (!isSpace ·) :=
    List.takeWhile_append_dropWhile.symm
  have tail : ∃ slash, content = bareTag content ++ slash ∧ (slash = [] ∨ slash = ['/']) := by
    by_cases empty : isEmptyTag content
    · obtain ⟨front, ends⟩ := List.getLast?_eq_some_iff.mp empty
      refine ⟨['/'], ?_, Or.inr rfl⟩
      rw [bareTag_of_emptyTag empty, ends, List.dropLast_concat]
    · exact ⟨[], by rw [bareTag_of_startTag empty, List.append_nil], Or.inl rfl⟩
  obtain ⟨slash, whole, ends⟩ := tail
  refine ⟨(bareTag content).dropWhile (!isSpace ·) ++ (slash ++ '>' :: rest), ?_, ?_⟩
  · rw [← List.append_assoc, ← split, ← List.append_assoc, ← whole]
  · cases behind : (bareTag content).dropWhile (!isSpace ·) with
    | nil =>
      rcases ends with rfl | rfl
      · exact Or.inr (Or.inl ⟨rest, rfl⟩)
      · exact Or.inr (Or.inr ⟨rest, rfl⟩)
    | cons c more =>
      have space := List.head_dropWhile_not (!isSpace ·) (l := bareTag content) (by simp [behind])
      simp only [behind, List.head_cons] at space
      exact Or.inl ⟨c, _, by simpa using space, rfl⟩

theorem StartedBy.standsAt {e : Element} {tag : Nat × List Char} {tokens : List Token}
    (h : StartedBy e tag) (has : tag ∈ startTags 0 tokens) : StandsAt (sources tokens) e := by
  obtain ⟨before, more, rfl, start⟩ := exists_append_of_mem_startTags has
  obtain ⟨after, split, ends⟩ := exists_endsName tag.2 (sources more)
  have solid : ∀ c ∈ tagName (bareTag tag.2), isSpace c = false := fun c hc => by
    simpa using List.mem_takeWhile_imp hc
  refine ⟨sources before, tagName (bareTag tag.2), after, ?_, ?_, h.2, solid, ends⟩
  · rw [sources_append, sources_cons, Token.source, ← split]
    simp
  · rw [h.1, start, Nat.zero_add, width]

/-! ## Matching end tags -/

/-- Every start tag among the tokens has its end tag among them, and every end tag its start tag. -/
inductive Balanced : List Token → Prop
  | nil : Balanced []
  | single {token tokens} (starts : ∀ content, token = .opening content → isEmptyTag content)
      (ends : ∀ name, token ≠ .closing name) (rest : Balanced tokens) : Balanced (token :: tokens)
  | pair {content inside name tokens} (h : ¬ isEmptyTag content) (inner : Balanced inside)
      (rest : Balanced tokens) : Balanced (.opening content :: (inside ++ .closing name :: tokens))

/-- An end tag with a name matches a start tag in front of some tokens; it stands behind `inside`. -/
def Matching (tokens inside : List Token) (name : List Char) : Prop :=
  Balanced inside ∧ ∃ after, tokens = inside ++ .closing name :: after

theorem Balanced.eq_of_append {inside inside' after after' : List Token} {name name' : List Char}
    (h : Balanced inside) (h' : Balanced inside')
    (same : inside ++ .closing name :: after = inside' ++ .closing name' :: after') :
    inside = inside' ∧ name = name' ∧ after = after' := by
  -- Both begin with the same token, so they are made in the same way; the end tag behind them can
  -- be no token of either.
  induction h generalizing inside' name name' after after' with
  | nil =>
    cases h' with
    | nil =>
      obtain ⟨rfl, rfl⟩ : name = name' ∧ after = after' := by simpa using same
      exact ⟨rfl, rfl, rfl⟩
    | single _ ends _ => exact absurd (List.cons.inj same).1.symm (ends name)
    | pair => simp at same
  | @single token tokens starts ends _ ih =>
    cases h' with
    | nil => exact absurd (List.cons.inj same).1 (ends name')
    | single _ _ rest' =>
      obtain ⟨rfl, tail⟩ := List.cons.inj same
      obtain ⟨rfl, names⟩ := ih rest' tail
      exact ⟨rfl, names⟩
    | pair full => exact absurd (starts _ (List.cons.inj same).1) full
  | @pair content inside name₁ tokens full _ _ ihInner ihRest =>
    cases h' with
    | nil => simp at same
    | single starts _ _ => exact absurd (starts _ (List.cons.inj same).1.symm) full
    | pair _ inner' rest' =>
      obtain ⟨rfl, tail⟩ : _ ∧ _ := by simpa using same
      obtain ⟨rfl, rfl, behind⟩ := ihInner inner' tail
      obtain ⟨rfl, names⟩ := ihRest rest' behind
      exact ⟨rfl, names⟩

/-- Only one end tag matches. -/
theorem Matching.unique {tokens inside inside' : List Token} {name name' : List Char}
    (h : Matching tokens inside name) (h' : Matching tokens inside' name') :
    inside = inside' ∧ name = name' := by
  obtain ⟨balanced, after, whole⟩ := h
  obtain ⟨balanced', after', whole'⟩ := h'
  obtain ⟨rfl, rfl, _⟩ := balanced.eq_of_append balanced' (whole ▸ whole')
  exact ⟨rfl, rfl⟩

/-- A token that adds characters to a text, or nothing, begins and ends no element. -/
theorem Token.not_tag {token : Token} (h : token.chars?.isSome ∨ token.isSkipped) :
    (∀ content, token ≠ .opening content) ∧ ∀ name, token ≠ .closing name := by
  constructor <;>
  · rintro _ rfl
    simp [Token.chars?, Token.isSkipped] at h

/-- What stands for elements and text is balanced. -/
theorem Content.balanced {scope : Scope} {start : Nat} {tokens : List Token}
    {elements : List Element} {pieces : List (List Char)}
    (h : Content scope start tokens elements pieces) : Balanced tokens := by
  induction h with
  | nil => exact .nil
  | chars h _ ih =>
    obtain ⟨starts, ends⟩ := Token.not_tag (Or.inl (Option.isSome_of_eq_some h))
    exact .single (fun content same => absurd same (starts content)) ends ih
  | skip h _ ih =>
    obtain ⟨starts, ends⟩ := Token.not_tag (Or.inr h)
    exact .single (fun content same => absurd same (starts content)) ends ih
  | emptyTag h _ _ ih =>
    refine .single (fun content same => ?_) (fun name => Token.noConfusion) ih
    obtain rfl := Token.opening.inj same
    exact h
  | element h _ _ _ _ ihInner ihRest => exact .pair h ihInner ihRest

/-! ## What an element holds -/

/-- Among tokens that begin at an offset, the element's start tag is at its position. The elements
in it are those of the tags behind it up to the end tag that matches, which there is and which repeats
the name; an empty tag has none. -/
def Encloses (start : Nat) (tokens : List Token) (e : Element) : Prop :=
  ∃ before content rest, tokens = before ++ .opening content :: rest ∧
    e.position = start + width before ∧
    (isEmptyTag content → e.descendants = []) ∧
    (¬ isEmptyTag content →
      (∃ inside name, Matching rest inside name) ∧
      ∀ inside name, Matching rest inside name → endTagName name = tagName content ∧
        List.Forall₂ StartedBy e.descendants
          (startTags (e.position + (Token.opening content).width) inside))

/-- The start tags of an element and of what is in it. -/
theorem startTags_element (start : Nat) (content name : List Char) (inside tokens : List Token) :
    startTags start (.opening content :: (inside ++ .closing name :: tokens)) =
      (start, content) :: startTags (start + (Token.opening content).width) inside ++
        startTags (start + width (.opening content :: (inside ++ [.closing name]))) tokens := by
  have offset : start + width (.opening content :: (inside ++ [.closing name])) =
      start + (Token.opening content).width + width inside + (Token.closing name).width := by
    rw [width_cons, width_append, width_singleton]
    omega
  rw [offset, startTags_opening, startTags_append,
    startTags_cons_of_ne fun content => Token.noConfusion, List.cons_append]

namespace Content

variable {scope : Scope} {start : Nat} {tokens : List Token} {elements : List Element}
  {pieces : List (List Char)}

/-- There is one element for each start tag, in the order of the tags. -/
theorem forall₂_startedBy (h : Content scope start tokens elements pieces) :
    List.Forall₂ StartedBy (inOrderAll elements) (startTags start tokens) := by
  induction h with
  | nil => exact .nil
  | chars h _ ih =>
    rwa [startTags_cons_of_ne (Token.not_tag (Or.inl (Option.isSome_of_eq_some h))).1]
  | skip h _ ih => rwa [startTags_cons_of_ne (Token.not_tag (Or.inr h)).1]
  | @emptyTag _ start content element _ _ _ h opened _ ih =>
    rw [← bareTag_of_emptyTag h] at opened
    have here : Opened _ (start, content) (element.filled [] []) := ⟨_, _, _, opened, rfl⟩
    rw [inOrderAll_cons, descendants_filled, inOrderAll, startTags_opening]
    exact .cons here.startedBy ih
  | @element _ start content element _ children texts _ _ _ _ h opened _ _ _ ihInner ihRest =>
    rw [← bareTag_of_startTag h] at opened
    have here : Opened _ (start, content) (element.filled children texts) :=
      ⟨_, _, _, opened, rfl⟩
    rw [inOrderAll_cons, descendants_filled, startTags_element]
    exact List.rel_append (.cons here.startedBy ihInner) ihRest

end Content

/-- Among tokens that begin at an offset, the element is what a start tag opens where the scope is
in effect, and holds what stands between this tag and an end tag that repeats its name. -/
def StandsIn (scope : Scope) (start : Nat) (tokens : List Token) (e : Element) : Prop :=
  ∃ before content inside after pieces,
    tokens = before ++ .opening content :: (inside ++ after) ∧
    Opened scope (start + width before, content) e ∧
    Content e.scope (start + width before + (Token.opening content).width) inside e.children
      pieces ∧
    e.text = String.ofList (stripBoth isBlank pieces.flatten) ∧
    (isEmptyTag content → inside = []) ∧
    (¬ isEmptyTag content →
      ∃ name more, after = .closing name :: more ∧ endTagName name = tagName content)

theorem StandsIn.between {scope : Scope} {start offset : Nat} {tokens : List Token} {e : Element}
    (h : StandsIn scope offset tokens e) (before after : List Token)
    (behind : offset = start + width before) :
    StandsIn scope start (before ++ tokens ++ after) e := by
  obtain ⟨front, content, inside, back, pieces, rfl, opened, inner, text, empty, closed⟩ := h
  have place : offset + width front = start + width (before ++ front) := by
    rw [behind, width_append, Nat.add_assoc]
  rw [place] at opened inner
  refine ⟨before ++ front, content, inside, back ++ after, pieces, by simp, opened, inner, text,
    empty, fun full => ?_⟩
  obtain ⟨name, more, rfl, same⟩ := closed full
  exact ⟨name, more ++ after, rfl, same⟩

/-- Every element of the content is one that stands there. -/
theorem Content.standsIn {scope : Scope} {start : Nat} {tokens : List Token}
    {elements : List Element} {pieces : List (List Char)}
    (h : Content scope start tokens elements pieces) {e : Element} (he : e ∈ elements) :
    StandsIn scope start tokens e := by
  -- What comes before and behind it only moves an element; the last two cases may be the element.
  induction h with
  | nil => cases he
  | @chars _ _ token _ _ _ _ _ _ ih | @skip _ _ token _ _ _ _ _ ih =>
    have whole := (ih he).between [token] [] (by rw [width_singleton])
    rwa [List.append_nil] at whole
  | @emptyTag _ start content element tokens _ _ h opened _ ih =>
    rcases List.mem_cons.mp he with rfl | he
    · rw [← bareTag_of_emptyTag h] at opened
      exact ⟨[], content, [], tokens, [], rfl, ⟨_, _, _, opened, rfl⟩, .nil, rfl, fun _ => rfl,
        fun full => absurd h full⟩
    · have whole := (ih he).between [.opening content] [] (by rw [width_singleton])
      rwa [List.append_nil] at whole
  | @element _ start content element inside children texts name tokens _ _ h opened inner same _ _
      ihRest =>
    rcases List.mem_cons.mp he with rfl | he
    · rw [← bareTag_of_startTag h] at opened
      exact ⟨[], content, inside, .closing name :: tokens, texts, rfl, ⟨_, _, _, opened, rfl⟩,
        inner, rfl, fun empty => absurd empty h, fun _ => ⟨name, tokens, rfl, same⟩⟩
    · have whole := (ihRest he).between (.opening content :: (inside ++ [.closing name])) [] rfl
      rwa [List.append_nil, List.cons_append, List.append_assoc, List.singleton_append] at whole

theorem StandsIn.child {scope : Scope} {start : Nat} {tokens : List Token} {e child : Element}
    (h : StandsIn scope start tokens e) (inside : child ∈ e.children) :
    StandsIn e.scope start tokens child := by
  obtain ⟨before, content, body, after, pieces, rfl, _, inner, _⟩ := h
  have whole := (inner.standsIn inside).between (before ++ [.opening content]) after
    (by rw [width_append, width_singleton, Nat.add_assoc])
  rwa [List.append_assoc, List.append_assoc, List.singleton_append] at whole

theorem StandsIn.encloses {scope : Scope} {start : Nat} {tokens : List Token} {e : Element}
    (h : StandsIn scope start tokens e) : Encloses start tokens e := by
  obtain ⟨before, content, inside, after, pieces, rfl, opened, inner, _, none, closed⟩ := h
  have position : e.position = start + width before := opened.startedBy.1
  have started := inner.forall₂_startedBy
  rw [← position] at started
  refine ⟨before, content, inside ++ after, rfl, position, fun empty => ?_, fun full => ?_⟩
  · rw [none empty] at started
    exact List.forall₂_nil_right_iff.mp started
  · obtain ⟨name, more, rfl, same⟩ := closed full
    -- The tag by which the builder closed the element matches, and no other does.
    have here : Matching (inside ++ .closing name :: more) inside name :=
      ⟨inner.balanced, more, rfl⟩
    refine ⟨⟨inside, name, here⟩, fun inside' name' other => ?_⟩
    obtain ⟨rfl, rfl⟩ := here.unique other
    exact ⟨same, started⟩

/-! ## The elements around an element -/

/-- An element of a tree, and the elements around it, the nearest first. -/
inductive StandsUnder (root : Element) : Element → List Element → Prop
  | root : StandsUnder root root []
  | child {e above child} (h : StandsUnder root e above) (inside : child ∈ e.children) :
      StandsUnder root child (e :: above)

mutual

/-- All elements in document order stand in the tree. -/
theorem exists_standsUnder_of_inOrder {root : Element} :
    ∀ {e : Element} {above : List Element}, StandsUnder root e above →
      ∀ inner ∈ e.inOrder, ∃ around, StandsUnder root inner around
  | ⟨_, _, _, children, _, _, _⟩, above, under, inner, h => by
    rw [Element.inOrder] at h
    rcases List.mem_cons.mp h with rfl | h
    · exact ⟨above, under⟩
    · exact exists_standsUnder_of_inOrderAll (fun _ inside => under.child inside) inner h

theorem exists_standsUnder_of_inOrderAll {root : Element} :
    ∀ {es above : List Element}, (∀ e ∈ es, StandsUnder root e above) →
      ∀ inner ∈ inOrderAll es, ∃ around, StandsUnder root inner around
  | [], _, _, _, h => by cases h
  | _ :: _, _, under, inner, h => by
    obtain ⟨first, others⟩ := List.forall_mem_cons.mp under
    rw [inOrderAll] at h
    rcases List.mem_append.mp h with h | h
    · exact exists_standsUnder_of_inOrder first inner h
    · exact exists_standsUnder_of_inOrderAll others inner h

end

/-- What is in effect inside of some elements, of which the nearest comes first. -/
def scopeAround : List Element → Scope
  | [] => []
  | e :: _ => e.scope

theorem exists_mem_of_forall₂ {α β : Type} {R : α → β → Prop} {as : List α} {bs : List β}
    (h : List.Forall₂ R as bs) {a : α} (ha : a ∈ as) : ∃ b ∈ bs, R a b := by
  induction h with
  | nil => cases ha
  | @cons a' b _ _ here _ ih =>
    rcases List.mem_cons.mp ha with rfl | later
    · exact ⟨b, List.mem_cons_self, here⟩
    · obtain ⟨b', hb', related⟩ := ih later
      exact ⟨b', List.mem_cons_of_mem _ hb', related⟩

variable {text : String} {root : Element}

/-- An element of the tree stands in the document where the declarations on the elements around it
are in effect. -/
theorem standsIn_ofText (h : Element.ofText text = .ok root) {e : Element} {above : List Element}
    (under : StandsUnder root e above) :
    StandsIn (scopeAround above) 0 (documentTokens text) e := by
  induction under with
  | root =>
    obtain ⟨pieces, content⟩ := (ofText_eq_ok_iff.mp h).2
    exact content.standsIn List.mem_cons_self
  | child _ inside ih => exact ih.child inside

/-- In document order positions grow, at each of them stands the element with its name, there is one
element for each start tag, in the order of the tags, and each holds those between its start tag and
its end tag. -/
theorem inOrder_ofText (h : Element.ofText text = .ok root) :
    (root.inOrder.Pairwise fun e later => e.position < later.position) ∧
      (∀ e ∈ root.inOrder, StandsAt (withoutMarks text) e) ∧
      List.Forall₂ StartedBy root.inOrder (startTags 0 (documentTokens text)) ∧
      ∀ e ∈ root.inOrder, Encloses 0 (documentTokens text) e := by
  obtain ⟨pieces, content⟩ := (ofText_eq_ok_iff.mp h).2
  have alone : inOrderAll [root] = root.inOrder := by
    rw [inOrderAll_cons, root.inOrder_eq]
    exact List.append_nil _
  have started := content.forall₂_startedBy
  rw [alone] at started
  refine ⟨?_, fun e he => ?_, started, fun e he => ?_⟩
  · -- The positions are the offsets of the start tags.
    have positions : root.inOrder.map (·.position) =
        (startTags 0 (documentTokens text)).map (·.1) :=
      List.forall₂_eq_eq_eq ▸ List.forall₂_map_left_iff.mpr
        (List.forall₂_map_right_iff.mpr (started.imp fun _ _ h => h.1))
    have ordered := List.pairwise_map.mpr (pairwise_startTags 0 (documentTokens text))
    rw [← positions] at ordered
    exact List.pairwise_map.mp ordered
  · obtain ⟨tag, has, here⟩ := exists_mem_of_forall₂ started he
    have stands := here.standsAt has
    rwa [sources_of_ofText h] at stands
  · obtain ⟨above, under⟩ := exists_standsUnder_of_inOrder .root e he
    exact (standsIn_ofText h under).encloses

/-! ## Elements in elements -/

/-- A name is bound twice, and the default namespace is taken back. -/
def nested : String :=
  "<p:a xmlns:p='u' xmlns='d'><b p:k='v'/>é<c xmlns='' xmlns:p='w'><p:d/></c ></p:a>"

def outerScope : Scope := [(none, "d"), (some "p", "u")]

def innerScope : Scope := [(some "p", "w"), (none, "")] ++ outerScope

def nestedD : Element := ⟨some "w", "d", [], [], "", 65, innerScope⟩

def nestedC : Element := ⟨none, "c", [], [nestedD], "", 41, innerScope⟩

def nestedB : Element := ⟨some "d", "b", [⟨some "u", "k", "v"⟩], [], "", 27, outerScope⟩

def nestedA : Element := ⟨some "u", "a", [], [nestedB, nestedC], "é", 0, outerScope⟩

theorem ofText_nested : Element.ofText nested = .ok nestedA := by cbv

theorem inOrder_ofText_nested : Element.ofText nested = .ok nestedA ∧
    nestedA.inOrder.map (·.position) = [0, 27, 41, 65] ∧
    (nestedA.inOrder.Pairwise fun e later => e.position < later.position) ∧
    (∀ e ∈ nestedA.inOrder, StandsAt (withoutMarks nested) e) ∧
    List.Forall₂ StartedBy nestedA.inOrder (startTags 0 (documentTokens nested)) ∧
    ∀ e ∈ nestedA.inOrder, Encloses 0 (documentTokens nested) e :=
  ⟨ofText_nested, rfl, inOrder_ofText ofText_nested⟩

end SoapBindings.Xml
