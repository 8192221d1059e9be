import SoapBindings.Proofs.Xml.Tokens
import SoapBindings.Xml.Tree

/-!
# What tokens stand for

`Content` says which elements and which pieces of text some tokens stand for, with no stack: an
element is an empty tag, or a start tag, its own content and an end tag that repeats its name. The
declarations in effect and the byte offset go from the outside to the inside and from the left to
the right only.

The builder keeps open elements on a stack and does not know what will be in them. `Reads` says what
its state has to do with the tokens read so far; each step keeps it (`Reads.read`), so a tree that
is built is what the tokens of its document stand for (`ofText_eq_ok_iff`).
-/

set_option autoImplicit false

namespace SoapBindings.Xml

open Text

/-! ## Content -/

/-- The characters that a token adds to the text around it. -/
def Token.chars? : Token → Option (List Char)
  | .text chars | .cdata chars => some chars
  | .reference name => (resolve? name).map ([·])
  | _ => none

/-- The token is no part of the tree. A name has to follow the keyword of a document type. -/
def Token.isSkipped : Token → Bool
  | .comment _ | .instruction _ => true
  | .doctype chars => !(chars.drop 7).all isSpace
  | _ => false

/-- The tag is a start tag and an end tag in one. -/
def isEmptyTag (content : List Char) : Prop := content.getLast? = some '/'

/-- The name in an end tag, without the white space behind it. -/
def endTagName (content : List Char) : List Char :=
  if content.all isSpace then content else stripEnd isSpace content

/-- The element of a start tag with what is between the tag and its end tag. -/
def Element.filled (start : Element) (children : List Element) (pieces : List (List Char)) :
    Element :=
  { start with children, text := String.ofList (stripBoth isBlank pieces.flatten) }

/-- Where `scope` is in effect, tokens from the offset `start` on stand for some elements and pieces
of text. -/
inductive Content : Scope → Nat → List Token → List Element → List (List Char) → Prop
  | nil {scope start} : Content scope start [] [] []
  | chars {scope start token piece tokens elements pieces} (h : token.chars? = some piece)
      (rest : Content scope (start + token.width) tokens elements pieces) :
      Content scope start (token :: tokens) elements (piece :: pieces)
  | skip {scope start token tokens elements pieces} (h : token.isSkipped)
      (rest : Content scope (start + token.width) tokens elements pieces) :
      Content scope start (token :: tokens) elements pieces
  | emptyTag {scope start content element tokens elements pieces} (h : isEmptyTag content)
      (opened : openElement scope content.dropLast start = .ok element)
      (rest : Content scope (start + (Token.opening content).width) tokens elements pieces) :
      Content scope start (.opening content :: tokens) (element.filled [] [] :: elements) pieces
  | element {scope start content element inside children texts name tokens elements pieces}
      (h : ¬ isEmptyTag content) (opened : openElement scope content start = .ok element)
      (inner : Content element.scope (start + (Token.opening content).width) inside children texts)
      (closed : endTagName name = tagName content)
      (rest : Content scope (start + width (.opening content :: (inside ++ [.closing name]))) tokens
        elements pieces) :
      Content scope start (.opening content :: (inside ++ .closing name :: tokens))
        (element.filled children texts :: elements) pieces

namespace Content

variable {scope : Scope} {start : Nat} {tokens more : List Token} {elements others : List Element}
  {pieces texts : List (List Char)}

theorem append (h : Content scope start tokens elements pieces)
    (next : Content scope (start + width tokens) more others texts) :
    Content scope start (tokens ++ more) (elements ++ others) (pieces ++ texts) := by
  induction h with
  | nil => exact next
  | chars h _ ih =>
    rw [width_cons, ← Nat.add_assoc] at next
    exact .chars h (ih next)
  | skip h _ ih =>
    rw [width_cons, ← Nat.add_assoc] at next
    exact .skip h (ih next)
  | emptyTag h opened _ ih =>
    rw [width_cons, ← Nat.add_assoc] at next
    exact .emptyTag h opened (ih next)
  | @element _ _ content _ inside _ _ name tokens _ _ h opened inner closed _ _ ih =>
    have split : Token.opening content :: (inside ++ .closing name :: tokens) =
        (.opening content :: (inside ++ [.closing name])) ++ tokens := by simp
    rw [split, width_append, ← Nat.add_assoc] at next
    rw [List.cons_append, List.append_assoc, List.cons_append]
    exact .element h opened inner closed (ih next)

end Content

/-! ## The builder -/

section

variable {b : Builder} {content name : List Char} {position : Nat} {start : Element}

theorem openTag_of_emptyTag (h : isEmptyTag content)
    (opened : openElement b.scope content.dropLast position = .ok start) :
    b.openTag content position = b.attach (start.filled [] []) := by
  have ends : content.getLast? = some '/' := h
  simp only [Builder.openTag, ends, if_true, opened]
  rfl

theorem openTag_of_startTag (h : ¬ isEmptyTag content)
    (opened : openElement b.scope content position = .ok start) :
    b.openTag content position =
      .ok { b with stack := ⟨tagName content, start, [], []⟩ :: b.stack } := by
  have ends : ¬ content.getLast? = some '/' := h
  simp only [Builder.openTag, ends, if_false, opened]

theorem exists_openElement_of_openTag {next : Builder}
    (step : b.openTag content position = .ok next) :
    (isEmptyTag content ∧ ∃ start, openElement b.scope content.dropLast position = .ok start) ∨
      (¬ isEmptyTag content ∧ ∃ start, openElement b.scope content position = .ok start) := by
  rw [Builder.openTag] at step
  by_cases ends : content.getLast? = some '/'
  · left
    simp only [ends, if_true] at step
    cases opened : openElement b.scope content.dropLast position with
    | error fault => simp [opened] at step
    | ok start => exact ⟨ends, start, rfl⟩
  · right
    simp only [ends, if_false] at step
    cases opened : openElement b.scope content position with
    | error fault => simp [opened] at step
    | ok start => exact ⟨ends, start, rfl⟩

theorem close_of_stack {top : OpenElement} {below : List OpenElement} {root : Option Element} :
    Builder.close ⟨top :: below, root⟩ name position =
      if top.written = endTagName name then (⟨below, root⟩ : Builder).attach top.finish
      else .error ⟨position, .mismatchedEnd (String.ofList top.written)
        (String.ofList (endTagName name))⟩ := rfl

end

/-- A builder has read some tokens: those before the innermost open element, its start tag, and what
there is of its content. -/
inductive Reads : List Token → Builder → Prop
  | outside {tokens root pieces} (content : Content [] 0 tokens root.toList pieces) :
      Reads tokens ⟨[], root⟩
  | inside {before below root content element tokens children pieces}
      (outer : Reads before ⟨below, root⟩) (h : ¬ isEmptyTag content)
      (opened : openElement (Builder.scope ⟨below, root⟩) content (width before) = .ok element)
      (inner : Content element.scope (width before + (Token.opening content).width) tokens
        children.reverse pieces.reverse) :
      Reads (before ++ .opening content :: tokens)
        ⟨⟨tagName content, element, children, pieces⟩ :: below, root⟩

namespace Reads

variable {tokens more : List Token} {b next : Builder} {token : Token}

theorem width_inside (before : List Token) (content : List Char) (tokens : List Token) :
    width (before ++ .opening content :: tokens) =
      width before + (Token.opening content).width + width tokens := by
  rw [width_append, width_cons, Nat.add_assoc]

/-- Reads on where no element begins or ends. -/
theorem skip (h : Reads tokens b) (next : Content b.scope (width tokens) more [] []) :
    Reads (tokens ++ more) b := by
  cases h with
  | outside content =>
    have longer := content.append (by rw [Nat.zero_add]; exact next)
    rw [List.append_nil] at longer
    exact .outside longer
  | inside outer h opened inner =>
    rw [width_inside] at next
    have longer := inner.append next
    rw [List.append_nil, List.append_nil] at longer
    rw [List.append_assoc, List.cons_append]
    exact .inside outer h opened longer

theorem addText {piece : List Char} (h : Reads tokens b)
    (next : Content b.scope (width tokens) more [] [piece]) :
    Reads (tokens ++ more) (b.addText piece) := by
  cases h with
  | outside content =>
    have longer := content.append (by rw [Nat.zero_add]; exact next)
    rw [List.append_nil] at longer
    exact .outside longer
  | inside outer h opened inner =>
    rw [width_inside] at next
    have longer := inner.append next
    rw [List.append_nil, ← List.reverse_cons] at longer
    rw [List.append_assoc, List.cons_append]
    exact .inside outer h opened longer

theorem attach {e : Element} (h : Reads tokens b)
    (content : Content b.scope (width tokens) more [e] []) (attached : b.attach e = .ok next) :
    Reads (tokens ++ more) next := by
  cases h with
  | @outside _ root _ before =>
    cases root with
    | some _ => cases attached
    | none =>
      cases attached
      have longer := before.append (by rw [Nat.zero_add]; exact content)
      exact .outside longer
  | inside outer h opened inner =>
    cases attached
    rw [width_inside] at content
    have longer := inner.append content
    rw [List.append_nil, ← List.reverse_cons] at longer
    rw [List.append_assoc, List.cons_append]
    exact .inside outer h opened longer

theorem openTag {content : List Char} (h : Reads tokens b)
    (step : b.openTag content (width tokens) = .ok next) :
    Reads (tokens ++ [.opening content]) next := by
  rcases exists_openElement_of_openTag step with ⟨empty, start, opened⟩ | ⟨full, start, opened⟩
  · rw [openTag_of_emptyTag empty opened] at step
    exact h.attach (.emptyTag empty opened .nil) step
  · rw [openTag_of_startTag full opened] at step
    cases step
    exact .inside h full opened .nil

/-- An end tag closes the innermost open element, which is then content of the one around it. -/
theorem close {name : List Char} (h : Reads tokens b)
    (step : b.close name (width tokens) = .ok next) :
    Reads (tokens ++ [.closing name]) next := by
  cases h with
  | outside => cases step
  | inside outer h opened inner =>
    -- The tokens of the element are now known to be balanced, and join those before its start tag.
    rw [close_of_stack] at step
    split at step
    · next same =>
      rw [List.append_assoc, List.cons_append]
      exact outer.attach (.element h opened inner same.symm .nil) step
    · cases step

/-- One step of the builder. -/
theorem read (h : Reads tokens b) (step : b.read (width tokens) token = .ok next) :
    Reads (tokens ++ [token]) next := by
  cases token with
  | text chars | cdata chars =>
    cases step
    exact h.addText (.chars rfl .nil)
  | reference name =>
    cases found : resolve? name with
    | none => simp [Builder.read, found] at step
    | some c =>
      have : b.addText [c] = next := by simpa [Builder.read, found] using step
      subst this
      exact h.addText (.chars (by simp [Token.chars?, found]) .nil)
  | comment chars | instruction chars =>
    cases step
    exact h.skip (.skip rfl .nil)
  | doctype chars =>
    simp only [Builder.read, Builder.checkDoctype] at step
    split at step
    · cases step
    · next named =>
      cases step
      exact h.skip (.skip (by simpa [Token.isSkipped] using named) .nil)
  | closing name => exact h.close step
  | opening content => exact h.openTag step

theorem readAll {position : Nat} (h : Reads tokens b)
    (steps : b.readAll (width tokens) more = .ok (next, position)) :
    Reads (tokens ++ more) next := by
  induction more generalizing tokens b with
  | nil =>
    cases steps
    rwa [List.append_nil]
  | cons token more ih =>
    rw [Builder.readAll] at steps
    cases step : b.read (width tokens) token with
    | error e => rw [step] at steps; cases steps
    | ok stepped =>
      rw [step] at steps
      have here := h.read step
      rw [List.append_cons]
      exact ih here (by rwa [width_append, width_singleton])

end Reads

/-! ## Documents -/

/-- The tokens of a document, which follow its byte order marks. -/
def documentTokens (text : String) : List Token := (tokenize (withoutMarks text)).1

variable {text : String} {root : Element}

theorem ofText_eq_ok (h : Element.ofText text = .ok root) :
    (tokenize (withoutMarks text)).2 = none ∧
      ∃ position, Builder.empty.readAll 0 (documentTokens text) =
        .ok (⟨[], some root⟩, position) := by
  rw [Element.ofText] at h
  cases steps : Builder.empty.readAll 0 (documentTokens text) with
  | error e =>
    rw [documentTokens] at steps
    simp only [steps] at h
    cases h
  | ok read =>
    obtain ⟨⟨stack, found⟩, position⟩ := read
    rw [documentTokens] at steps
    simp only [steps] at h
    cases fault : (tokenize (withoutMarks text)).2 with
    | some fault => simp [fault] at h
    | none =>
      refine ⟨rfl, position, ?_⟩
      simp only [fault] at h
      cases stack with
      | cons top below => cases h
      | nil =>
        cases found with
        | none => cases h
        | some r =>
          cases h
          rfl

/-! ## From content to a tree -/

namespace Builder

variable {b next : Builder} {elements others : List Element} {pieces texts : List (List Char)}

/-- A builder that has read some more elements and text: they are added to the innermost open
element, and outside of all elements the first one is the root. -/
def add (b : Builder) (elements : List Element) (pieces : List (List Char)) : Builder :=
  match b.stack with
  | top :: below =>
    { b with stack := { top with
        children := elements.reverse ++ top.children
        pieces := pieces.reverse ++ top.pieces } :: below }
  | [] => { b with root := b.root.or elements.head? }

/-- At most one element can stand outside of all others. -/
def HasRoomFor (b : Builder) (elements : List Element) : Prop :=
  b.stack = [] → (b.root.toList ++ elements).length ≤ 1

theorem add_nil (b : Builder) : b.add [] [] = b := by
  obtain ⟨_ | _, root⟩ := b
  · simp [add]
  · rfl

theorem add_add (b : Builder) (elements others : List Element) (pieces texts : List (List Char)) :
    (b.add elements pieces).add others texts = b.add (elements ++ others) (pieces ++ texts) := by
  obtain ⟨_ | _, root⟩ := b <;> simp [add, Option.or_assoc]

theorem scope_add (b : Builder) (elements : List Element) (pieces : List (List Char)) :
    (b.add elements pieces).scope = b.scope := by
  obtain ⟨_ | _, root⟩ := b <;> rfl

theorem addText_eq (b : Builder) (piece : List Char) : b.addText piece = b.add [] [piece] := by
  obtain ⟨_ | _, root⟩ := b
  · simp [add, addText]
  · rfl

theorem attach_eq {e : Element} (room : b.HasRoomFor [e]) : b.attach e = .ok (b.add [e] []) := by
  obtain ⟨_ | _, _ | _⟩ := b
  · rfl
  · simp [HasRoomFor] at room
  · rfl
  · rfl

theorem HasRoomFor.add (room : b.HasRoomFor (elements ++ others)) :
    (b.add elements pieces).HasRoomFor others := by
  obtain ⟨_ | _, root⟩ := b
  · intro _
    have bound := room rfl
    cases root <;> cases elements <;> simp_all [Builder.add]
  · intro empty
    cases empty

theorem HasRoomFor.head {e : Element} (room : b.HasRoomFor (e :: elements)) :
    b.HasRoomFor [e] := by
  intro outside
  have bound := room outside
  simp only [List.length_append, List.length_cons] at bound
  simp only [List.length_append, List.length_singleton]
  omega

theorem readAll_cons {token : Token} {position : Nat} (step : b.read position token = .ok next)
    (tokens : List Token) :
    b.readAll position (token :: tokens) = next.readAll (position + token.width) tokens := by
  rw [readAll, step]

theorem read_of_chars? {token : Token} {piece : List Char} (h : token.chars? = some piece)
    (position : Nat) : b.read position token = .ok (b.add [] [piece]) := by
  rw [← addText_eq]
  cases token with
  | text | cdata =>
    cases h
    rfl
  | reference name =>
    obtain ⟨c, found, rfl⟩ := Option.map_eq_some_iff.mp h
    simp only [read, found]
  | _ => cases h

theorem read_of_isSkipped {token : Token} (h : token.isSkipped) (position : Nat) :
    b.read position token = .ok b := by
  cases token with
  | comment | instruction => rfl
  | doctype chars =>
    have named : (chars.drop 7).all isSpace = false := by simpa [Token.isSkipped] using h
    simp [read, checkDoctype, named]
  | _ => cases h

end Builder

/-- Reading what stands for elements and text adds them. -/
theorem Content.readAll {scope : Scope} {start : Nat} {tokens : List Token}
    {elements : List Element} {pieces : List (List Char)}
    (h : Content scope start tokens elements pieces) (b : Builder) (inScope : b.scope = scope)
    (room : b.HasRoomFor elements) (more : List Token) :
    b.readAll start (tokens ++ more) =
      (b.add elements pieces).readAll (start + width tokens) more := by
  induction h generalizing b more with
  | nil => rw [b.add_nil]; rfl
  | @chars scope start token piece tokens elements pieces h _ ih =>
    have room' : (b.add [] [piece]).HasRoomFor elements := .add room
    rw [List.cons_append, Builder.readAll_cons (Builder.read_of_chars? h start),
      ih _ (by rw [b.scope_add, inScope]) room', b.add_add, width_cons, Nat.add_assoc]
    rfl
  | skip h _ ih =>
    rw [List.cons_append, Builder.readAll_cons (Builder.read_of_isSkipped h _),
      ih b inScope room, width_cons, Nat.add_assoc]
  | @emptyTag scope start content element tokens elements pieces h opened _ ih =>
    have step : b.read start (.opening content) = .ok (b.add [element.filled [] []] []) := by
      rw [← Builder.attach_eq room.head]
      exact openTag_of_emptyTag h (inScope ▸ opened)
    have room' : (b.add [element.filled [] []] []).HasRoomFor elements := .add room
    rw [List.cons_append, Builder.readAll_cons step, ih _ (by rw [b.scope_add, inScope]) room',
      b.add_add, width_cons, Nat.add_assoc]
    rfl
  | @element scope start content element inside children texts name tokens elements pieces h opened
      _ closed _ ihInner ihRest =>
    let inner : Builder := ⟨⟨tagName content, element, [], []⟩ :: b.stack, b.root⟩
    have first : b.read start (.opening content) = .ok inner :=
      openTag_of_startTag h (inScope ▸ opened)
    have last (position : Nat) : (inner.add children texts).read position (.closing name) =
        .ok (b.add [element.filled children texts] []) := by
      rw [← Builder.attach_eq room.head]
      change Builder.close ⟨_ :: b.stack, b.root⟩ name position = _
      rw [close_of_stack, if_pos closed.symm]
      simp [OpenElement.finish, Element.filled]
    have room' : (b.add [element.filled children texts] []).HasRoomFor elements := .add room
    have offset : start + (Token.opening content).width + width inside +
        (Token.closing name).width =
          start + width (.opening content :: (inside ++ [.closing name])) := by
      rw [width_cons, width_append, width_singleton]
      omega
    have whole : Token.opening content :: (inside ++ .closing name :: tokens) =
        .opening content :: (inside ++ [.closing name]) ++ tokens := by simp
    rw [List.cons_append, Builder.readAll_cons first, List.append_assoc, List.cons_append,
      ihInner inner rfl (fun empty => absurd empty (List.cons_ne_nil _ _)),
      Builder.readAll_cons (last _), offset, ihRest _ (by rw [b.scope_add, inScope]) room',
      b.add_add, whole, width_append, Nat.add_assoc]
    rfl

/-- A text is a document if and only if it can be cut into tokens to its end and these stand for one
element, its root. -/
theorem ofText_eq_ok_iff : Element.ofText text = .ok root ↔
    (tokenize (withoutMarks text)).2 = none ∧
      ∃ pieces, Content [] 0 (documentTokens text) [root] pieces := by
  constructor
  · intro h
    obtain ⟨fine, position, steps⟩ := ofText_eq_ok h
    have whole := (Reads.outside .nil : Reads [] Builder.empty).readAll steps
    rw [List.nil_append] at whole
    generalize documentTokens text = tokens at whole
    cases whole with
    | outside content => exact ⟨fine, _, content⟩
  · rintro ⟨fine, pieces, content⟩
    have steps := content.readAll Builder.empty rfl (fun _ => by simp [Builder.empty]) []
    rw [List.append_nil] at steps
    rw [Element.ofText]
    simp only [show (tokenize (withoutMarks text)).1 = documentTokens text from rfl, steps,
      Builder.readAll, fine]
    rfl

/-- The tokens of a document are all of its text. -/
theorem sources_of_ofText (h : Element.ofText text = .ok root) :
    sources (documentTokens text) = withoutMarks text :=
  source_tokenize (ofText_eq_ok h).1

end SoapBindings.Xml
