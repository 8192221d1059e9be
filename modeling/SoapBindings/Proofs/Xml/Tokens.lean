import SoapBindings.Xml.Token

/-!
# Where tokens stand

The tokens of a text stand one behind the other, so a token begins where the bytes of those before
it end, and what a tokenizer without a fault delivers is the whole text (`source_tokenize`). Of the
tokens the start tags matter most, empty tags among them, each with the byte offset of its `<`
(`startTags`). A start tag is named by its offset alone, since no two of them have one
(`pairwise_startTags`).
-/

set_option autoImplicit false

namespace SoapBindings.Xml

/-! ## Bytes -/

theorem byteWidth_cons (c : Char) (cs : List Char) :
    byteWidth (c :: cs) = c.utf8Size + byteWidth cs := rfl

theorem byteWidth_append (as bs : List Char) :
    byteWidth (as ++ bs) = byteWidth as + byteWidth bs := by
  induction as with
  | nil => simp [byteWidth]
  | cons c as ih => rw [List.cons_append, byteWidth_cons, byteWidth_cons, ih, Nat.add_assoc]

/-- Of two openings of a text, those with the same number of bytes are the same. -/
theorem eq_of_byteWidth_eq {as bs cs ds : List Char} (same : as ++ cs = bs ++ ds)
    (width : byteWidth as = byteWidth bs) : as = bs ∧ cs = ds := by
  induction as generalizing bs with
  | nil =>
    cases bs with
    | nil => exact ⟨rfl, same⟩
    | cons b bs =>
      have positive := b.utf8Size_pos
      rw [byteWidth_cons] at width
      change 0 = _ at width
      omega
  | cons a as ih =>
    cases bs with
    | nil =>
      have positive := a.utf8Size_pos
      rw [byteWidth_cons] at width
      change _ = 0 at width
      omega
    | cons b bs =>
      obtain ⟨rfl, rest⟩ := List.cons.inj same
      rw [byteWidth_cons, byteWidth_cons, Nat.add_left_cancel_iff] at width
      obtain ⟨rfl, after⟩ := ih rest width
      exact ⟨rfl, after⟩

/-! ## Sources -/

/-- Some tokens as they stand in the document. -/
def sources (tokens : List Token) : List Char := tokens.flatMap Token.source

theorem sources_cons (token : Token) (tokens : List Token) :
    sources (token :: tokens) = token.source ++ sources tokens := rfl

theorem sources_append (tokens more : List Token) :
    sources (tokens ++ more) = sources tokens ++ sources more := List.flatMap_append

/-- The number of bytes of some tokens. -/
def width (tokens : List Token) : Nat := byteWidth (sources tokens)

theorem width_cons (token : Token) (tokens : List Token) :
    width (token :: tokens) = token.width + width tokens := byteWidth_append _ _

theorem width_singleton (token : Token) : width [token] = token.width := by
  rw [width_cons]
  rfl

theorem width_append (tokens more : List Token) :
    width (tokens ++ more) = width tokens + width more := by
  rw [width, sources_append, byteWidth_append, width, width]

theorem width_opening_pos (content : List Char) : 0 < (Token.opening content).width := by
  have positive := ('<').utf8Size_pos
  rw [Token.width, Token.source, List.cons_append, byteWidth_cons]
  omega

theorem tokenize_of_taken {cs : List Char} {nonempty : cs ≠ []} {taken : Taken cs}
    (h : takeToken cs nonempty = .ok taken) :
    tokenize cs = (taken.token :: (tokenize taken.rest).1, (tokenize taken.rest).2) := by
  rw [tokenize, dif_neg nonempty, h]

/-- The tokens of a text that can be cut to its end are the whole text. -/
theorem source_tokenize {cs : List Char} (h : (tokenize cs).2 = none) :
    sources (tokenize cs).1 = cs := by
  fun_induction tokenize cs with
  | case1 => rfl
  | case2 => cases h
  | case3 cs nonempty taken _ _ tokens fault rest ih =>
    rw [rest] at ih
    rw [sources_cons, ih h, taken.whole]

/-- What follows a token of a text has the tokens that follow it. -/
theorem tokenize_of_append {cs : List Char} {before after : List Token}
    (fine : (tokenize cs).2 = none) (h : (tokenize cs).1 = before ++ after) :
    tokenize (sources after) = (after, none) := by
  induction before generalizing cs with
  | nil =>
    rw [List.nil_append] at h
    rw [← h, source_tokenize fine]
    exact Prod.ext rfl fine
  | cons token before ih =>
    by_cases empty : cs = []
    · rw [tokenize, dif_pos empty] at h
      cases h
    · cases took : takeToken cs empty with
      | error fault =>
        rw [tokenize, dif_neg empty, took] at h
        cases h
      | ok taken =>
        rw [tokenize_of_taken took] at h fine
        exact ih fine (List.cons.inj h).2

/-! ## Start tags -/

/-- The start tags and empty tags among some tokens in their order, each with its offset; the
tokens begin at a given offset. -/
def startTags (start : Nat) : List Token → List (Nat × List Char)
  | [] => []
  | .opening content :: rest =>
    (start, content) :: startTags (start + (Token.opening content).width) rest
  | token :: rest => startTags (start + token.width) rest

theorem startTags_opening (start : Nat) (content : List Char) (tokens : List Token) :
    startTags start (.opening content :: tokens) =
      (start, content) :: startTags (start + (Token.opening content).width) tokens := rfl

theorem startTags_cons_of_ne {token : Token} (h : ∀ content, token ≠ .opening content)
    (start : Nat) (tokens : List Token) :
    startTags start (token :: tokens) = startTags (start + token.width) tokens := by
  cases token with
  | opening content => exact absurd rfl (h content)
  | _ => rfl

theorem startTags_append (start : Nat) (tokens more : List Token) :
    startTags start (tokens ++ more) =
      startTags start tokens ++ startTags (start + width tokens) more := by
  induction tokens generalizing start with
  | nil => rfl
  | cons token tokens ih =>
    have next := ih (start + token.width)
    rw [Nat.add_assoc, ← width_cons] at next
    cases token <;> simp only [List.cons_append, startTags, next]

theorem le_of_mem_startTags {start : Nat} {tokens : List Token} {tag : Nat × List Char}
    (h : tag ∈ startTags start tokens) : start ≤ tag.1 := by
  induction tokens generalizing start with
  | nil => cases h
  | cons token tokens ih =>
    cases token with
    | opening content =>
      rcases List.mem_cons.mp h with rfl | later
      · exact Nat.le_refl _
      · exact Nat.le_of_add_right_le (ih later)
    | _ => exact Nat.le_of_add_right_le (ih h)

theorem pairwise_startTags (start : Nat) (tokens : List Token) :
    (startTags start tokens).Pairwise fun tag later => tag.1 < later.1 := by
  induction tokens generalizing start with
  | nil => exact .nil
  | cons token tokens ih =>
    cases token with
    | opening content =>
      refine .cons (fun later h => ?_) (ih _)
      have bound := le_of_mem_startTags h
      have positive := width_opening_pos content
      omega
    | _ => exact ih _

/-- The start tag at an offset of a document. -/
theorem lookup_startTags {start : Nat} {tokens : List Token} {position : Nat}
    {content : List Char} :
    (startTags start tokens).lookup position = some content ↔
      (position, content) ∈ startTags start tokens := by
  have ordered := pairwise_startTags start tokens
  generalize startTags start tokens = tags at ordered
  induction tags with
  | nil => simp
  | cons tag tags ih =>
    obtain ⟨first, rest⟩ := List.pairwise_cons.mp ordered
    rw [List.lookup_cons]
    by_cases here : position = tag.1
    · subst here
      have others : ∀ content, (tag.1, content) ∉ tags := fun content h =>
        Nat.lt_irrefl tag.1 (first (tag.1, content) h)
      simp [Prod.ext_iff, others, eq_comm]
    · have apart : (position == tag.1) = false := by simpa using here
      simp [apart, ih rest, Prod.ext_iff, here]

/-- A start tag among some tokens, with what is before it and behind it. -/
theorem exists_append_of_mem_startTags {start : Nat} {tokens : List Token} {position : Nat}
    {content : List Char} (h : (position, content) ∈ startTags start tokens) :
    ∃ before after, tokens = before ++ .opening content :: after ∧
      position = start + width before := by
  induction tokens generalizing start with
  | nil => cases h
  | cons token tokens ih =>
    have later (h : (position, content) ∈ startTags (start + token.width) tokens) :
        ∃ before after, token :: tokens = before ++ .opening content :: after ∧
          position = start + width before := by
      obtain ⟨before, after, rfl, rfl⟩ := ih h
      exact ⟨token :: before, after, rfl, by rw [width_cons, Nat.add_assoc]⟩
    cases token with
    | opening chars =>
      rcases List.mem_cons.mp h with first | h
      · obtain ⟨rfl, rfl⟩ := Prod.mk.inj first
        exact ⟨[], tokens, rfl, rfl⟩
      · exact later h
    | _ => exact later h

end SoapBindings.Xml
