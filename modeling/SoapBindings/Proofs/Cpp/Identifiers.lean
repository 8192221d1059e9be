import Mathlib.Data.List.Basic
import SoapBindings.Cpp.Scope
import SoapBindings.Proofs.Text.Numbered

/-!
# Identifiers

What may stand as a name in generated text, said as a property (`IsIdentifier`), and the functions
that give names with it. Two facts about keywords carry this: each begins with a small letter and
ends with a letter. So an underscore or a number behind a word never makes a keyword of it, and a
word that does not begin with a small letter is none whatever stands behind it.
-/

set_option autoImplicit false

namespace SoapBindings.Cpp

open Text

def IsWordChar (c : Char) : Prop := isAsciiAlphanum c ∨ c = '_'

/-- Letters, digits and underscores, no digit first. -/
structure IsWord (cs : List Char) : Prop where
  nonempty : cs ≠ []
  chars : ∀ c ∈ cs, IsWordChar c
  start : ∀ c ∈ cs.head?, ¬ isAsciiDigit c

/-- A word that is no keyword. -/
structure IsIdentifier (name : String) : Prop where
  word : IsWord name.toList
  notKeyword : ¬ isKeyword name

variable {cs ds : List Char} {name : String}

-- What holds of the characters of a text is decided over the text, never over all characters.
instance decidableForallChars {p : Char → Prop} [DecidablePred p] (cs : List Char) :
    Decidable (∀ c ∈ cs, p c) :=
  List.decidableBAll p cs

instance decidableForallChar {p : Char → Prop} [DecidablePred p] (c : Option Char) :
    Decidable (∀ d ∈ c, p d) :=
  c.decidableForallMem

instance (c : Char) : Decidable (IsWordChar c) :=
  inferInstanceAs (Decidable (isAsciiAlphanum c = true ∨ c = '_'))

instance (cs : List Char) : Decidable (IsWord cs) :=
  decidable_of_iff (cs ≠ [] ∧ (∀ c ∈ cs, IsWordChar c) ∧ ∀ c ∈ cs.head?, ¬ isAsciiDigit c)
    ⟨fun h => ⟨h.1, h.2.1, h.2.2⟩, fun h => ⟨h.nonempty, h.chars, h.start⟩⟩

instance (name : String) : Decidable (IsIdentifier name) :=
  decidable_of_iff (IsWord name.toList ∧ ¬ isKeyword name)
    ⟨fun h => ⟨h.1, h.2⟩, fun h => ⟨h.word, h.notKeyword⟩⟩

/-! ## Keywords -/

theorem isKeyword_iff : isKeyword name ↔ name ∈ keywords := by
  rw [isKeyword, List.contains_iff_mem]

theorem head_of_mem_keywords : ∀ w ∈ keywords, ∀ c ∈ w.toList.head?, 'a' ≤ c ∧ c ≤ 'z' := by decide

theorem getLast_of_mem_keywords : ∀ w ∈ keywords, ∀ c ∈ w.toList.getLast?, isAsciiAlpha c := by
  decide

/-- No keyword ends with something that is not a letter. -/
theorem not_isKeyword_append {word tail : String} (nonempty : tail ≠ "")
    (noLetter : ∀ c ∈ tail.toList, ¬ isAsciiAlpha c) : ¬ isKeyword (word ++ tail) := by
  intro keyword
  have nonempty : tail.toList ≠ [] := fun h => nonempty (String.toList_eq_nil_iff.mp h)
  obtain ⟨c, hc⟩ := Option.ne_none_iff_exists'.mp (mt List.getLast?_eq_none_iff.mp nonempty)
  have last : c ∈ (word ++ tail).toList.getLast? := by
    rw [String.toList_append, List.getLast?_append, hc]
    rfl
  have letter := getLast_of_mem_keywords _ (isKeyword_iff.mp keyword) c last
  exact noLetter c (List.mem_of_getLast? hc) letter

/-! ## Words -/

theorem isWordChar_identifierChar (c : Char) : IsWordChar (identifierChar c) := by
  rw [identifierChar]
  split
  · next h => exact Or.inl h
  · exact Or.inr rfl

theorem identifierChar_of_isWordChar {c : Char} (h : IsWordChar c) : identifierChar c = c := by
  rw [identifierChar]
  split
  · rfl
  · next other => exact (h.resolve_left other).symm

theorem IsWord.not_mem (h : IsWord cs) {c : Char} (other : ¬ IsWordChar c) : c ∉ cs :=
  fun hc => other (h.chars c hc)

theorem IsWord.append (h : IsWord cs) (more : ∀ c ∈ ds, IsWordChar c) : IsWord (cs ++ ds) := by
  refine ⟨List.append_ne_nil_of_left_ne_nil h.nonempty ds, ?_, ?_⟩
  · intro c hc
    rcases List.mem_append.mp hc with hc | hc
    · exact h.chars c hc
    · exact more c hc
  · rw [List.head?_append_of_ne_nil cs h.nonempty]
    exact h.start

theorem IsWord.map_identifierChar (h : IsWord cs) : cs.map identifierChar = cs := by
  conv_rhs => rw [← List.map_id cs]
  exact List.map_congr_left fun c hc => identifierChar_of_isWordChar (h.chars c hc)

theorem not_isAsciiAlpha_of_isAsciiDigit {c : Char} (h : isAsciiDigit c) : ¬ isAsciiAlpha c := by
  simp only [isAsciiDigit, isAsciiAlpha, Bool.and_eq_true, Bool.or_eq_true, decide_eq_true_eq,
    Char.le_def, UInt32.le_iff_toNat_le] at h ⊢
  have bound : c.val.toNat ≤ 57 := h.2
  rintro (⟨letter, _⟩ | ⟨letter, _⟩)
  · exact absurd (show 97 ≤ c.val.toNat from letter) (by omega)
  · exact absurd (show 65 ≤ c.val.toNat from letter) (by omega)

theorem isAsciiDigit_of_mem_toString {n : Nat} {c : Char} (h : c ∈ (toString n).toList) :
    isAsciiDigit c :=
  Nat.isDigit_of_mem_toDigits (by decide) (by decide) (Nat.toList_repr ▸ h)

theorem isWordChar_of_isAsciiDigit {c : Char} (h : isAsciiDigit c) : IsWordChar c := by
  rw [IsWordChar, isAsciiAlphanum, h, Bool.or_true]
  exact Or.inl rfl

/-! ## Identifiers -/

theorem IsIdentifier.numbered (h : IsIdentifier name) (n : Nat) :
    IsIdentifier (candidate name n) where
  word := by
    rw [candidate, String.toList_append]
    exact h.word.append fun c hc => isWordChar_of_isAsciiDigit (isAsciiDigit_of_mem_toString hc)
  notKeyword := not_isKeyword_append Nat.repr_ne_empty fun c hc =>
    not_isAsciiAlpha_of_isAsciiDigit (isAsciiDigit_of_mem_toString hc)

theorem isIdentifier_avoidKeyword (h : IsWord name.toList) : IsIdentifier (avoidKeyword name) := by
  rw [avoidKeyword]
  split
  · refine ⟨?_, not_isKeyword_append (by decide) (by decide)⟩
    rw [String.toList_append]
    exact h.append fun c hc => Or.inr (List.mem_singleton.mp hc)
  · next free => exact ⟨h, free⟩

/-- A name that is an identifier stays as it is. -/
theorem IsIdentifier.sanitize_eq (h : IsIdentifier name) : sanitize name = name := by
  have chars := h.word.map_identifierChar
  have start : ∀ c rest, name.toList = c :: rest → isAsciiDigit c = false := by
    intro c rest hc
    exact Bool.eq_false_iff.mpr (h.word.start c (by rw [hc]; rfl))
  rw [sanitize, chars]
  cases hname : name.toList with
  | nil => exact absurd hname h.word.nonempty
  | cons c rest =>
    simp only [start c rest hname, Bool.false_eq_true, if_false]
    rw [← hname, String.ofList_toList, avoidKeyword, if_neg h.notKeyword]

/-- Whatever the name is like, an identifier is made of it. -/
theorem isIdentifier_sanitize (name : String) : IsIdentifier (sanitize name) := by
  have chars : ∀ c ∈ name.toList.map identifierChar, IsWordChar c := by
    intro c hc
    obtain ⟨d, _, rfl⟩ := List.mem_map.mp hc
    exact isWordChar_identifierChar d
  rw [sanitize]
  apply isIdentifier_avoidKeyword
  rw [String.toList_ofList]
  cases h : name.toList.map identifierChar with
  | nil => decide
  | cons c rest =>
    rw [h] at chars
    by_cases digit : isAsciiDigit c
    · simp only [digit, if_true]
      have first : IsWord ['_'] := by decide
      exact first.append chars
    · simp only [digit, Bool.false_eq_true, if_false]
      refine ⟨List.cons_ne_nil _ _, chars, ?_⟩
      intro d hd
      cases hd
      exact digit

/-- What a name is made an identifier with: underscores before it and behind it. -/
theorem exists_toList_sanitize (name : String) : ∃ before behind,
    (sanitize name).toList = before ++ name.toList.map identifierChar ++ behind ∧
      (∀ c ∈ before, c = '_') ∧ ∀ c ∈ behind, c = '_' := by
  have avoided (text : List Char) : ∃ behind,
      (avoidKeyword (String.ofList text)).toList = text ++ behind ∧ ∀ c ∈ behind, c = '_' := by
    rw [avoidKeyword]
    split
    · exact ⟨['_'], by simp, by simp⟩
    · exact ⟨[], by simp, by simp⟩
  obtain ⟨behind, whole, underscores⟩ := avoided (name.toList.map identifierChar)
  obtain ⟨behind', whole', underscores'⟩ := avoided ('_' :: name.toList.map identifierChar)
  rw [sanitize]
  split_ifs
  · exact ⟨['_'], behind', whole', by simp, underscores'⟩
  · exact ⟨[], behind, whole, by simp, underscores⟩

/-- An identifier without underscores is made of nothing but itself. -/
theorem sanitize_eq_iff {word : String} (identifier : IsIdentifier word)
    (plain : '_' ∉ word.toList) : sanitize name = word ↔ name = word := by
  refine ⟨fun h => ?_, fun h => by rw [h, identifier.sanitize_eq]⟩
  obtain ⟨before, behind, whole, ahead, after⟩ := exists_toList_sanitize name
  rw [h] at whole
  have none (cs : List Char) (underscores : ∀ c ∈ cs, c = '_') (sub : ∀ c ∈ cs, c ∈ word.toList) :
      cs = [] := by
    refine List.eq_nil_iff_forall_not_mem.mpr fun c hc => ?_
    exact plain (underscores c hc ▸ sub c hc)
  obtain rfl := none before ahead fun c hc => by simp [whole, hc]
  obtain rfl := none behind after fun c hc => by simp [whole, hc]
  have kept : name.toList.map identifierChar = name.toList := by
    conv_rhs => rw [← List.map_id name.toList]
    refine List.map_congr_left fun c hc => ?_
    have mem : identifierChar c ∈ word.toList := by
      rw [whole]
      simpa using ⟨c, hc, rfl⟩
    rw [identifierChar] at mem ⊢
    split
    · rfl
    · next other => exact absurd (by simpa [other] using mem) plain
  rw [List.nil_append, List.append_nil, kept] at whole
  exact (String.toList_inj.mp whole).symm

/-! ## Names that are given -/

section

variable {taken : List String} {wanted code : String}

theorem freeName_of_not_mem (free : wanted ∉ taken) : freeName taken wanted code = wanted := by
  rw [freeName, if_pos]
  simpa using free

theorem freeName_of_mem (h : wanted ∈ taken) :
    freeName taken wanted code = unused taken (wanted ++ "_" ++ code) := by
  rw [freeName, if_neg]
  simpa using h

/-- A name that is taken gets an underscore, the code and perhaps a number. -/
theorem freeName_cases (taken : List String) (wanted code : String) :
    (wanted ∉ taken ∧ freeName taken wanted code = wanted) ∨
      (wanted ∈ taken ∧ ∃ number : String, (∀ c ∈ number.toList, isAsciiDigit c) ∧
        freeName taken wanted code = wanted ++ ("_" ++ code ++ number)) := by
  by_cases h : wanted ∈ taken
  · refine Or.inr ⟨h, ?_⟩
    have whole (number : String) : wanted ++ "_" ++ code ++ number =
        wanted ++ ("_" ++ code ++ number) := by simp only [String.append_assoc]
    rw [freeName_of_mem h]
    rcases unused_eq_or_candidate taken (wanted ++ "_" ++ code) with same | ⟨n, numbered⟩
    · exact ⟨"", by simp, by rw [same, ← whole, String.append_empty]⟩
    · exact ⟨toString n, fun c => isAsciiDigit_of_mem_toString, numbered.trans (whole _)⟩
  · exact Or.inl ⟨h, freeName_of_not_mem h⟩

end

end SoapBindings.Cpp
