import Mathlib.Data.List.Basic
import SoapBindings.Text.Blank
import SoapBindings.Text.Split

/-!
# Cutting and putting together

Every way of cutting a text is undone by putting the parts together again, and is determined by
that: what follows an opening (`after?_eq_some_iff`), what is before and behind the first separator
(`splitFirst_eq_some_iff`) or the last (`splitLast_eq_some_iff`), the parts between all separators
(`intercalate_splitWhere`, `splitWhere_append`).

What is removed from the two ends of a text is all that `drop` accepts there, so nothing that it
accepts matters when it is put around a text (`stripBoth_around`, `trim_around`). The words of a
text do not change either (`wordsBetween_of_trim_eq`).
-/

set_option autoImplicit false

namespace SoapBindings.Text

/-! ## Openings -/

theorem after?_append (opening rest : List Char) :
    after? opening (opening ++ rest) = some rest := by
  induction opening with
  | nil => rfl
  | cons o opening ih => rw [List.cons_append, after?, if_pos rfl, ih]

theorem after?_append_append (opening rest cs : List Char) :
    after? (opening ++ rest) (opening ++ cs) = after? rest cs := by
  induction opening with
  | nil => rfl
  | cons o opening ih => rw [List.cons_append, List.cons_append, after?, if_pos rfl, ih]

theorem after?_eq_some_iff {opening cs rest : List Char} :
    after? opening cs = some rest ↔ opening ++ rest = cs :=
  ⟨append_of_after?, fun h => h ▸ after?_append opening rest⟩

/-- What does not have a character does not begin with an opening that has it. -/
theorem after?_of_not_mem {opening cs : List Char} {c : Char} (has : c ∈ opening) (none : c ∉ cs) :
    after? opening cs = Option.none := by
  cases h : after? opening cs with
  | none => rfl
  | some rest =>
    have whole := append_of_after? h
    exact absurd (whole ▸ List.mem_append_left rest has) none

/-! ## The first separator -/

/-- What stands before and after the first mark. -/
theorem splitFirst_append {c : Char} {before : List Char} (h : c ∉ before) (after : List Char) :
    splitFirst c (before ++ c :: after) = some (before, after) := by
  induction before with
  | nil => simp [splitFirst]
  | cons d before ih =>
    rw [List.mem_cons, not_or] at h
    have other : (d == c) = false := beq_eq_false_iff_ne.mpr (Ne.symm h.1)
    rw [List.cons_append, splitFirst, other, ih h.2]
    rfl

theorem splitFirst_of_not_mem {mark : Char} {cs : List Char} (h : mark ∉ cs) :
    splitFirst mark cs = none := by
  induction cs with
  | nil => rfl
  | cons c cs ih =>
    rw [List.mem_cons, not_or] at h
    have other : (c == mark) = false := beq_eq_false_iff_ne.mpr (Ne.symm h.1)
    rw [splitFirst, other, ih h.2]
    rfl

theorem splitFirst_eq_some_iff {mark : Char} {cs before after : List Char} :
    splitFirst mark cs = some (before, after) ↔ mark ∉ before ∧ cs = before ++ mark :: after := by
  refine ⟨fun h => ?_, fun ⟨absent, whole⟩ => whole ▸ splitFirst_append absent after⟩
  -- A text with the mark is cut at the first place of it, and this cut is the one that is found.
  by_cases has : mark ∈ cs
  · obtain ⟨front, rest, rfl, absent⟩ := List.eq_append_cons_of_mem has
    rw [splitFirst_append absent] at h
    obtain ⟨rfl, rfl⟩ := Prod.mk.inj (Option.some.inj h)
    exact ⟨absent, rfl⟩
  · rw [splitFirst_of_not_mem has] at h
    cases h

theorem splitFirst_eq_none_iff {mark : Char} {cs : List Char} :
    splitFirst mark cs = none ↔ mark ∉ cs := by
  refine ⟨fun h has => ?_, splitFirst_of_not_mem⟩
  obtain ⟨front, rest, rfl, absent⟩ := List.eq_append_cons_of_mem has
  rw [splitFirst_append absent] at h
  cases h

/-! ## The last separator -/

/-- The last mark is the first one from the other end. -/
theorem splitLast_eq_some_iff {mark : Char} {cs before after : List Char} :
    splitLast mark cs = some (before, after) ↔ mark ∉ after ∧ cs = before ++ mark :: after := by
  have reversed (front back : List Char) : splitLast mark cs = some (front.reverse, back.reverse) ↔
      splitFirst mark cs.reverse = some (back, front) := by
    simp [splitLast, and_comm]
  rw [← before.reverse_reverse, ← after.reverse_reverse, reversed, splitFirst_eq_some_iff,
    List.mem_reverse, List.reverse_eq_iff]
  simp

theorem splitLast_eq_none_iff {mark : Char} {cs : List Char} :
    splitLast mark cs = none ↔ mark ∉ cs := by
  rw [splitLast, Option.map_eq_none_iff, splitFirst_eq_none_iff, List.mem_reverse]

/-! ## All separators -/

theorem splitWhere_ne_nil (separates : Char → Bool) (cs : List Char) :
    splitWhere separates cs ≠ [] := by
  cases cs with
  | nil => exact List.cons_ne_nil _ _
  | cons c cs =>
    rw [splitWhere]
    split
    · exact List.cons_ne_nil _ _
    · split <;> exact List.cons_ne_nil _ _

/-- The parts of a text are the text again, with a separator between one and the next. -/
theorem intercalate_splitWhere (separator : Char) (cs : List Char) :
    [separator].intercalate (splitWhere (· == separator) cs) = cs := by
  induction cs with
  | nil => rfl
  | cons c cs ih =>
    have nonempty := splitWhere_ne_nil (· == separator) cs
    rw [splitWhere]
    split
    next separates =>
      rw [List.intercalate_cons_of_ne_nil nonempty, ih, ← beq_iff_eq.mp separates]
      rfl
    next =>
      split
      next none => exact absurd none nonempty
      next part parts split => rw [List.intercalate_cons_cons_left, ← split, ih]

section

variable {separates : Char → Bool}

/-- Two texts with a separator between them have the parts of both. -/
theorem splitWhere_append {c : Char} (h : separates c) (before after : List Char) :
    splitWhere separates (before ++ c :: after) =
      splitWhere separates before ++ splitWhere separates after := by
  induction before with
  | nil => simp [splitWhere, h]
  | cons d before ih =>
    rw [List.cons_append, splitWhere, splitWhere, ih]
    split
    · rfl
    · cases parts : splitWhere separates before with
      | nil => exact absurd parts (splitWhere_ne_nil _ _)
      | cons part parts => rfl

/-- The parts of a text together have everything but the separators. -/
theorem flatten_splitWhere (separates : Char → Bool) (cs : List Char) :
    (splitWhere separates cs).flatten = cs.filter (!separates ·) := by
  induction cs with
  | nil => rfl
  | cons c cs ih =>
    rw [splitWhere]
    cases h : separates c with
    | true =>
      rw [if_pos rfl, List.flatten_cons, List.nil_append, ih, List.filter_cons_of_neg]
      simp [h]
    | false =>
      rw [if_neg Bool.false_ne_true, List.filter_cons_of_pos (by simp [h]), ← ih]
      cases parts : splitWhere separates cs with
      | nil => exact absurd parts (splitWhere_ne_nil _ _)
      | cons part parts => rfl

/-- A text without separators is its only part. -/
theorem splitWhere_of_forall {cs : List Char} (h : ∀ c ∈ cs, separates c = false) :
    splitWhere separates cs = [cs] := by
  induction cs with
  | nil => rfl
  | cons c cs ih =>
    obtain ⟨first, others⟩ := List.forall_mem_cons.mp h
    rw [splitWhere, first, ih others]
    rfl

/-- No part has a separator in it. -/
theorem separates_of_mem_splitWhere {cs part : List Char} (h : part ∈ splitWhere separates cs) :
    ∀ c ∈ part, separates c = false := by
  induction cs generalizing part with
  | nil =>
    obtain rfl := List.mem_singleton.mp h
    intro c hc
    cases hc
  | cons d cs ih =>
    rw [splitWhere] at h
    split at h
    · rcases List.mem_cons.mp h with rfl | later
      · intro c hc
        cases hc
      · exact ih later
    · next inside =>
      cases parts : splitWhere separates cs with
      | nil => exact absurd parts (splitWhere_ne_nil _ _)
      | cons first others =>
        rw [parts] at h ih
        rcases List.mem_cons.mp h with rfl | later
        · intro c hc
          rcases List.mem_cons.mp hc with rfl | hc
          · simpa using inside
          · exact ih List.mem_cons_self c hc
        · exact ih (List.mem_cons_of_mem _ later)

end

/-! ## White space around a text -/

section

variable {drop : Char → Bool} {front back cs : List Char}

theorem stripBoth_front (h : ∀ c ∈ front, drop c) :
    stripBoth drop (front ++ cs) = stripBoth drop cs := by
  rw [stripBoth, List.dropWhile_append_of_pos h, stripBoth]

/-- What is kept begins with the first character that is not dropped. -/
theorem stripBoth_cons {c : Char} (h : drop c = false) (cs : List Char) :
    stripBoth drop (c :: cs) = c :: stripEnd drop cs := by
  have stays : List.dropWhile drop [c] = [c] := by rw [List.dropWhile_cons, h, if_neg nofun]
  rw [stripBoth, List.dropWhile_cons, h, if_neg nofun, List.reverse_cons, List.dropWhile_append,
    stays, stripEnd]
  split
  · next gone =>
    rw [List.isEmpty_iff.mp gone, List.reverse_singleton, List.reverse_nil]
  · rw [List.reverse_append, List.reverse_singleton, List.singleton_append]

/-- A text is dropped as a whole, or cut at the first character that is not dropped. -/
theorem stripBoth_cases (drop : Char → Bool) (cs : List Char) :
    ((∀ c ∈ cs, drop c) ∧ stripBoth drop cs = []) ∨ ∃ front c rest, cs = front ++ c :: rest ∧
      (∀ c ∈ front, drop c) ∧ drop c = false ∧ stripBoth drop cs = c :: stripEnd drop rest := by
  induction cs with
  | nil => exact Or.inl ⟨nofun, rfl⟩
  | cons c cs ih =>
    cases hc : drop c with
    | false => exact Or.inr ⟨[], c, cs, rfl, nofun, hc, stripBoth_cons hc cs⟩
    | true =>
      have dropped : stripBoth drop (c :: cs) = stripBoth drop cs :=
        @stripBoth_front drop [c] cs fun d hd => List.mem_singleton.mp hd ▸ hc
      rcases ih with ⟨all, gone⟩ | ⟨front, d, rest, rfl, all, hd, kept⟩
      · exact Or.inl ⟨List.forall_mem_cons.mpr ⟨hc, all⟩, dropped.trans gone⟩
      · exact Or.inr ⟨c :: front, d, rest, rfl, List.forall_mem_cons.mpr ⟨hc, all⟩, hd,
          dropped.trans kept⟩

theorem stripBoth_eq_nil_iff : stripBoth drop cs = [] ↔ ∀ c ∈ cs, drop c := by
  rcases stripBoth_cases drop cs with ⟨all, gone⟩ | ⟨front, c, rest, rfl, -, hc, kept⟩
  · exact ⟨fun _ => all, fun _ => gone⟩
  · rw [kept]
    refine ⟨nofun, fun all => ?_⟩
    rw [all c (List.mem_append_right _ List.mem_cons_self)] at hc
    cases hc

theorem stripBoth_back (h : ∀ c ∈ back, drop c) :
    stripBoth drop (cs ++ back) = stripBoth drop cs := by
  have behind (rest : List Char) : stripEnd drop (rest ++ back) = stripEnd drop rest := by
    rw [stripEnd, List.reverse_append, List.dropWhile_append_of_pos, stripEnd]
    exact fun c hc => h c (List.mem_reverse.mp hc)
  rcases stripBoth_cases drop cs with ⟨all, gone⟩ | ⟨front, c, rest, rfl, all, hc, kept⟩
  · rw [gone, stripBoth_front all, stripBoth_eq_nil_iff.mpr h]
  · rw [kept, List.append_assoc, stripBoth_front all, List.cons_append, stripBoth_cons hc, behind]

/-- What is dropped may stand around a text or not. -/
theorem stripBoth_around (hfront : ∀ c ∈ front, drop c) (hback : ∀ c ∈ back, drop c) :
    stripBoth drop (front ++ cs ++ back) = stripBoth drop cs := by
  rw [stripBoth_back hback, stripBoth_front hfront]

/-- A text is what remains of it with what was dropped around that. -/
theorem exists_around_stripBoth (drop : Char → Bool) (cs : List Char) : ∃ front back,
    cs = front ++ stripBoth drop cs ++ back ∧ (∀ c ∈ front, drop c) ∧ ∀ c ∈ back, drop c := by
  rcases stripBoth_cases drop cs with ⟨all, gone⟩ | ⟨front, c, rest, rfl, all, -, kept⟩
  · exact ⟨cs, [], by rw [gone, List.append_nil, List.append_nil], all, nofun⟩
  · refine ⟨front, (rest.reverse.takeWhile drop).reverse, ?_, all, fun d hd => ?_⟩
    · have whole : stripEnd drop rest ++ (rest.reverse.takeWhile drop).reverse = rest := by
        rw [stripEnd, ← List.reverse_append, List.takeWhile_append_dropWhile, List.reverse_reverse]
      rw [kept, List.append_assoc, List.cons_append, whole]
    · exact List.all_eq_true.mp List.all_takeWhile d (List.mem_reverse.mp hd)

/-- The parts between separators that are not empty. -/
def wordsBetween (separates : Char → Bool) (cs : List Char) : List (List Char) :=
  (splitWhere separates cs).filter (!·.isEmpty)

theorem wordsBetween_append {c : Char} (h : drop c) (cs ds : List Char) :
    wordsBetween drop (cs ++ c :: ds) = wordsBetween drop cs ++ wordsBetween drop ds := by
  rw [wordsBetween, splitWhere_append h, List.filter_append, wordsBetween, wordsBetween]

theorem wordsBetween_of_forall (h : ∀ c ∈ cs, drop c) : wordsBetween drop cs = [] := by
  induction cs with
  | nil => rfl
  | cons c cs ih =>
    obtain ⟨first, others⟩ := List.forall_mem_cons.mp h
    exact (wordsBetween_append first [] cs).trans (ih others)

theorem wordsBetween_around (hfront : ∀ c ∈ front, drop c) (hback : ∀ c ∈ back, drop c) :
    wordsBetween drop (front ++ cs ++ back) = wordsBetween drop cs := by
  have before : wordsBetween drop (front ++ cs) = wordsBetween drop cs := by
    induction front with
    | nil => rfl
    | cons c front ih =>
      obtain ⟨first, others⟩ := List.forall_mem_cons.mp hfront
      exact (wordsBetween_append first [] (front ++ cs)).trans (ih others)
  cases back with
  | nil => rw [List.append_nil, before]
  | cons c back =>
    obtain ⟨first, others⟩ := List.forall_mem_cons.mp hback
    rw [wordsBetween_append first, wordsBetween_of_forall others, List.append_nil, before]

end

/-- Texts that differ by white space around them have the same words. -/
theorem wordsBetween_of_trim_eq {s s' : String} (same : trim s' = trim s) :
    wordsBetween isBlank s'.toList = wordsBetween isBlank s.toList := by
  have trimmed (s : String) :
      wordsBetween isBlank s.toList = wordsBetween isBlank (trim s).toList := by
    obtain ⟨front, back, whole, hfront, hback⟩ := exists_around_stripBoth isBlank s.toList
    calc wordsBetween isBlank s.toList
        = wordsBetween isBlank (front ++ stripBoth isBlank s.toList ++ back) := by rw [← whole]
      _ = wordsBetween isBlank (stripBoth isBlank s.toList) := wordsBetween_around hfront hback
      _ = wordsBetween isBlank (trim s).toList := by rw [trim, String.toList_ofList]
  rw [trimmed s', trimmed s, same]

theorem trim_eq_empty_iff {s : String} : trim s = "" ↔ ∀ c ∈ s.toList, isBlank c := by
  rw [trim, String.ofList_eq_empty_iff, stripBoth_eq_nil_iff]

/-- White space may stand around a text or not. -/
theorem trim_around {front back : String} (hfront : isBlankText front) (hback : isBlankText back)
    (s : String) : trim (front ++ s ++ back) = trim s := by
  rw [isBlankText, List.all_eq_true] at hfront hback
  rw [trim, String.toList_append, String.toList_append, stripBoth_around hfront hback, trim]

end SoapBindings.Text
