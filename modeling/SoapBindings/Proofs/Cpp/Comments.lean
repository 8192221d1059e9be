import Mathlib.Data.List.Infix
import Mathlib.Data.List.TakeWhile
import SoapBindings.Cpp.Header
import SoapBindings.Proofs.Text.Split

/-!
# Where a comment ends

A compiler takes a comment to end at the first place that can end one. That is the end of the last
line that is written for it, unless the documentation has such a place of its own
(`isComment_comment_iff`). None comes about where a line of the documentation meets what is written
around it, because there is always a blank or a line end between them.
-/

set_option autoImplicit false

namespace SoapBindings.Cpp

open Text

/-! ## What can stand in a comment -/

/-- No place of the text ends the comment that it stands in. -/
def FitsComment (cs : List Char) : Prop := ¬ ['*', '/'] <:+: cs

/-- The character is no part of what ends a comment. -/
def IsNeutral (c : Char) : Prop := c ≠ '*' ∧ c ≠ '/'

theorem fitsComment_cons {c : Char} {cs : List Char} :
    FitsComment (c :: cs) ↔ ¬ (c = '*' ∧ cs.head? = some '/') ∧ FitsComment cs := by
  rw [FitsComment, List.infix_cons_iff, List.cons_prefix_cons,
    List.singleton_prefix_iff_head?_eq_some, eq_comm, not_or, FitsComment]

theorem fitsComment_of_neutral {cs : List Char} (h : ∀ c ∈ cs, IsNeutral c) : FitsComment cs :=
  fun ends => (h '*' (ends.subset List.mem_cons_self)).1 rfl

theorem fitsComment_nil : FitsComment [] := fitsComment_of_neutral (by simp)

theorem fitsComment_star : FitsComment ['*'] := by
  simp [fitsComment_cons, fitsComment_nil]

/-- What ends a comment does not reach over a neutral character. -/
theorem fitsComment_append_cons {as : List Char} {c : Char} {bs : List Char} (h : IsNeutral c) :
    FitsComment (as ++ c :: bs) ↔ FitsComment as ∧ FitsComment bs := by
  induction as with
  | nil => simp [fitsComment_cons, h.1, fitsComment_nil]
  | cons a as ih =>
    -- A star at the end would need a slash behind it, and finds the neutral character.
    have head : (as ++ c :: bs).head? = some '/' ↔ as.head? = some '/' := by
      cases as <;> simp [h.2]
    rw [List.cons_append, fitsComment_cons, fitsComment_cons, head, ih, and_assoc]

theorem fitsComment_append_neutral {as bs : List Char} (h : ∀ c ∈ bs, IsNeutral c) :
    FitsComment (as ++ bs) ↔ FitsComment as := by
  cases bs with
  | nil => rw [List.append_nil]
  | cons c bs =>
    obtain ⟨first, others⟩ := List.forall_mem_cons.mp h
    rw [fitsComment_append_cons first, and_iff_left (fitsComment_of_neutral others)]

theorem fitsComment_neutral_append {as bs : List Char} (h : ∀ c ∈ as, IsNeutral c) :
    FitsComment (as ++ bs) ↔ FitsComment bs := by
  induction as with
  | nil => rfl
  | cons a as ih =>
    obtain ⟨first, others⟩ := List.forall_mem_cons.mp h
    rw [List.cons_append, fitsComment_cons, ih others,
      and_iff_right fun starts => first.1 starts.1]

/-! ## Lines of a documentation -/

theorem isNeutral_of_isBlank {c : Char} (h : isBlank c) : IsNeutral c := by
  constructor
  · rintro rfl
    exact absurd h (by decide)
  · rintro rfl
    exact absurd h (by decide)

theorem fitsComment_dropWhile {p : Char → Bool} (h : ∀ c, p c → IsNeutral c) (cs : List Char) :
    FitsComment (cs.dropWhile p) ↔ FitsComment cs := by
  have dropped : ∀ c ∈ cs.takeWhile p, IsNeutral c := fun c hc => h c (List.mem_takeWhile_imp hc)
  rw [← fitsComment_neutral_append dropped, List.takeWhile_append_dropWhile]

theorem fitsComment_stripBoth {p : Char → Bool} (h : ∀ c, p c → IsNeutral c) (cs : List Char) :
    FitsComment (stripBoth p cs) ↔ FitsComment cs := by
  rw [← fitsComment_dropWhile h cs, stripBoth]
  generalize cs.dropWhile p = rest
  have dropped : ∀ c ∈ (rest.reverse.takeWhile p).reverse, IsNeutral c :=
    fun c hc => h c (List.mem_takeWhile_imp (List.mem_reverse.mp hc))
  rw [← fitsComment_append_neutral dropped, ← List.reverse_append, List.takeWhile_append_dropWhile,
    List.reverse_reverse]

theorem isNeutral_space : IsNeutral ' ' := isNeutral_of_isBlank rfl

theorem isNeutral_lineFeed : IsNeutral '\n' := isNeutral_of_isBlank rfl

theorem fitsComment_intercalate {parts : List (List Char)} :
    FitsComment (['\n'].intercalate parts) ↔ ∀ part ∈ parts, FitsComment part := by
  induction parts with
  | nil => simp [fitsComment_nil]
  | cons part parts ih =>
    cases parts with
    | nil => simp
    | cons next parts =>
      rw [List.intercalate_cons_cons, List.append_assoc, List.singleton_append,
        fitsComment_append_cons isNeutral_lineFeed, List.forall_mem_cons]
      exact and_congr_right' ih

theorem fitsComment_dropReturn (line : List Char) :
    FitsComment (if line.getLast? == some '\r' then line.dropLast else line) ↔
      FitsComment line := by
  split
  next returns =>
    obtain ⟨before, rfl⟩ := List.getLast?_eq_some_iff.mp (beq_iff_eq.mp returns)
    have neutral : ∀ c ∈ ['\r'], IsNeutral c := by simp [IsNeutral]
    rw [List.dropLast_concat, fitsComment_append_neutral neutral]
  next => rfl

/-- A text can stand in a comment if each of its lines can. -/
theorem forall_fitsComment_lines (cs : List Char) :
    (∀ line ∈ lines cs, FitsComment line) ↔ FitsComment cs := by
  obtain ⟨before, last, parts⟩ : ∃ before last, splitWhere (· == '\n') cs = before ++ [last] :=
    ⟨_, _, (List.dropLast_append_getLast (splitWhere_ne_nil _ cs)).symm⟩
  have whole : FitsComment cs ↔ (∀ part ∈ before, FitsComment part) ∧ FitsComment last := by
    rw [← intercalate_splitWhere '\n' cs, fitsComment_intercalate, parts, List.forall_mem_append,
      List.forall_mem_singleton]
  rw [whole, lines, parts, List.getLast?_concat, Option.getD_some, List.dropLast_concat]
  -- The last part is no line if it is empty, and then it fits anyway.
  split
  next empty =>
    obtain rfl := List.isEmpty_iff.mp empty
    simp only [List.forall_mem_map, fitsComment_dropReturn]
    rw [and_iff_left fitsComment_nil]
  next =>
    simp only [List.forall_mem_append, List.forall_mem_map, fitsComment_dropReturn,
      List.forall_mem_singleton]

/-! ## Comments -/

/-- Behind the indentation, the text is a comment and a line end. The comment has no place that ends
it before its end, whose first character counts as well. -/
def IsComment (indent text : String) : Prop :=
  ∃ inside, text = indent ++ "/*" ++ inside ++ "*/\n" ∧ FitsComment (inside ++ "*").toList

/-- What is written between the beginning of a comment and its end. -/
def commentInside (indent documentation : String) : String :=
  "*\n" ++ unlines ((lines documentation.toList).map (commentLine indent)) ++ indent ++ " "

theorem unlines_comment (indent documentation : String) : unlines (comment indent documentation) =
    indent ++ "/*" ++ commentInside indent documentation ++ "*/\n" := by
  simp only [comment, commentInside, unlines, ← String.toList_inj, String.toList_append]
  simp

theorem isComment_iff {indent inside : String} :
    IsComment indent (indent ++ "/*" ++ inside ++ "*/\n") ↔ FitsComment (inside ++ "*").toList := by
  refine ⟨fun ⟨found, same, fits⟩ => ?_, fun fits => ⟨inside, rfl, fits⟩⟩
  obtain rfl : inside = found := by
    simpa [← String.toList_inj, String.toList_append] using same
  exact fits

/-- A line of a comment adds to what follows the indentation and a line of the documentation. -/
theorem fitsComment_commentLine {indent : String} {line rest : List Char} :
    FitsComment ((commentLine indent line ++ "\n").toList ++ rest) ↔
      (FitsComment indent.toList ∧ FitsComment line) ∧ FitsComment rest := by
  have text : (commentLine indent line ++ "\n").toList ++ rest =
      indent.toList ++ ' ' :: (['*'] ++ ' ' :: (stripBoth isBlank line ++ '\n' :: rest)) := by
    simp [commentLine, trim, String.toList_append]
  rw [text, fitsComment_append_cons isNeutral_space, fitsComment_append_cons isNeutral_space,
    fitsComment_append_cons isNeutral_lineFeed, fitsComment_stripBoth fun _ => isNeutral_of_isBlank,
    and_iff_right fitsComment_star, and_assoc]

theorem fitsComment_commentLines {indent : String} {ls : List (List Char)} {rest : List Char} :
    FitsComment ((unlines (ls.map (commentLine indent))).toList ++ rest) ↔
      (∀ line ∈ ls, FitsComment indent.toList ∧ FitsComment line) ∧ FitsComment rest := by
  induction ls with
  | nil => simp [unlines]
  | cons line ls ih =>
    have text : (unlines ((line :: ls).map (commentLine indent))).toList ++ rest =
        (commentLine indent line ++ "\n").toList ++
          ((unlines (ls.map (commentLine indent))).toList ++ rest) := by
      simp [unlines, String.toList_append]
    rw [text, fitsComment_commentLine, ih, List.forall_mem_cons]
    exact and_assoc.symm

theorem fitsComment_commentInside {indent documentation : String} :
    FitsComment (commentInside indent documentation ++ "*").toList ↔
      FitsComment indent.toList ∧ FitsComment documentation.toList := by
  have text : (commentInside indent documentation ++ "*").toList = ['*'] ++ '\n' ::
      ((unlines ((lines documentation.toList).map (commentLine indent))).toList ++
        (indent.toList ++ ' ' :: ['*'])) := by
    simp [commentInside, String.toList_append]
  rw [text, fitsComment_append_cons isNeutral_lineFeed, fitsComment_commentLines,
    fitsComment_append_cons isNeutral_space, ← forall_fitsComment_lines documentation.toList,
    and_iff_right fitsComment_star, and_iff_left fitsComment_star]
  exact ⟨fun ⟨each, fits⟩ => ⟨fits, fun line h => (each line h).2⟩,
    fun ⟨fits, each⟩ => ⟨fun line h => ⟨fits, each line h⟩, fits⟩⟩

/-- The comment of a documentation ends at its last line exactly where nothing in the documentation
ends a comment, whatever the indentation is that does not end one itself. -/
theorem isComment_comment_iff (indent documentation : String) :
    IsComment indent (unlines (comment indent documentation)) ↔
      FitsComment indent.toList ∧ FitsComment documentation.toList := by
  rw [unlines_comment, isComment_iff, fitsComment_commentInside]

/-- A documentation can end its comment. What comes behind is read as code. -/
theorem not_isComment_comment_closing : ¬ IsComment "" (unlines (comment "" "*/ m();")) := by
  rw [unlines_comment, isComment_iff, fitsComment_commentInside]
  rintro ⟨_, fits⟩
  exact fits ⟨[], " m();".toList, by decide⟩

end SoapBindings.Cpp
