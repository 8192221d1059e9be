import Mathlib.Data.List.Basic
import SoapBindings.Text.LetterCase

/-!
# Letters in upper case

Whatever character is put into upper case, what it begins with is no small ASCII letter
(`exists_head_upperChar`). For ASCII this is arithmetic; elsewhere it is asked of each line of the
tables, of runs by their ends.
-/

set_option autoImplicit false

namespace SoapBindings.Text

/-- One of the letters `a` to `z`. -/
def IsSmall (c : Char) : Prop := 97 ≤ c.toNat ∧ c.toNat ≤ 122

instance (c : Char) : Decidable (IsSmall c) :=
  inferInstanceAs (Decidable (97 ≤ c.toNat ∧ c.toNat ≤ 122))

theorem le_and_le_of_isSmall_ofNat {n : Nat} (h : IsSmall (Char.ofNat n)) : 97 ≤ n ∧ n ≤ 122 := by
  by_cases valid : n.isValidChar
  · rw [Char.ofNat, dif_pos valid] at h
    exact h
  · rw [Char.ofNat, dif_neg valid] at h
    exact absurd h.1 (by decide)

theorem mem_of_lookup_eq_some {α β : Type} [BEq α] [LawfulBEq α] {table : List (α × β)} {a : α}
    {b : β} (h : table.lookup a = some b) : (a, b) ∈ table := by
  induction table with
  | nil => cases h
  | cons e table ih =>
    rw [List.lookup_cons] at h
    split at h
    · next same =>
      rw [beq_iff_eq.mp same, ← Option.some.inj h]
      exact List.mem_cons_self
    · exact List.mem_cons_of_mem _ (ih h)

/-- A letter that takes several begins with no small one. -/
theorem exists_head_of_lookup {table : List (Nat × List Nat)} {n : Nat} {letters : List Nat}
    (each : ∀ e ∈ table, ∃ first ∈ e.2.head?, ¬ IsSmall (Char.ofNat first))
    (h : table.lookup n = some letters) :
    ∃ d rest, letters.map Char.ofNat = d :: rest ∧ ¬ IsSmall d := by
  obtain ⟨first, hfirst, notSmall⟩ := each _ (mem_of_lookup_eq_some h)
  obtain ⟨rest, rfl⟩ := List.head?_eq_some_iff.mp hfirst
  exact ⟨_, _, rfl, notSmall⟩

/-- A letter goes to no small one if its whole run stays outside. -/
theorem not_isSmall_shifted {table : List (Run × Int)} {c : Char} (notSmall : ¬ IsSmall c)
    (each : ∀ e ∈ table, e.1.last + e.2 < 97 ∨ 122 < e.1.first + e.2) :
    ¬ IsSmall (((table.find? (·.1.contains c.toNat)).map fun (_, distance) =>
      Char.ofNat (c.toNat + distance).toNat).getD c) := by
  cases h : table.find? (·.1.contains c.toNat) with
  | none => exact notSmall
  | some e =>
    intro small
    obtain ⟨low, high⟩ := le_and_le_of_isSmall_ofNat small
    have within := List.find?_some h
    simp only [Run.contains, Bool.and_eq_true, decide_eq_true_eq] at within
    rcases each e (List.mem_of_find?_eq_some h) with below | above
    · omega
    · omega

theorem exists_head_upperChar (c : Char) : ∃ d rest, upperChar c = d :: rest ∧ ¬ IsSmall d := by
  rw [upperChar]
  split
  · refine ⟨_, [], rfl, ?_⟩
    split
    · next small =>
      rw [Bool.and_eq_true, decide_eq_true_eq, decide_eq_true_eq] at small
      have high : c.toNat ≤ 122 := small.2
      intro h
      have := le_and_le_of_isSmall_ofNat h
      omega
    · next other =>
      intro h
      apply other
      rw [Bool.and_eq_true, decide_eq_true_eq, decide_eq_true_eq]
      exact h
  · next notAscii =>
    split
    · next letters h => exact exists_head_of_lookup (by decide) h
    · have notSmall : ¬ IsSmall c := by
        intro h
        apply notAscii
        rw [isAscii, decide_eq_true_eq]
        exact Nat.lt_of_le_of_lt h.2 (by decide)
      exact ⟨_, [], rfl, not_isSmall_shifted notSmall (by decide +kernel)⟩

end SoapBindings.Text
