import Mathlib.Data.List.Nodup
import Mathlib.Data.List.Perm.Subperm
import Std.Data.String.ToNat
import SoapBindings.Text.Numbered

/-!
# Numbered names are new

`numbered` tries one candidate more than there are names taken. Candidates with different numbers
differ, so they cannot all be taken, and the name that it settles for is new (`unused_not_mem`). It
is the first of those tried that is new (`unused_first`).
-/

set_option autoImplicit false

namespace SoapBindings.Text

/-- The candidate with the number `n`. -/
def candidate (base : String) (n : Nat) : String := base ++ toString n

theorem candidate_injective (base : String) {m n : Nat} (h : candidate base m = candidate base n) :
    m = n := by
  have : Nat.repr m = Nat.repr n := (String.append_right_inj base).mp h
  exact Nat.repr_injective this

/-- A search ends at a name that is taken only if every candidate is taken. -/
theorem candidate_mem_of_numberedFrom_mem {taken : List String} {base : String} {attempts n : Nat}
    (h : numberedFrom taken base attempts n ∈ taken) :
    ∀ i ≤ attempts, candidate base (n + i) ∈ taken := by
  induction attempts generalizing n with
  | zero =>
    intro i hi
    obtain rfl : i = 0 := Nat.le_zero.mp hi
    exact h
  | succ attempts ih =>
    rw [numberedFrom] at h
    by_cases htaken : taken.contains (base ++ toString n)
    · rw [if_pos htaken] at h
      intro i hi
      cases i with
      | zero => exact List.contains_iff_mem.mp htaken
      | succ i =>
        have := ih h i (Nat.le_of_succ_le_succ hi)
        rwa [show n + 1 + i = n + (i + 1) by omega] at this
    · rw [if_neg htaken] at h
      exact absurd (List.contains_iff_mem.mpr h) htaken

theorem numbered_not_mem (taken : List String) (base : String) : numbered taken base ∉ taken := by
  intro h
  have all := candidate_mem_of_numberedFrom_mem h
  -- One candidate more than there are names taken, and all of them taken.
  let candidates := (List.range (taken.length + 1)).map fun i => candidate base (2 + i)
  have nodup : candidates.Nodup := by
    refine List.Nodup.map ?_ List.nodup_range
    intro i j hij
    exact Nat.add_left_cancel (candidate_injective base hij)
  have sub : candidates ⊆ taken := by
    intro name hname
    obtain ⟨i, hi, rfl⟩ := List.mem_map.mp hname
    exact all i (Nat.le_of_lt_succ (List.mem_range.mp hi))
  have more : taken.length + 1 ≤ taken.length := by
    simpa [candidates] using (List.subperm_of_subset nodup sub).length_le
  exact Nat.not_succ_le_self _ more

/-- A search ends at a candidate, and passes over those that are taken. -/
theorem numberedFrom_first (taken : List String) (base : String) (attempts n : Nat) :
    ∃ k, numberedFrom taken base attempts n = candidate base (n + k) ∧
      ∀ i < k, candidate base (n + i) ∈ taken := by
  induction attempts generalizing n with
  | zero => exact ⟨0, rfl, by simp⟩
  | succ attempts ih =>
    rw [numberedFrom]
    by_cases h : taken.contains (base ++ toString n)
    · obtain ⟨k, found, before⟩ := ih (n + 1)
      refine ⟨k + 1, ?_, ?_⟩
      · rw [if_pos h, found, Nat.add_right_comm, Nat.add_assoc]
      · intro i hi
        cases i with
        | zero => exact List.contains_iff_mem.mp h
        | succ i =>
          rw [← Nat.add_assoc, Nat.add_right_comm]
          exact before i (Nat.lt_of_succ_lt_succ hi)
    · exact ⟨0, by rw [if_neg h]; rfl, by simp⟩

theorem unused_of_not_mem {taken : List String} {name : String} (h : name ∉ taken) :
    unused taken name = name := by
  rw [unused, if_neg]
  simpa using h

/-- A name that is taken gets nothing but a number. -/
theorem unused_eq_or_candidate (taken : List String) (name : String) :
    unused taken name = name ∨ ∃ n, unused taken name = candidate name n := by
  rw [unused]
  split
  · obtain ⟨k, found, _⟩ := numberedFrom_first taken name taken.length 2
    exact Or.inr ⟨_, found⟩
  · exact Or.inl rfl

theorem unused_not_mem (taken : List String) (name : String) : unused taken name ∉ taken := by
  rw [unused]
  split
  · exact numbered_not_mem taken name
  · next h => exact fun hmem => h (List.contains_iff_mem.mpr hmem)

/-- The names that are tried one after the other. -/
def attempt (name : String) : Nat → String
  | 0 => name
  | n + 1 => candidate name (n + 2)

/-- The name that is settled for is the first attempt that is not taken. -/
theorem unused_first (taken : List String) (name : String) :
    ∃ n, attempt name n = unused taken name ∧ ∀ m < n, attempt name m ∈ taken := by
  rw [unused]
  by_cases h : taken.contains name
  · obtain ⟨k, found, before⟩ := numberedFrom_first taken name taken.length 2
    refine ⟨k + 1, ?_, ?_⟩
    · rw [if_pos h, numbered, found, attempt, Nat.add_comm]
    · intro m hm
      cases m with
      | zero => exact List.contains_iff_mem.mp h
      | succ m =>
        rw [attempt, Nat.add_comm]
        exact before m (Nat.lt_of_succ_lt_succ hm)
  · exact ⟨0, by rw [if_neg h]; rfl, by simp⟩

end SoapBindings.Text
