import Mathlib.Data.List.Induction
import SoapBindings.Tables

/-!
# Looking things up in tables

What a table answers, said by the list that it was filled from. An answer is always some entry
(`mem_of_getElem?_ofList`), and of several entries for one key it is the last
(`getElem?_ofList_eq_some_iff`). Tables that are joined are equal where all their answers are, so
it does not matter which of them are joined first (`union_union`).
-/

set_option autoImplicit false

namespace SoapBindings

section

variable {κ α : Type} [Ord κ] [Std.TransOrd κ]

theorem mem_of_getElem? {table : Std.ExtTreeMap κ α} {key : κ} {a : α} (h : table[key]? = some a) :
    key ∈ table :=
  Std.ExtTreeMap.mem_iff_isSome_getElem?.mpr (by simp [h])

theorem exists_getElem?_of_mem {table : Std.ExtTreeMap κ α} {key : κ} (h : key ∈ table) :
    ∃ a, table[key]? = some a :=
  Option.isSome_iff_exists.mp (Std.ExtTreeMap.mem_iff_isSome_getElem?.mp h)

theorem not_mem_of_getElem?_eq_none {table : Std.ExtTreeMap κ α} {key : κ}
    (h : table[key]? = none) : key ∉ table := by
  intro present
  obtain ⟨a, ha⟩ := exists_getElem?_of_mem present
  rw [h] at ha
  cases ha

variable [Std.LawfulEqOrd κ]

theorem getElem?_insert_of_ne {table : Std.ExtTreeMap κ α} {key other : κ} {a : α}
    (h : key ≠ other) : (table.insert key a)[other]? = table[other]? := by
  rw [Std.ExtTreeMap.getElem?_insert, if_neg]
  exact fun he => h (Std.LawfulEqCmp.eq_of_compare he)

theorem getElem?_erase_of_ne {table : Std.ExtTreeMap κ α} {key other : κ} (h : key ≠ other) :
    (table.erase key)[other]? = table[other]? := by
  rw [Std.ExtTreeMap.getElem?_erase, if_neg]
  exact fun he => h (Std.LawfulEqCmp.eq_of_compare he)

theorem getElem?_insert_eq_some_iff {table : Std.ExtTreeMap κ α} {key other : κ} {a b : α} :
    (table.insert key a)[other]? = some b ↔
      (key = other ∧ a = b) ∨ (key ≠ other ∧ table[other]? = some b) := by
  by_cases h : key = other
  · subst h
    simp
  · rw [getElem?_insert_of_ne h]
    simp [h]

theorem getElem?_erase_eq_some_iff {table : Std.ExtTreeMap κ α} {key other : κ} {b : α} :
    (table.erase key)[other]? = some b ↔ key ≠ other ∧ table[other]? = some b := by
  by_cases h : key = other
  · subst h
    simp
  · rw [getElem?_erase_of_ne h]
    simp [h]

theorem mem_insert_iff {table : Std.ExtTreeMap κ α} {key other : κ} {a : α} :
    other ∈ table.insert key a ↔ key = other ∨ other ∈ table := by
  rw [Std.ExtTreeMap.mem_insert, Std.LawfulEqCmp.compare_eq_iff_eq]

theorem mem_erase_iff {table : Std.ExtTreeMap κ α} {key other : κ} :
    other ∈ table.erase key ↔ key ≠ other ∧ other ∈ table := by
  rw [Std.ExtTreeMap.mem_erase, Ne, Ne, Std.LawfulEqCmp.compare_eq_iff_eq]

theorem mem_of_getElem?_foldl_insert {entries : List (κ × α)} {table : Std.ExtTreeMap κ α} {key : κ}
    {a : α} (h : (entries.foldl (fun table e => table.insert e.1 e.2) table)[key]? = some a) :
    (key, a) ∈ entries ∨ table[key]? = some a := by
  induction entries generalizing table with
  | nil => exact Or.inr h
  | cons e entries ih =>
    rcases ih h with h | h
    · exact Or.inl (List.mem_cons_of_mem _ h)
    · rw [Std.ExtTreeMap.getElem?_insert] at h
      split at h
      · next he =>
        rw [← Std.LawfulEqCmp.eq_of_compare he, ← Option.some.inj h]
        exact Or.inl List.mem_cons_self
      · exact Or.inr h

theorem mem_of_getElem?_ofList {entries : List (κ × α)} {key : κ} {a : α}
    (h : (Std.ExtTreeMap.ofList entries)[key]? = some a) : (key, a) ∈ entries := by
  rw [Std.ExtTreeMap.ofList_eq_foldl] at h
  rcases mem_of_getElem?_foldl_insert h with h | h
  · exact h
  · exact absurd h (by simp)

theorem getElem?_ofList_eq_some_iff {entries : List (κ × α)} {key : κ} {a : α} :
    (Std.ExtTreeMap.ofList entries)[key]? = some a ↔
      ∃ before after, entries = before ++ (key, a) :: after ∧ ∀ e ∈ after, e.1 ≠ key := by
  rw [Std.ExtTreeMap.ofList_eq_foldl]
  -- The last entry is inserted last, so the list is taken apart from its end.
  induction entries using List.reverseRecOn with
  | nil => simp
  | append_singleton entries e ih =>
    obtain ⟨other, b⟩ := e
    rw [List.foldl_append, List.foldl_cons, List.foldl_nil, getElem?_insert_eq_some_iff, ih]
    constructor
    · rintro (⟨rfl, rfl⟩ | ⟨apart, before, after, rfl, later⟩)
      · exact ⟨entries, [], rfl, by simp⟩
      · refine ⟨before, after ++ [(other, b)], by simp, fun e he => ?_⟩
        rcases List.mem_append.mp he with he | he
        · exact later e he
        · rwa [List.mem_singleton.mp he]
    · rintro ⟨before, after, whole, later⟩
      cases after using List.reverseRecOn with
      | nil =>
        obtain ⟨-, last⟩ := List.append_inj' whole rfl
        simp_all
      | append_singleton after last =>
        rw [← List.cons_append, ← List.append_assoc] at whole
        obtain ⟨rfl, same⟩ := List.append_inj' whole rfl
        obtain rfl := List.singleton_inj.mp same
        exact Or.inr ⟨later _ (by simp), before, after, rfl, fun e he => later e (by simp [he])⟩

end

/-! ## Tables that are joined -/

section

variable {κ α : Type} [Ord κ] [Std.TransOrd κ] [Std.LawfulEqOrd κ]

theorem union_union (a b c : Std.ExtTreeMap κ α) : a ∪ b ∪ c = a ∪ (b ∪ c) := by
  refine Std.ExtTreeMap.ext_getElem? fun key => ?_
  simp only [Std.ExtTreeMap.getElem?_union, Option.or_assoc]

theorem union_empty (a : Std.ExtTreeMap κ α) : a ∪ ∅ = a := by
  refine Std.ExtTreeMap.ext_getElem? fun key => ?_
  rw [Std.ExtTreeMap.getElem?_union, Std.ExtTreeMap.getElem?_empty, Option.none_or]

theorem empty_union (a : Std.ExtTreeMap κ α) : ∅ ∪ a = a := by
  refine Std.ExtTreeMap.ext_getElem? fun key => ?_
  rw [Std.ExtTreeMap.getElem?_union, Std.ExtTreeMap.getElem?_empty, Option.or_none]

end

end SoapBindings
