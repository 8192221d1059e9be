import Mathlib
import SoapBindings.Proofs.Cpp.ClassNames
import SoapBindings.Proofs.Text.Split

/-!
# Camel case

A name is cut into words and loses nothing but its separators (`flatten_words`), so camel case keeps
its letters and digits and changes at most their case. Of the words of a run all but the first begin
with capitals (`capitals_wordsOfRun`), and in a word the capitals are in front: behind a small letter
or a digit a capital begins another word (`smallFirst_wordsOfRun`). So ASCII text in camel case is
its own camel case: one run without a small letter in front (`upperCamel_of_run`), or without a
capital in front, whose first word then has no capital at all (`lowerCamel_of_run`).
-/

set_option autoImplicit false

namespace SoapBindings.Text

/-! ## ASCII -/

variable {c : Char} {cs : List Char}

/-- What holds of the first 128 characters one by one. -/
theorem forall_isAscii {P : Char → Prop} (each : ∀ n < 128, P (Char.ofNat n)) (h : isAscii c) :
    P c := by
  rw [← Char.ofNat_toNat c]
  exact each c.toNat (of_decide_eq_true h)

theorem isAlphanumeric_eq (h : isAscii c) : isAlphanumeric c = c.isAlphanum :=
  forall_isAscii (P := fun c => isAlphanumeric c = c.isAlphanum) (by decide) h

theorem isUppercase_eq (h : isAscii c) : isUppercase c = c.isUpper :=
  forall_isAscii (P := fun c => isUppercase c = c.isUpper) (by decide) h

theorem upperChar_eq (h : isAscii c) : upperChar c = [c.toUpper] :=
  forall_isAscii (P := fun c => upperChar c = [c.toUpper]) (by decide) h

theorem asciiLower_eq (h : isAscii c) : asciiLower c = c.toLower :=
  forall_isAscii (P := fun c => asciiLower c = c.toLower) (by decide) h

theorem isAscii_of_isAlphanum (h : c.isAlphanum) : isAscii c := by
  rw [isAscii, decide_eq_true_eq]
  simp only [Char.isAlphanum, Char.isAlpha, Char.isUpper, Char.isLower, Char.isDigit,
    Bool.or_eq_true, Bool.and_eq_true, decide_eq_true_eq, ge_iff_le, UInt32.le_iff_toNat_le] at h
  have capital : 'Z'.val.toNat = 90 := rfl
  have small : 'z'.val.toNat = 122 := rfl
  have digit : '9'.val.toNat = 57 := rfl
  have number : c.toNat = c.val.toNat := rfl
  omega

theorem lower_of_isAscii {cs : List Char} (h : ∀ c ∈ cs, isAscii c) :
    lower cs = cs.map Char.toLower := by
  unfold lower
  generalize ([] : List Char) = before
  induction cs generalizing before with
  | nil => rfl
  | cons c cs ih =>
    obtain ⟨ascii, others⟩ := List.forall_mem_cons.mp h
    show (if c == 'Σ' then _ else lowerChar c) ++ _ = _
    have other : (c == 'Σ') = false :=
      forall_isAscii (P := fun c => (c == 'Σ') = false) (by decide) ascii
    rw [other, if_neg Bool.false_ne_true, ih others (c :: before), lowerChar, if_pos ascii,
      asciiLower_eq ascii]
    rfl

end SoapBindings.Text

namespace SoapBindings.Cpp

open Text

/-! ## Words -/

theorem flatten_wordsOfRun (cs : List Char) : (wordsOfRun cs).flatten = cs := by
  fun_induction wordsOfRun cs with
  | case1 => rfl
  | case2 c => rfl
  | case3 c d rest none ih =>
    rw [none] at ih
    cases ih
  | case4 c d rest word more some begins ih =>
    rw [some] at ih
    rw [List.flatten_cons, ih, List.singleton_append]
  | case5 c d rest word more some stays ih =>
    rw [some, List.flatten_cons] at ih
    rw [List.flatten_cons, List.cons_append, ih]

/-- The words of a name have all its letters and digits, and nothing else. -/
theorem flatten_words (name : String) :
    (words name).flatten = name.toList.filter isAlphanumeric := by
  have runs (runs : List (List Char)) : (runs.flatMap wordsOfRun).flatten = runs.flatten := by
    induction runs with
    | nil => rfl
    | cons run runs ih =>
      rw [List.flatMap_cons, List.flatten_append, flatten_wordsOfRun, ih, List.flatten_cons]
  rw [words, runs, List.flatten_filter_not_isEmpty, flatten_splitWhere]
  simp

/-- The first word of a run begins the way that the run does, and the others with capitals. -/
theorem capitals_wordsOfRun (c : Char) (cs : List Char) :
    ∃ rest more, wordsOfRun (c :: cs) = (c :: rest) :: more ∧
      ∀ word ∈ more, ∃ d ds, word = d :: ds ∧ isUppercase d := by
  induction cs generalizing c with
  | nil => exact ⟨[], [], rfl, nofun⟩
  | cons d cs ih =>
    obtain ⟨rest, more, run, capitals⟩ := ih d
    rw [wordsOfRun, run]
    by_cases begins : beginsWord c d cs
    · have capital : isUppercase d := by
        rw [beginsWord, Bool.and_eq_true] at begins
        exact begins.1
      refine ⟨[], (d :: rest) :: more, if_pos begins, ?_⟩
      exact List.forall_mem_cons.mpr ⟨⟨d, rest, rfl, capital⟩, capitals⟩
    · exact ⟨d :: rest, more, if_neg begins, capitals⟩

/-! ## Runs of ASCII -/

section

variable {c d : Char} {cs : List Char}

/-- A capital begins a word where it follows what is no capital. -/
theorem beginsWord_of_not_isUpper (hc : c.isAlphanum) (small : ¬ c.isUpper) (capital : d.isUpper)
    (rest : List Char) : beginsWord c d rest := by
  have before : isLowercase c || isAsciiDigit c :=
    forall_isAscii
      (P := fun c => c.isAlphanum → ¬ c.isUpper → (isLowercase c || isAsciiDigit c) = true)
      (by decide) (isAscii_of_isAlphanum hc) hc small
  have upper : isUppercase d := by
    rw [isUppercase_eq (isAscii_of_isAlphanum _)]
    · exact capital
    · rw [Char.isAlphanum, Char.isAlpha, capital]
      rfl
  rw [beginsWord, upper, before]
  rfl

/-- A run that does not begin with a capital has none in its first word. -/
theorem smallFirst_wordsOfRun (run : ∀ d ∈ c :: cs, d.isAlphanum) (small : ¬ c.isUpper) :
    ∃ first more, wordsOfRun (c :: cs) = first :: more ∧ ∀ d ∈ first, ¬ d.isUpper := by
  induction cs generalizing c with
  | nil => exact ⟨[c], [], rfl, by simpa using small⟩
  | cons d cs ih =>
    obtain ⟨hc, others⟩ := List.forall_mem_cons.mp run
    rw [wordsOfRun]
    by_cases capital : d.isUpper
    · obtain ⟨rest, more, cut, -⟩ := capitals_wordsOfRun d cs
      rw [cut]
      refine ⟨[c], (d :: rest) :: more, if_pos (beginsWord_of_not_isUpper hc small capital cs), ?_⟩
      simpa using small
    · obtain ⟨first, more, cut, noCapital⟩ := ih others capital
      rw [cut]
      by_cases begins : beginsWord c d cs
      · exact ⟨[c], first :: more, if_pos begins, by simpa using small⟩
      · refine ⟨c :: first, more, if_neg begins, ?_⟩
        exact List.forall_mem_cons.mpr ⟨small, noCapital⟩

theorem words_of_run (run : ∀ c ∈ cs, c.isAlphanum) : words (String.ofList cs) = wordsOfRun cs := by
  have inside : ∀ c ∈ cs, (!isAlphanumeric c) = false := by
    intro c hc
    rw [isAlphanumeric_eq (isAscii_of_isAlphanum (run c hc)), run c hc]
    rfl
  rw [words, String.toList_ofList, splitWhere_of_forall inside]
  cases cs with
  | nil => rfl
  | cons c cs => exact List.flatMap_singleton wordsOfRun (c :: cs)

theorem capitalize_cons (h : isAscii c) (cs : List Char) :
    capitalize (c :: cs) = c.toUpper :: cs := by
  rw [capitalize, upperChar_eq h]
  rfl

/-- Words that begin with capitals are written as they are. -/
theorem flatMap_capitalize {ws : List (List Char)}
    (capitals : ∀ word ∈ ws, ∃ d ds, word = d :: ds ∧ isUppercase d)
    (ascii : ∀ c ∈ ws.flatten, isAscii c) : ws.flatMap capitalize = ws.flatten := by
  induction ws with
  | nil => rfl
  | cons word ws ih =>
    obtain ⟨⟨d, ds, rfl, capital⟩, others⟩ := List.forall_mem_cons.mp capitals
    rw [List.flatten_cons, List.forall_mem_append] at ascii
    have first : isAscii d := ascii.1 d List.mem_cons_self
    rw [isUppercase_eq first] at capital
    have same : d.toUpper = d :=
      Char.toUpper_eq_of_not_isLower (Char.not_isLower_of_isUpper capital)
    rw [List.flatMap_cons, List.flatten_cons, capitalize_cons first, same, ih others ascii.2]

/-- The words of a run but the first are written as they are. -/
theorem exists_first_wordsOfRun (run : ∀ d ∈ c :: cs, d.isAlphanum) :
    ∃ rest more, wordsOfRun (c :: cs) = (c :: rest) :: more ∧
      (∀ d ∈ c :: rest, isAscii d) ∧ c :: rest ++ more.flatMap capitalize = c :: cs := by
  obtain ⟨rest, more, cut, capitals⟩ := capitals_wordsOfRun c cs
  have whole : c :: rest ++ more.flatten = c :: cs := by
    rw [← flatten_wordsOfRun (c :: cs), cut, List.flatten_cons]
  have ascii : ∀ d ∈ c :: rest ++ more.flatten, isAscii d := by
    rw [whole]
    exact fun d hd => isAscii_of_isAlphanum (run d hd)
  rw [List.forall_mem_append] at ascii
  refine ⟨rest, more, cut, ascii.1, ?_⟩
  rw [flatMap_capitalize capitals ascii.2, whole]

theorem upperCamel_of_run (run : ∀ c ∈ cs, c.isAlphanum) (start : ∀ c ∈ cs.head?, ¬ c.isLower) :
    upperCamel (String.ofList cs) = String.ofList cs := by
  rw [upperCamel, words_of_run run]
  cases cs with
  | nil => rfl
  | cons c cs =>
    obtain ⟨rest, more, cut, ascii, written⟩ := exists_first_wordsOfRun run
    have same : c.toUpper = c := Char.toUpper_eq_of_not_isLower (start c rfl)
    rw [cut, List.flatMap_cons, capitalize_cons (ascii c List.mem_cons_self), same, written]

theorem lowerCamel_of_run (run : ∀ c ∈ cs, c.isAlphanum) (start : ∀ c ∈ cs.head?, ¬ c.isUpper) :
    lowerCamel (String.ofList cs) = String.ofList cs := by
  rw [lowerCamel, words_of_run run]
  cases cs with
  | nil => rfl
  | cons c cs =>
    obtain ⟨rest, more, cut, ascii, written⟩ := exists_first_wordsOfRun run
    obtain ⟨first, others, again, noCapital⟩ := smallFirst_wordsOfRun run (start c rfl)
    obtain ⟨rfl, rfl⟩ := List.cons.inj (again.symm.trans cut)
    have same : (c :: rest).map Char.toLower = c :: rest := by
      rw [List.map_congr_left fun d hd => Char.toLower_eq_of_not_isUpper (noCapital d hd),
        List.map_id']
    rw [cut]
    simp only [lower_of_isAscii ascii, same, written]

end

/-! ## Names in camel case -/

section

variable {name : String} {cs ds : List Char}

theorem isAlphanum_toLower (c : Char) : c.toLower.isAlphanum = c.isAlphanum := by
  by_cases capital : c.isUpper
  · have letter : c.isAlpha := by
      rw [Char.isAlpha, capital]
      rfl
    simp [Char.isAlphanum, letter]
  · rw [Char.toLower_eq_of_not_isUpper capital]

/-- A change of letter case makes no letter or digit anything else. -/
theorem isAlphanum_of_map_toLower (same : cs.map Char.toLower = ds.map Char.toLower)
    (h : ∀ d ∈ ds, d.isAlphanum) : ∀ c ∈ cs, c.isAlphanum := by
  intro c hc
  have mem : c.toLower ∈ ds.map Char.toLower := same ▸ List.mem_map_of_mem hc
  obtain ⟨d, hd, lower⟩ := List.mem_map.mp mem
  rw [← isAlphanum_toLower, ← lower, isAlphanum_toLower]
  exact h d hd

theorem map_toLower_capitalize {word : List Char} (ascii : ∀ c ∈ word, isAscii c) :
    (capitalize word).map Char.toLower = word.map Char.toLower := by
  cases word with
  | nil => rfl
  | cons c cs =>
    rw [capitalize_cons (ascii c List.mem_cons_self), List.map_cons, List.map_cons,
      Char.toLower_toUpper_eq_toLower]

theorem map_toLower_flatMap_capitalize {ws : List (List Char)}
    (ascii : ∀ c ∈ ws.flatten, isAscii c) :
    (ws.flatMap capitalize).map Char.toLower = ws.flatten.map Char.toLower := by
  induction ws with
  | nil => rfl
  | cons word ws ih =>
    rw [List.flatten_cons, List.forall_mem_append] at ascii
    rw [List.flatMap_cons, List.flatten_cons, List.map_append, List.map_append,
      map_toLower_capitalize ascii.1, ih ascii.2]

theorem not_isLower_head_upperCamel (name : String) :
    ∀ c ∈ (upperCamel name).toList.head?, ¬ c.isLower := by
  intro c hc small
  apply noSmallStart_upperCamel name c hc
  rw [Char.isLower, Bool.and_eq_true, decide_eq_true_eq, decide_eq_true_eq] at small
  exact small

variable (h : ∀ c ∈ name.toList, isAscii c)

include h

theorem flatten_words_of_isAscii : (words name).flatten = name.toList.filter Char.isAlphanum := by
  rw [flatten_words]
  exact List.filter_congr fun c hc => isAlphanumeric_eq (h c hc)

theorem isAscii_of_mem_words : ∀ c ∈ (words name).flatten, isAscii c := by
  rw [flatten_words]
  exact fun c hc => h c (List.mem_of_mem_filter hc)

theorem map_toLower_upperCamel : (upperCamel name).toList.map Char.toLower =
    (name.toList.filter Char.isAlphanum).map Char.toLower := by
  rw [upperCamel, String.toList_ofList, map_toLower_flatMap_capitalize (isAscii_of_mem_words h),
    flatten_words_of_isAscii h]

theorem map_toLower_lowerCamel : (lowerCamel name).toList.map Char.toLower =
    (name.toList.filter Char.isAlphanum).map Char.toLower := by
  have ascii := isAscii_of_mem_words h
  rw [← flatten_words_of_isAscii h, lowerCamel]
  cases hwords : words name with
  | nil => rfl
  | cons first more =>
    rw [hwords, List.flatten_cons, List.forall_mem_append] at ascii
    simp only [String.toList_ofList, List.map_append, List.flatten_cons, lower_of_isAscii ascii.1,
      map_toLower_flatMap_capitalize ascii.2, List.map_map]
    congr 1
    exact List.map_congr_left fun c _ => Char.toLower_toLower_eq_toLower c

theorem isAlphanum_of_mem_upperCamel : ∀ c ∈ (upperCamel name).toList, c.isAlphanum :=
  isAlphanum_of_map_toLower (map_toLower_upperCamel h) fun _ hc => List.of_mem_filter hc

theorem isAlphanum_of_mem_lowerCamel : ∀ c ∈ (lowerCamel name).toList, c.isAlphanum :=
  isAlphanum_of_map_toLower (map_toLower_lowerCamel h) fun _ hc => List.of_mem_filter hc

theorem not_isUpper_head_lowerCamel : ∀ c ∈ (lowerCamel name).toList.head?, ¬ c.isUpper := by
  have ascii := isAscii_of_mem_words h
  rw [lowerCamel]
  cases hwords : words name with
  | nil => exact nofun
  | cons first more =>
    rw [hwords, List.flatten_cons, List.forall_mem_append] at ascii
    have nonempty : first ≠ [] := ne_nil_of_mem_words (hwords ▸ List.mem_cons_self)
    obtain ⟨d, ds, rfl⟩ := List.exists_cons_of_ne_nil nonempty
    simp [lower_of_isAscii ascii.1]

/-- What becomes of ASCII text has its letters and digits in their order, up to letter case. In upper
camel case it does not begin with a small letter, in lower camel case not with a capital, and put
into the same case again it stays as it is. -/
theorem camelCase_of_isAscii :
    ((upperCamel name).toList.map Char.toLower =
        (name.toList.filter Char.isAlphanum).map Char.toLower ∧
      (∀ c ∈ (upperCamel name).toList.head?, ¬ c.isLower) ∧
      upperCamel (upperCamel name) = upperCamel name) ∧
    ((lowerCamel name).toList.map Char.toLower =
        (name.toList.filter Char.isAlphanum).map Char.toLower ∧
      (∀ c ∈ (lowerCamel name).toList.head?, ¬ c.isUpper) ∧
      lowerCamel (lowerCamel name) = lowerCamel name) := by
  have upper := not_isLower_head_upperCamel name
  have lower := not_isUpper_head_lowerCamel h
  refine ⟨⟨map_toLower_upperCamel h, upper, ?_⟩, map_toLower_lowerCamel h, lower, ?_⟩
  · have again := upperCamel_of_run (isAlphanum_of_mem_upperCamel h) upper
    rwa [String.ofList_toList] at again
  · have again := lowerCamel_of_run (isAlphanum_of_mem_lowerCamel h) lower
    rwa [String.ofList_toList] at again

end

/-- Capitals in a row, digits and separators. -/
theorem camelCase_of_isAscii_httpRequest : upperCamel "my-HTTPRequest2url" = "MyHTTPRequest2url" ∧
    upperCamel "MyHTTPRequest2url" = "MyHTTPRequest2url" := by
  have ascii : ∀ c ∈ "my-HTTPRequest2url".toList, isAscii c := by decide
  have cased : upperCamel "my-HTTPRequest2url" = "MyHTTPRequest2url" := by cbv
  have again := (camelCase_of_isAscii ascii).1.2.2
  rw [cased] at again
  exact ⟨cased, again⟩

end SoapBindings.Cpp
