import SoapBindings.Proofs.Cpp.ClassNames

/-!
# Names that something was put behind

A candidate that is taken gets an underscore, a code and perhaps a number. So a word without
underscores is given to nothing but itself (`takeName_eq_iff`), and all names are words, as
candidates and codes are. They are no keywords either, but for what an underscore can join: neither
`wchar` nor `t` is a keyword, and `wchar_t` is one. There are nine such pairs
(`mem_splitKeywords_iff`), and a name is a keyword exactly where one of them is put together
(`isKeyword_takeNames_iff`).
-/

set_option autoImplicit false

namespace SoapBindings.Cpp

open Text

variable {taken : List String} {name candidate code word : String} {scope : Scope}

/-! ## Words without underscores -/

/-- A word without underscores is given to a candidate that is it, where it is free. -/
theorem takeName_eq_iff (plain : '_' ∉ word.toList) :
    (takeName candidate code scope).1 = word ↔ sanitize candidate = word ∧ word ∉ scope.names := by
  show freeName scope.names (sanitize candidate) code = word ↔ _
  rcases freeName_cases scope.names (sanitize candidate) code with
    ⟨free, same⟩ | ⟨taken, number, _, long⟩
  · rw [same]
    exact ⟨fun h => ⟨h, h ▸ free⟩, And.left⟩
  · rw [long]
    constructor
    · rintro rfl
      simp at plain
    · rintro ⟨rfl, free⟩
      exact absurd taken free

/-- A word without underscores is among the names after a take if it was, or if it is the
candidate. -/
theorem mem_names_takeName_iff (plain : '_' ∉ word.toList) :
    word ∈ (takeName candidate code scope).2.names ↔
      sanitize candidate = word ∨ word ∈ scope.names := by
  show word ∈ (takeName candidate code scope).1 :: scope.names ↔ _
  rw [List.mem_cons, eq_comm, takeName_eq_iff plain]
  by_cases h : word ∈ scope.names
  · simp [h]
  · simp [h]

/-! ## Keywords that are put together -/

/-- Words that are no keywords, and would be one with an underscore between them. -/
def splitKeywords : List (String × String) := [
  ("char16", "t"), ("char32", "t"), ("char8", "t"), ("co", "await"), ("co", "yield"),
  ("dynamic", "cast"), ("reinterpret", "cast"), ("thread", "local"), ("wchar", "t")]

/-- Wherever a keyword is cut at an underscore. -/
theorem splitKeywords_complete : ∀ w ∈ keywords, ∀ n < w.toList.length, w.toList[n]? = some '_' →
    isKeyword (String.ofList (w.toList.take n)) ∨
      isKeyword (String.ofList (w.toList.drop (n + 1))) ∨
      (String.ofList (w.toList.take n), String.ofList (w.toList.drop (n + 1))) ∈
        splitKeywords := by
  decide +kernel

theorem mem_splitKeywords_iff (hname : ¬ isKeyword name) (hcode : ¬ isKeyword code) :
    (name, code) ∈ splitKeywords ↔ isKeyword (name ++ "_" ++ code) := by
  constructor
  · have joined : ∀ p ∈ splitKeywords, isKeyword (p.1 ++ "_" ++ p.2) := by decide +kernel
    exact joined (name, code)
  · intro keyword
    let n := name.toList.length
    have whole : (name ++ "_" ++ code).toList = name.toList ++ '_' :: code.toList := by
      simp
    have before : (name ++ "_" ++ code).toList.take n = name.toList := by
      rw [whole, List.take_left]
    have behind : (name ++ "_" ++ code).toList.drop (n + 1) = code.toList := by
      rw [whole, ← List.drop_drop, List.drop_left]
      rfl
    have cut := splitKeywords_complete _ (isKeyword_iff.mp keyword) n (by simp [whole, n])
      (by simp [whole, n])
    rw [before, behind, String.ofList_toList, String.ofList_toList] at cut
    exact (cut.resolve_left hname).resolve_left hcode

/-- A number behind a name is what no keyword ends with. -/
theorem isKeyword_freeName_iff (hcandidate : ¬ isKeyword candidate) (hcode : ¬ isKeyword code) :
    isKeyword (freeName taken candidate code) ↔ (candidate, code) ∈ splitKeywords ∧
      candidate ∈ taken ∧ candidate ++ "_" ++ code ∉ taken := by
  rw [mem_splitKeywords_iff hcandidate hcode]
  by_cases h : candidate ∈ taken
  · rw [freeName_of_mem h]
    by_cases again : candidate ++ "_" ++ code ∈ taken
    · have different : unused taken (candidate ++ "_" ++ code) ≠ candidate ++ "_" ++ code :=
        fun same => unused_not_mem taken _ (same.symm ▸ again)
      obtain ⟨n, numbered⟩ := (unused_eq_or_candidate ..).resolve_left different
      have notKeyword : ¬ isKeyword (Text.candidate (candidate ++ "_" ++ code) n) :=
        not_isKeyword_append Nat.repr_ne_empty fun c hc =>
          not_isAsciiAlpha_of_isAsciiDigit (isAsciiDigit_of_mem_toString hc)
      rw [numbered]
      simp [notKeyword, again]
    · rw [unused_of_not_mem again]
      simp [h, again]
  · rw [freeName_of_not_mem h]
    simp [h, hcandidate]

/-! ## Names taken one after the other -/

/-- Takes a name for each candidate, with the code that stands beside it. -/
def takeNames (requests : List (String × String)) : Naming (List String) :=
  requests.mapM fun request => takeName request.1 request.2

theorem length_takeNames (requests : List (String × String)) (scope : Scope) :
    (takeNames requests scope).1.length = requests.length := by
  induction requests generalizing scope with
  | nil => rfl
  | cons first requests ih =>
    rw [takeNames, List.mapM_cons]
    exact congrArg (· + 1) (ih (takeName first.1 first.2 scope).2)

/-- What is given for a request: the names taken before it are in its way. -/
theorem getElem?_takeNames {requests : List (String × String)} {i : Nat}
    (h : requests[i]? = some (candidate, code)) (scope : Scope) :
    (takeNames requests scope).1[i]? = some (freeName
      (((takeNames requests scope).1.take i).reverse ++ scope.names)
      (sanitize candidate) code) := by
  induction requests generalizing i scope with
  | nil => cases h
  | cons first requests ih =>
    let after := (takeName first.1 first.2 scope).2
    have whole : (takeNames (first :: requests) scope).1 =
        (takeName first.1 first.2 scope).1 :: (takeNames requests after).1 := by
      rw [takeNames, List.mapM_cons]
      rfl
    rw [whole]
    cases i with
    | zero =>
      obtain rfl := Option.some.inj h
      rfl
    | succ i =>
      rw [List.getElem?_cons_succ, List.take_succ_cons, List.reverse_cons, List.append_assoc]
      exact ih h after

/-- Each name that a scope gives is a word, whatever was taken before and whatever is asked for. It
is a keyword exactly where the candidate is taken and makes one with its code that is still free. -/
theorem isKeyword_takeNames_iff (reserved : List String) {requests : List (String × String)}
    (codes : ∀ r ∈ requests, ∃ text, r.2 = sanitizeCode text) {i : Nat}
    (h : requests[i]? = some (candidate, code)) :
    let names := (takeNames requests (.reserving reserved)).1
    let taken := names.take i ++ reserved
    names.length = requests.length ∧ ∃ name, names[i]? = some name ∧ IsWord name.toList ∧
      (isKeyword name ↔ (sanitize candidate, code) ∈ splitKeywords ∧ sanitize candidate ∈ taken ∧
        sanitize candidate ++ "_" ++ code ∉ taken) := by
  intro names taken
  obtain ⟨text, hcode⟩ := codes _ (List.mem_of_getElem? h)
  have identifier : IsIdentifier code := by
    rw [show code = sanitizeCode text from hcode]
    exact isIdentifier_sanitizeCode text
  refine ⟨length_takeNames .., _, getElem?_takeNames h _, ?_, ?_⟩
  · have word : IsWord (takeName candidate code ⟨(names.take i).reverse ++ reserved⟩).1.toList :=
      isWord_takeName identifier
    exact word
  · rw [isKeyword_freeName_iff (isIdentifier_sanitize candidate).notKeyword identifier.notKeyword]
    simp [taken, Scope.reserving, names]

/-- Two members of one name that has to be told apart by the code `t`. -/
theorem not_isIdentifier_wchar : ∃ requests : List (String × String),
    (∀ r ∈ requests, ∃ text, r.2 = sanitizeCode text) ∧
      ∃ name ∈ (takeNames requests (.reserving [])).1, ¬ IsIdentifier name := by
  have code : ∃ text, "t" = sanitizeCode text := ⟨"t", by decide⟩
  have codes : ∀ r ∈ [("wchar", "t"), ("wchar", "t")], ∃ text, r.2 = sanitizeCode text := by
    simp [code]
  have second : "wchar_t" ∈ (takeNames [("wchar", "t"), ("wchar", "t")] (.reserving [])).1 := by
    decide
  exact ⟨_, codes, "wchar_t", second, by decide⟩

/-- A third member of that name gets a number, and no keyword. -/
theorem isKeyword_takeNames_iff_wchar :
    let requests := [("wchar", "t"), ("wchar", "t"), ("wchar", "t")]
    (∀ r ∈ requests, ∃ text, r.2 = sanitizeCode text) ∧ requests[2]? = some ("wchar", "t") ∧
      ∃ name, (takeNames requests (.reserving [])).1[2]? = some name ∧ IsWord name.toList ∧
        ¬ isKeyword name := by
  intro requests
  have code : ∃ text, "t" = sanitizeCode text := ⟨"t", by decide⟩
  have codes : ∀ r ∈ requests, ∃ text, r.2 = sanitizeCode text := by simp [requests, code]
  obtain ⟨_, name, given, word, keyword⟩ := isKeyword_takeNames_iff [] codes (i := 2) rfl
  have joined : "wchar_t" ∈ (takeNames requests (.reserving [])).1.take 2 ++ [] := by decide
  exact ⟨codes, rfl, name, given, word, fun h => (keyword.mp h).2.2 joined⟩

end SoapBindings.Cpp
