import SoapBindings.Cpp.ServiceClasses
import SoapBindings.Proofs.Cpp.Identifiers
import SoapBindings.Proofs.NamespaceCodes
import SoapBindings.Proofs.Text.LetterCase

/-!
# Class names

What a class is called begins with no small letter (`IsClassName`): its words are capitalized, and
what is put behind them to tell classes apart does not change how they begin. So it is no keyword,
and none of the names that classes use themselves, all of which begin with a small letter. A scope
for the members of a class keeps its name as it is (`names_memberScope`).
-/

set_option autoImplicit false

namespace SoapBindings.Cpp

open Text

/-- The text does not begin with a small letter. -/
def NoSmallStart (cs : List Char) : Prop := ∀ c ∈ cs.head?, ¬ IsSmall c

instance (cs : List Char) : Decidable (NoSmallStart cs) :=
  inferInstanceAs (Decidable (∀ c ∈ cs.head?, ¬ IsSmall c))

/-- A word that does not begin with a small letter. -/
structure IsClassName (name : String) : Prop where
  word : IsWord name.toList
  start : NoSmallStart name.toList

/-! ## Words in upper case -/

theorem NoSmallStart.append {cs ds : List Char} (h : NoSmallStart cs) (h' : NoSmallStart ds) :
    NoSmallStart (cs ++ ds) := by
  cases cs with
  | nil => exact h'
  | cons c cs => exact h

theorem ne_nil_of_mem_wordsOfRun {cs word : List Char} (h : word ∈ wordsOfRun cs) : word ≠ [] := by
  fun_induction wordsOfRun cs with
  | case1 => cases h
  | case2 c =>
    rw [List.mem_singleton.mp h]
    exact List.cons_ne_nil _ _
  | case3 c d rest none ih =>
    rw [List.mem_singleton.mp h]
    exact List.cons_ne_nil _ _
  | case4 c d rest first more some begins ih =>
    rcases List.mem_cons.mp h with rfl | h
    · exact List.cons_ne_nil _ _
    · exact ih (some ▸ h)
  | case5 c d rest first more some begins ih =>
    rcases List.mem_cons.mp h with rfl | h
    · exact List.cons_ne_nil _ _
    · exact ih (some ▸ List.mem_cons_of_mem _ h)

theorem ne_nil_of_mem_words {name : String} {word : List Char} (h : word ∈ words name) :
    word ≠ [] := by
  obtain ⟨run, -, hrun⟩ := List.mem_flatMap.mp h
  exact ne_nil_of_mem_wordsOfRun hrun

theorem noSmallStart_capitalize {word : List Char} (h : word ≠ []) :
    capitalize word ≠ [] ∧ NoSmallStart (capitalize word) := by
  cases word with
  | nil => exact absurd rfl h
  | cons c cs =>
    obtain ⟨d, rest, upper, notSmall⟩ := exists_head_upperChar c
    rw [capitalize, upper]
    refine ⟨List.cons_ne_nil _ _, fun e he => ?_⟩
    cases he
    exact notSmall

theorem noSmallStart_upperCamel (name : String) : NoSmallStart (upperCamel name).toList := by
  rw [upperCamel, String.toList_ofList]
  have nonempty : ∀ word ∈ words name, word ≠ [] := fun _ => ne_nil_of_mem_words
  generalize words name = ws at nonempty
  induction ws with
  | nil => exact fun c hc => absurd hc (Option.not_mem_none c)
  | cons word ws ih =>
    rw [List.flatMap_cons]
    have rest := ih fun word hword => nonempty word (List.mem_cons_of_mem _ hword)
    exact (noSmallStart_capitalize (nonempty word List.mem_cons_self)).2.append rest

theorem noSmallStart_join {texts : List String} (h : ∀ text ∈ texts, NoSmallStart text.toList) :
    NoSmallStart (String.join texts).toList := by
  induction texts with
  | nil => exact fun c hc => absurd hc (Option.not_mem_none c)
  | cons text texts ih =>
    rw [String.join_cons, String.toList_append]
    exact (h text List.mem_cons_self).append
      (ih fun text htext => h text (List.mem_cons_of_mem _ htext))

/-! ## Names of classes -/

namespace IsClassName

variable {name tail : String}

theorem isIdentifier (h : IsClassName name) : IsIdentifier name := by
  refine ⟨h.word, fun keyword => ?_⟩
  obtain ⟨c, cs, hname⟩ := List.exists_cons_of_ne_nil h.word.nonempty
  have first : c ∈ name.toList.head? := by rw [hname]; rfl
  exact h.start c first (head_of_mem_keywords _ (isKeyword_iff.mp keyword) c first)

theorem append (h : IsClassName name) (more : ∀ c ∈ tail.toList, IsWordChar c) :
    IsClassName (name ++ tail) := by
  constructor
  · rw [String.toList_append]
    exact h.word.append more
  · rw [String.toList_append, NoSmallStart, List.head?_append_of_ne_nil _ h.word.nonempty]
    exact h.start

theorem sanitize_eq (h : IsClassName name) : sanitize name = name := h.isIdentifier.sanitize_eq

/-- A class is called differently from all that begins with a small letter. -/
theorem not_mem {reserved : List String} (h : IsClassName name)
    (small : ∀ r ∈ reserved, ¬ NoSmallStart r.toList) : name ∉ reserved :=
  fun hname => small name hname h.start

end IsClassName

theorem isClassName_sanitize {name : String} (h : NoSmallStart name.toList) :
    IsClassName (sanitize name) := by
  refine ⟨(isIdentifier_sanitize name).word, ?_⟩
  have underscore : NoSmallStart ['_'] := by
    intro c hc
    cases hc
    decide
  have mapped : NoSmallStart (name.toList.map identifierChar) := by
    intro c hc
    rw [List.head?_map] at hc
    obtain ⟨d, hd, rfl⟩ := Option.map_eq_some_iff.mp hc
    rw [identifierChar]
    split
    · exact h d hd
    · decide
  have avoided : ∀ word : String, NoSmallStart word.toList →
      NoSmallStart (avoidKeyword word).toList := by
    intro word hword
    rw [avoidKeyword]
    split
    · rw [String.toList_append]
      exact hword.append underscore
    · exact hword
  have underscored := underscore.append mapped
  rw [sanitize]
  apply avoided
  rw [String.toList_ofList]
  split
  · exact underscored
  · split
    · exact underscored
    · exact mapped

section

variable {candidate code : String} {scope : Scope}

/-- A name is told apart from others by what is put behind it. -/
theorem exists_tail_takeName (candidate : String) (hcode : IsIdentifier code) (scope : Scope) :
    ∃ tail : String, (∀ c ∈ tail.toList, IsWordChar c) ∧
      (takeName candidate code scope).1 = sanitize candidate ++ tail := by
  have coded : ∀ c ∈ ("_" ++ code).toList, IsWordChar c := by
    rw [String.toList_append]
    have underscore : IsWord "_".toList := by decide
    exact (underscore.append hcode.word.chars).chars
  show ∃ tail : String, _ ∧ freeName scope.names (sanitize candidate) code = _
  rcases freeName_cases scope.names (sanitize candidate) code with
    ⟨_, same⟩ | ⟨_, number, digits, long⟩
  · exact ⟨"", by simp, by simp [same]⟩
  · refine ⟨"_" ++ code ++ number, fun c hc => ?_, long⟩
    rw [String.toList_append] at hc
    rcases List.mem_append.mp hc with hc | hc
    · exact coded c hc
    · exact isWordChar_of_isAsciiDigit (digits c hc)

theorem isWord_takeName (hcode : IsIdentifier code) :
    IsWord (takeName candidate code scope).1.toList := by
  obtain ⟨tail, chars, whole⟩ := exists_tail_takeName candidate hcode scope
  rw [whole, String.toList_append]
  exact (isIdentifier_sanitize candidate).word.append chars

/-- A class name stays one when it is told apart from others. -/
theorem isClassName_takeName (start : NoSmallStart candidate.toList) (hcode : IsIdentifier code) :
    IsClassName (takeName candidate code scope).1 := by
  obtain ⟨tail, chars, whole⟩ := exists_tail_takeName candidate hcode scope
  rw [whole]
  exact (isClassName_sanitize start).append chars

/-- The scope of the members of a class holds its name and what every such class uses itself. -/
theorem names_memberScope {reserved : List String} {name : String} (h : IsClassName name)
    (free : name ∉ reserved) (code : String) :
    (ClassContext.memberScope reserved name code).names = name :: reserved := by
  have given : freeName (Scope.reserving reserved).names name code = name :=
    freeName_of_not_mem free
  rw [ClassContext.memberScope, Scope.take, h.sanitize_eq, given]
  rfl

end

namespace ClassContext

variable {c : ClassContext}

/-- The context is one of namespaces that have codes, and of classes that are called by
capitals. -/
structure Named (c : ClassContext) : Prop where
  code : ∀ ns, IsIdentifier (c.code ns)
  classNames : ∀ (id : TypeId) (name : String), c.classNames[id]? = some name → IsClassName name

end ClassContext

theorem noSmallStart_classCandidate (id : TypeId) : NoSmallStart (classCandidate id).toList := by
  cases id with
  | named q => exact noSmallStart_upperCamel _
  | anonymous path =>
    refine noSmallStart_join fun text htext => ?_
    obtain ⟨segment, _, rfl⟩ := List.mem_map.mp htext
    exact noSmallStart_upperCamel _

theorem isIdentifier_code (namespaces : List String) (wishes : NamespaceCodes.Wishes)
    (ns : String) :
    IsIdentifier (((NamespaceCodes.ofNamespaces namespaces wishes).code? ns).getD "ns") := by
  cases h : (NamespaceCodes.ofNamespaces namespaces wishes).code? ns with
  | none => decide
  | some code => exact NamespaceCodes.isIdentifier_of_code? h

theorem isClassName_takeClassNames {codes : NamespaceCodes}
    (hcodes : ∀ ns, IsIdentifier ((codes.code? ns).getD "ns")) {ids : List TypeId} {scope : Scope}
    {id : TypeId} {name : String} (h : (takeClassNames codes ids scope).1[id]? = some name) :
    IsClassName name := by
  -- The table is said to hold class names before each step.
  let Held (table : Std.ExtTreeMap TypeId String) : Prop :=
    ∀ (id : TypeId) (name : String), table[id]? = some name → IsClassName name
  let step (names : Std.ExtTreeMap TypeId String) (id : TypeId) :
      Naming (Std.ExtTreeMap TypeId String) := do
    let name ← takeName (classCandidate id) ((codes.code? id.ns).getD "ns")
    return names.insert id name
  have kept : ∀ (ids : List TypeId) (table : Std.ExtTreeMap TypeId String) (scope : Scope),
      Held table → Held (ids.foldlM step table scope).1 := by
    intro ids
    induction ids with
    | nil => exact fun table scope held => held
    | cons first ids ih =>
      intro table scope held
      refine ih _ _ fun id name hname => ?_
      rcases getElem?_insert_eq_some_iff.mp hname with ⟨rfl, rfl⟩ | ⟨_, hname⟩
      · exact isClassName_takeName (noSmallStart_classCandidate _) (hcodes _)
      · exact held id name hname
  refine kept ids ∅ scope (fun id name hname => ?_) id name h
  simp at hname

end SoapBindings.Cpp
