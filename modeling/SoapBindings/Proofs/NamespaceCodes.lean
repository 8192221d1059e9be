import SoapBindings.NamespaceCodes
import SoapBindings.Proofs.Cpp.Identifiers
import SoapBindings.Proofs.Tables

/-!
# Codes are identifiers and tell namespaces apart

Codes are given out in one pass over the candidates, and what was given out before is never given
out again (`nodup_codes_assign`); a candidate is kept or gets a number, and is an identifier either
way. The candidates of the user come first. So long as these differ from one another nothing stands
in their way, whatever is derived for the other namespaces (`assign_append`).
-/

set_option autoImplicit false

namespace SoapBindings

open Text

theorem isIdentifier_sanitizeCode (code : String) : Cpp.IsIdentifier (sanitizeCode code) := by
  have chars : ∀ c ∈ code.toList.map Cpp.identifierChar, Cpp.IsWordChar c := by
    intro c hc
    obtain ⟨d, _, rfl⟩ := List.mem_map.mp hc
    exact Cpp.isWordChar_identifierChar d
  rw [sanitizeCode]
  split
  · decide
  · next c cs h =>
    rw [h] at chars
    apply Cpp.isIdentifier_avoidKeyword
    by_cases digit : isAsciiDigit c
    · simp only [digit, if_true, String.toList_append, String.toList_ofList]
      have ns : Cpp.IsWord "ns".toList := by decide
      exact ns.append chars
    · simp only [digit, Bool.false_eq_true, if_false, String.toList_ofList]
      refine ⟨List.cons_ne_nil _ _, chars, ?_⟩
      intro d hd
      cases hd
      exact digit

theorem isIdentifier_of_fixedCode {uri code : String} (h : fixedCode uri = some code) :
    Cpp.IsIdentifier code := by
  unfold fixedCode at h
  repeat' split at h
  all_goals cases h
  all_goals decide

theorem isIdentifier_deriveCode (uri : String) : Cpp.IsIdentifier (deriveCode uri) := by
  rw [deriveCode]
  split
  · next code h => exact isIdentifier_of_fixedCode h
  · exact isIdentifier_sanitizeCode _

namespace NamespaceCodes

variable {taken : List String} {wished others : List (String × String)}

/-! ## Giving out codes -/

theorem keys_assign (taken : List String) (cs : List (String × String)) :
    (assign taken cs).map (·.1) = cs.map (·.1) := by
  induction cs generalizing taken with
  | nil => rfl
  | cons e cs ih => rw [assign, List.map_cons, List.map_cons, ih]

theorem nodup_codes_assign (taken : List String) (cs : List (String × String)) :
    ((assign taken cs).map (·.2)).Nodup ∧ ∀ e ∈ assign taken cs, e.2 ∉ taken := by
  induction cs generalizing taken with
  | nil => exact ⟨List.nodup_nil, fun e he => absurd he List.not_mem_nil⟩
  | cons first cs ih =>
    obtain ⟨nodup, fresh⟩ := ih (unused taken first.2 :: taken)
    rw [assign, List.map_cons]
    refine ⟨List.nodup_cons.mpr ⟨?_, nodup⟩, ?_⟩
    · intro h
      obtain ⟨e, he, same⟩ := List.mem_map.mp h
      exact fresh e he (same ▸ List.mem_cons_self)
    · intro e he
      rcases List.mem_cons.mp he with rfl | he
      · exact unused_not_mem taken first.2
      · exact fun h => fresh e he (List.mem_cons_of_mem _ h)

theorem isIdentifier_of_mem_assign {cs : List (String × String)}
    (h : ∀ e ∈ cs, Cpp.IsIdentifier e.2) : ∀ e ∈ assign taken cs, Cpp.IsIdentifier e.2 := by
  induction cs generalizing taken with
  | nil => exact fun e he => absurd he List.not_mem_nil
  | cons first cs ih =>
    intro e he
    rcases List.mem_cons.mp he with rfl | he
    · have wish := h first List.mem_cons_self
      show Cpp.IsIdentifier (unused taken first.2)
      rcases unused_eq_or_candidate taken first.2 with same | ⟨n, numbered⟩
      · rw [same]
        exact wish
      · rw [numbered]
        exact wish.numbered n
    · exact ih (fun e he => h e (List.mem_cons_of_mem _ he)) e he

/-- Candidates that differ, and of which none is taken, are the codes themselves. -/
theorem assign_append (nodup : (wished.map (·.2)).Nodup) (free : ∀ e ∈ wished, e.2 ∉ taken) :
    ∃ taken', assign taken (wished ++ others) = wished ++ assign taken' others := by
  induction wished generalizing taken with
  | nil => exact ⟨taken, rfl⟩
  | cons first wished ih =>
    rw [List.map_cons, List.nodup_cons] at nodup
    have kept := unused_of_not_mem (free first List.mem_cons_self)
    have freeAfter : ∀ e ∈ wished, e.2 ∉ first.2 :: taken := by
      intro e he
      rw [List.mem_cons, not_or]
      refine ⟨fun same => nodup.1 ?_, free e (List.mem_cons_of_mem _ he)⟩
      exact same ▸ List.mem_map_of_mem he
    obtain ⟨taken', rest⟩ := ih nodup.2 freeAfter
    refine ⟨taken', ?_⟩
    rw [List.cons_append, assign, kept, rest, List.cons_append]

/-! ## Candidates -/

variable {namespaces : List String} {wishes : Wishes} {ns code : String}

/-- The namespaces with a wish of the user, then the others. -/
theorem candidates_eq (namespaces : Std.ExtTreeSet String) (wishes : Wishes) :
    candidates namespaces wishes =
      (namespaces.toList.filter (wishes.contains ·)).map
          (fun ns => (ns, sanitizeCode ((wishes[ns]?).getD ""))) ++
        (namespaces.toList.filter (!wishes.contains ·)).map fun ns => (ns, deriveCode ns) := by
  rw [candidates, List.partition_eq_filter_filter]
  rfl

theorem keys_candidates_perm (namespaces : Std.ExtTreeSet String) (wishes : Wishes) :
    ((candidates namespaces wishes).map (·.1)).Perm namespaces.toList := by
  rw [candidates_eq, List.map_append, List.map_map, List.map_map]
  simp only [Function.comp_def, List.map_id']
  exact List.filter_append_perm _ _

theorem isIdentifier_of_mem_candidates {namespaces : Std.ExtTreeSet String} :
    ∀ e ∈ candidates namespaces wishes, Cpp.IsIdentifier e.2 := by
  intro e he
  rw [candidates_eq, List.mem_append, List.mem_map, List.mem_map] at he
  rcases he with ⟨ns, _, rfl⟩ | ⟨ns, _, rfl⟩
  · exact isIdentifier_sanitizeCode _
  · exact isIdentifier_deriveCode ns

/-- Only the wishes for the given namespaces count. -/
theorem candidates_congr {namespaces : Std.ExtTreeSet String} {wishes' : Wishes}
    (same : ∀ ns ∈ namespaces, wishes'[ns]? = wishes[ns]?) :
    candidates namespaces wishes' = candidates namespaces wishes := by
  have contains : ∀ ns ∈ namespaces.toList, wishes'.contains ns = wishes.contains ns := by
    intro ns hns
    rw [Std.ExtTreeMap.contains_eq_isSome_getElem?, Std.ExtTreeMap.contains_eq_isSome_getElem?,
      same ns (Std.ExtTreeSet.mem_toList.mp hns)]
  rw [candidates_eq, candidates_eq]
  congr 1
  · rw [List.filter_congr contains]
    refine List.map_congr_left fun ns hns => ?_
    rw [same ns (Std.ExtTreeSet.mem_toList.mp (List.mem_filter.mp hns).1)]
  · rw [List.filter_congr fun ns hns => congrArg Bool.not (contains ns hns)]

/-! ## The codes of some namespaces -/

/-- The namespaces with the codes given out to them. -/
def assigned (namespaces : List String) (wishes : Wishes) : List (String × String) :=
  assign [] (candidates (Std.ExtTreeSet.ofList namespaces) wishes)

theorem nodup_keys_assigned (namespaces : List String) (wishes : Wishes) :
    ((assigned namespaces wishes).map (·.1)).Nodup := by
  rw [assigned, keys_assign]
  refine (keys_candidates_perm _ wishes).nodup_iff.mpr ?_
  exact Std.ExtTreeSet.distinct_toList.imp Std.ReflCmp.ne_of_cmp_ne_eq

theorem code?_eq_some_iff :
    (ofNamespaces namespaces wishes).code? ns = some code ↔
      (ns, code) ∈ assigned namespaces wishes := by
  constructor
  · exact mem_of_getElem?_ofList
  · refine Std.ExtTreeMap.getElem?_ofList_of_mem Std.ReflCmp.compare_self ?_
    have nodup := nodup_keys_assigned namespaces wishes
    rw [List.Nodup, List.pairwise_map] at nodup
    exact nodup.imp fun different same => different (Std.LawfulEqCmp.eq_of_compare same)

/-- Exactly the given namespaces have codes. -/
theorem exists_code?_iff :
    (∃ code, (ofNamespaces namespaces wishes).code? ns = some code) ↔ ns ∈ namespaces := by
  have keys : (∃ code, (ns, code) ∈ assigned namespaces wishes) ↔
      ns ∈ (assigned namespaces wishes).map (·.1) := by
    rw [List.mem_map]
    exact ⟨fun ⟨code, h⟩ => ⟨_, h, rfl⟩, fun ⟨e, h, same⟩ => ⟨e.2, same ▸ h⟩⟩
  simp only [code?_eq_some_iff, keys]
  rw [assigned, keys_assign, (keys_candidates_perm _ wishes).mem_iff, Std.ExtTreeSet.mem_toList,
    Std.ExtTreeSet.mem_ofList, List.contains_iff_mem]

theorem isIdentifier_of_code? (h : (ofNamespaces namespaces wishes).code? ns = some code) :
    Cpp.IsIdentifier code :=
  isIdentifier_of_mem_assign isIdentifier_of_mem_candidates _ (code?_eq_some_iff.mp h)

/-- No two namespaces have one code. -/
theorem ns_eq_of_code? {ns' : String} (h : (ofNamespaces namespaces wishes).code? ns = some code)
    (h' : (ofNamespaces namespaces wishes).code? ns' = some code) : ns = ns' := by
  have nodup := (nodup_codes_assign [] (candidates (.ofList namespaces) wishes)).1
  have same := List.inj_on_of_nodup_map nodup (code?_eq_some_iff.mp h) (code?_eq_some_iff.mp h') rfl
  exact congrArg Prod.fst same

theorem ofNamespaces_congr {wishes' : Wishes}
    (same : ∀ ns ∈ namespaces, wishes'[ns]? = wishes[ns]?) :
    ofNamespaces namespaces wishes' = ofNamespaces namespaces wishes := by
  rw [ofNamespaces, ofNamespaces, candidates_congr]
  intro ns hns
  rw [Std.ExtTreeSet.mem_ofList, List.contains_iff_mem] at hns
  exact same ns hns

/-- The user's wishes for the given namespaces ask for different codes. -/
def WishesDiffer (namespaces : List String) (wishes : Wishes) : Prop :=
  ∀ ns ∈ namespaces, ∀ ns' ∈ namespaces, ∀ wish wish' : String, wishes[ns]? = some wish →
    wishes[ns']? = some wish' → sanitizeCode wish = sanitizeCode wish' → ns = ns'

theorem code?_of_wish (differ : WishesDiffer namespaces wishes) (hns : ns ∈ namespaces)
    {wish : String} (hwish : wishes[ns]? = some wish) :
    (ofNamespaces namespaces wishes).code? ns = some (sanitizeCode wish) := by
  let given := (Std.ExtTreeSet.ofList namespaces).toList.filter (wishes.contains ·)
  have mem_given : ∀ ns ∈ given, ns ∈ namespaces ∧ ∃ wish, wishes[ns]? = some wish := by
    intro ns hns
    obtain ⟨listed, wished⟩ := List.mem_filter.mp hns
    rw [Std.ExtTreeSet.mem_toList, Std.ExtTreeSet.mem_ofList, List.contains_iff_mem] at listed
    exact ⟨listed, exists_getElem?_of_mem (Std.ExtTreeMap.mem_iff_contains.mpr wished)⟩
  let wished := given.map fun ns => (ns, sanitizeCode ((wishes[ns]?).getD ""))
  have nodup : (wished.map (·.2)).Nodup := by
    rw [List.map_map]
    refine List.Nodup.map_on ?_ (List.Nodup.filter _
      (Std.ExtTreeSet.distinct_toList.imp Std.ReflCmp.ne_of_cmp_ne_eq))
    intro ns hns ns' hns' same
    obtain ⟨listed, wish, hwish⟩ := mem_given ns hns
    obtain ⟨listed', wish', hwish'⟩ := mem_given ns' hns'
    simp only [Function.comp_apply, hwish, hwish', Option.getD_some] at same
    exact differ ns listed ns' listed' wish wish' hwish hwish' same
  obtain ⟨taken, whole⟩ := assign_append nodup fun _ _ => List.not_mem_nil
  rw [code?_eq_some_iff, assigned, candidates_eq, whole]
  refine List.mem_append_left _ (List.mem_map.mpr ⟨ns, ?_, by rw [hwish]; rfl⟩)
  refine List.mem_filter.mpr ⟨?_, Std.ExtTreeMap.mem_iff_contains.mp (mem_of_getElem? hwish)⟩
  rw [Std.ExtTreeSet.mem_toList, Std.ExtTreeSet.mem_ofList, List.contains_iff_mem]
  exact hns

/-- Exactly the given namespaces have codes; the codes differ and are identifiers. What the user
wishes for other namespaces does not matter, and so long as the user's wishes differ each of them is
granted, however the other codes are derived. -/
theorem ofNamespaces_bijective (namespaces : List String) (wishes : Wishes) :
    (∀ ns, (∃ code, (ofNamespaces namespaces wishes).code? ns = some code) ↔ ns ∈ namespaces) ∧
    (∀ ns ns' code, (ofNamespaces namespaces wishes).code? ns = some code →
      (ofNamespaces namespaces wishes).code? ns' = some code → ns = ns') ∧
    (∀ ns code, (ofNamespaces namespaces wishes).code? ns = some code → Cpp.IsIdentifier code) ∧
    (∀ wishes' : Wishes, (∀ ns ∈ namespaces, wishes'[ns]? = wishes[ns]?) →
      ofNamespaces namespaces wishes' = ofNamespaces namespaces wishes) ∧
    (WishesDiffer namespaces wishes → ∀ ns ∈ namespaces, ∀ wish, wishes[ns]? = some wish →
      (ofNamespaces namespaces wishes).code? ns = some (sanitizeCode wish)) := by
  refine ⟨fun ns => exists_code?_iff, fun ns ns' code => ns_eq_of_code?, fun ns code => ?_,
    fun wishes' => ofNamespaces_congr, fun differ ns hns wish => code?_of_wish differ hns⟩
  exact isIdentifier_of_code?

/-- A code of the user is granted although another namespace, which comes first, would have it. -/
theorem ofNamespaces_bijective_status :
    let wishes : Wishes := (∅ : Wishes).insert "urn:b:status" "status"
    WishesDiffer ["urn:a:status", "urn:b:status"] wishes ∧
      (ofNamespaces ["urn:a:status", "urn:b:status"] wishes).code? "urn:b:status" =
        some "status" := by
  intro wishes
  have only : ∀ ns wish, wishes[ns]? = some wish → ns = "urn:b:status" := by
    intro ns wish h
    rcases getElem?_insert_eq_some_iff.mp h with ⟨rfl, _⟩ | ⟨_, h⟩
    · rfl
    · simp at h
  have differ : WishesDiffer ["urn:a:status", "urn:b:status"] wishes := by
    intro ns _ ns' _ wish wish' h h' _
    rw [only ns wish h, only ns' wish' h']
  refine ⟨differ, ?_⟩
  have granted := (ofNamespaces_bijective ["urn:a:status", "urn:b:status"] wishes).2.2.2.2 differ
    "urn:b:status" (by simp) "status" Std.ExtTreeMap.getElem?_insert_self
  rw [granted]
  decide

end NamespaceCodes

end SoapBindings
