import Mathlib.Data.List.Forall2
import SoapBindings.Options.Mapping
import SoapBindings.Proofs.Tables
import SoapBindings.Proofs.Text.Split

/-!
# What mappings say

A line of a mapping file is ignored (`MappingFile.Ignores`), maps a URI to a code
(`MappingFile.Maps`), or is malformed. A file gives the pairs of its lines in their order, unless
there is a malformed line, of which the first is told (`pairs_eq_ok_iff`, `pairs_eq_error_iff`).
A line with a URI or a code but without the other is malformed like one without an equals sign.

Over all arguments a URI has the code that it is mapped to last (`collect_eq_ok_iff`).
-/

set_option autoImplicit false

namespace SoapBindings

open Text

/-- Work on each of several items gives results for all, or does not give any. -/
theorem mapM_eq_ok_iff {ε α β : Type} {f : α → Except ε β} {as : List α} {bs : List β} :
    as.mapM f = .ok bs ↔ List.Forall₂ (fun a b => f a = .ok b) as bs := by
  induction as generalizing bs with
  | nil =>
    rw [List.mapM_nil, List.forall₂_nil_left_iff]
    exact ⟨fun h => (Except.ok.inj h).symm, fun h => h ▸ rfl⟩
  | cons a as ih =>
    rw [List.mapM_cons, List.forall₂_cons_left_iff]
    constructor
    · intro h
      cases first : f a with
      | error fault =>
        rw [first] at h
        cases h
      | ok b =>
        cases rest : as.mapM f with
        | error fault =>
          rw [first, rest] at h
          cases h
        | ok others =>
          rw [first, rest] at h
          cases h
          exact ⟨b, others, rfl, ih.mp rest, rfl⟩
    · rintro ⟨b, others, first, rest, rfl⟩
      rw [first, ih.mpr rest]
      rfl

/-! ## Lines -/

namespace MappingFile

/-- The line is blank, or a comment: its first character that is no white space is a number sign. -/
def Ignores (line : String) : Prop :=
  (∀ c ∈ line.toList, isBlank c) ∨
    ∃ indent rest, line.toList = indent ++ '#' :: rest ∧ ∀ c ∈ indent, isBlank c

/-- The last equals sign of the line stands between the URI and the code, and around both there may
be white space. -/
def Maps (line uri code : String) : Prop :=
  ∃ before after, line.toList = before ++ '=' :: after ∧ '=' ∉ after ∧
    uri = trim (String.ofList before) ∧ code = trim (String.ofList after) ∧ uri ≠ "" ∧ code ≠ ""

/-- The line is not ignored and has no equals sign, or nothing but white space on one side of the
last. -/
def IsMalformed (line : String) : Prop :=
  ¬ Ignores line ∧ ('=' ∉ line.toList ∨ ∃ before after, line.toList = before ++ '=' :: after ∧
    '=' ∉ after ∧ ((∀ c ∈ before, isBlank c) ∨ ∀ c ∈ after, isBlank c))

theorem isSkipped_iff {line : String} : isSkipped line ↔ Ignores line := by
  have kept : (trim line).toList = stripBoth isBlank line.toList := String.toList_ofList
  rw [isSkipped, kept]
  rcases stripBoth_cases isBlank line.toList with
    ⟨all, gone⟩ | ⟨indent, c, rest, cut, all, hc, kept⟩
  · rw [gone]
    exact iff_of_true rfl (Or.inl all)
  rw [kept]
  constructor
  · intro h
    obtain rfl : c = '#' := beq_iff_eq.mp h
    exact Or.inr ⟨indent, rest, cut, all⟩
  · rintro (blank | ⟨other, rest', cut', all'⟩)
    · rw [blank c (cut ▸ List.mem_append_right _ List.mem_cons_self)] at hc
      cases hc
    · have same : stripBoth isBlank (other ++ '#' :: rest') = stripBoth isBlank ('#' :: rest') :=
        stripBoth_front all'
      rw [← cut', kept, stripBoth_cons rfl] at same
      exact beq_iff_eq.mpr (List.cons.inj same).1

theorem mappingPair?_eq_some_iff {line uri code : String} :
    mappingPair? line = some (uri, code) ↔ Maps line uri code := by
  rw [mappingPair?]
  constructor
  · intro h
    cases cut : splitLast '=' line.toList with
    | none =>
      rw [cut] at h
      cases h
    | some sides =>
      obtain ⟨before, after⟩ := sides
      simp only [cut, Bool.or_eq_true, String.isEmpty_iff, Option.ite_none_left_eq_some,
        Option.some.injEq, Prod.mk.injEq, not_or] at h
      obtain ⟨⟨noUri, noCode⟩, rfl, rfl⟩ := h
      obtain ⟨last, whole⟩ := splitLast_eq_some_iff.mp cut
      exact ⟨before, after, whole, last, rfl, rfl, noUri, noCode⟩
  · rintro ⟨before, after, whole, last, rfl, rfl, noUri, noCode⟩
    simp only [splitLast_eq_some_iff.mpr ⟨last, whole⟩, Bool.or_eq_true, String.isEmpty_iff,
      noUri, noCode, or_self, if_false]

theorem isMalformed_iff {line : String} :
    IsMalformed line ↔ isSkipped line = false ∧ mappingPair? line = none := by
  rw [IsMalformed, ← isSkipped_iff, Bool.not_eq_true]
  refine and_congr_right fun _ => ?_
  constructor
  · intro h
    refine Option.eq_none_iff_forall_ne_some.mpr fun ⟨uri, code⟩ hpair => ?_
    obtain ⟨before, after, whole, last, rfl, rfl, hasUri, hasCode⟩ :=
      mappingPair?_eq_some_iff.mp hpair
    rcases h with none | ⟨front, back, whole', last', blank⟩
    · exact none (whole ▸ List.mem_append_right _ List.mem_cons_self)
    · have cut := splitLast_eq_some_iff.mpr ⟨last, whole⟩
      rw [splitLast_eq_some_iff.mpr ⟨last', whole'⟩] at cut
      cases cut
      rw [Ne, trim_eq_empty_iff, String.toList_ofList] at hasUri hasCode
      exact blank.elim hasUri hasCode
  · intro hpair
    rw [or_iff_not_imp_left, not_not]
    intro has
    cases cut : splitLast '=' line.toList with
    | none => exact absurd has (splitLast_eq_none_iff.mp cut)
    | some sides =>
      obtain ⟨before, after⟩ := sides
      obtain ⟨last, whole⟩ := splitLast_eq_some_iff.mp cut
      refine ⟨before, after, whole, last, ?_⟩
      by_contra full
      rw [not_or] at full
      have maps : Maps line (trim (String.ofList before)) (trim (String.ofList after)) := by
        refine ⟨before, after, whole, last, rfl, rfl, ?_, ?_⟩
        · rw [Ne, trim_eq_empty_iff, String.toList_ofList]
          exact full.1
        · rw [Ne, trim_eq_empty_iff, String.toList_ofList]
          exact full.2
      rw [mappingPair?_eq_some_iff.mpr maps] at hpair
      cases hpair

/-! ## Files -/

/-- The lines of a file that are to map something. -/
def mappingLines (text : String) : List String :=
  ((lines text.toList).map String.ofList).filter (!isSkipped ·)

/-- The pairs of lines that are counted from `n`. -/
private def pairsFrom (path : String) (n : Nat) (all : List String) :
    Except OptionsFault (List (String × String)) :=
  ((all.zipIdx n).filter fun (line, _) => !isSkipped line).mapM fun (line, number) =>
    match mappingPair? line with
    | some pair => .ok pair
    | none => .error (.malformedLine path number line)

private theorem pairsFrom_skipped {path line : String} (h : isSkipped line = true) (n : Nat)
    (rest : List String) : pairsFrom path n (line :: rest) = pairsFrom path (n + 1) rest := by
  simp only [pairsFrom, List.zipIdx_cons, List.filter_cons, h, Bool.not_true, Bool.false_eq_true,
    if_false]

private theorem pairsFrom_mapped {path line : String} {pair : String × String}
    (h : isSkipped line = false) (hpair : mappingPair? line = some pair) (n : Nat)
    (rest : List String) :
    pairsFrom path n (line :: rest) = (pairsFrom path (n + 1) rest).map (pair :: ·) := by
  simp only [pairsFrom, List.zipIdx_cons, List.filter_cons, h, Bool.not_false, if_true,
    List.mapM_cons, hpair]
  rfl

private theorem pairsFrom_malformed {path line : String} (h : isSkipped line = false)
    (hpair : mappingPair? line = none) (n : Nat) (rest : List String) :
    pairsFrom path n (line :: rest) = .error (.malformedLine path n line) := by
  simp only [pairsFrom, List.zipIdx_cons, List.filter_cons, h, Bool.not_false, if_true,
    List.mapM_cons, hpair]
  rfl

private theorem pairsFrom_eq_ok_iff {path : String} {n : Nat} {all : List String}
    {ps : List (String × String)} : pairsFrom path n all = .ok ps ↔
      List.Forall₂ (fun line p => Maps line p.1 p.2) (all.filter (!isSkipped ·)) ps := by
  induction all generalizing n ps with
  | nil =>
    rw [List.filter_nil, List.forall₂_nil_left_iff]
    exact ⟨fun h => (Except.ok.inj h).symm, fun h => h ▸ rfl⟩
  | cons line rest ih =>
    cases hskip : isSkipped line with
    | true =>
      rw [pairsFrom_skipped hskip, ih, List.filter_cons_of_neg]
      simp [hskip]
    | false =>
      rw [List.filter_cons_of_pos (by simp [hskip]), List.forall₂_cons_left_iff]
      cases hpair : mappingPair? line with
      | none =>
        rw [pairsFrom_malformed hskip hpair]
        refine ⟨nofun, fun ⟨p, _, maps, _⟩ => ?_⟩
        rw [mappingPair?_eq_some_iff.mpr maps] at hpair
        cases hpair
      | some pair =>
        have only (p : String × String) : Maps line p.1 p.2 ↔ pair = p := by
          rw [← mappingPair?_eq_some_iff, hpair, Option.some_inj]
        simp only [pairsFrom_mapped hskip hpair, only, exists_and_left, exists_eq_left',
          ← ih (n := n + 1)]
        cases pairsFrom path (n + 1) rest with
        | error fault => simp [Except.map]
        | ok others => simp [Except.map, eq_comm]

private theorem pairsFrom_eq_error_iff {path : String} {n : Nat} {all : List String}
    {fault : OptionsFault} : pairsFrom path n all = .error fault ↔
      ∃ before line after, all = before ++ line :: after ∧ (∀ l ∈ before, ¬ IsMalformed l) ∧
        IsMalformed line ∧ fault = .malformedLine path (n + before.length) line := by
  induction all generalizing n with
  | nil => simp [pairsFrom, pure, Except.pure]
  | cons line rest ih =>
    by_cases malformed : IsMalformed line
    · obtain ⟨hskip, hpair⟩ := isMalformed_iff.mp malformed
      rw [pairsFrom_malformed hskip hpair, Except.error.injEq]
      constructor
      · rintro rfl
        exact ⟨[], line, rest, rfl, nofun, malformed, rfl⟩
      · rintro ⟨before, first, after, whole, fine, -, rfl⟩
        cases before with
        | nil => rw [(List.cons.inj whole).1, List.length_nil, Nat.add_zero]
        | cons l before =>
          exact absurd ((List.cons.inj whole).1 ▸ malformed) (fine l List.mem_cons_self)
    -- The first malformed line is one of the others, which are counted from the next number.
    · have later : pairsFrom path n (line :: rest) = .error fault ↔
          pairsFrom path (n + 1) rest = .error fault := by
        cases hskip : isSkipped line with
        | true => rw [pairsFrom_skipped hskip]
        | false =>
          cases hpair : mappingPair? line with
          | none => exact absurd (isMalformed_iff.mpr ⟨hskip, hpair⟩) malformed
          | some pair =>
            rw [pairsFrom_mapped hskip hpair]
            cases pairsFrom path (n + 1) rest with
            | error fault => exact Iff.rfl
            | ok others => exact ⟨nofun, nofun⟩
      rw [later, ih]
      constructor
      · rintro ⟨before, first, after, rfl, fine, bad, rfl⟩
        refine ⟨line :: before, first, after, rfl, List.forall_mem_cons.mpr ⟨malformed, fine⟩, bad,
          ?_⟩
        rw [List.length_cons, Nat.add_assoc, Nat.add_comm 1]
      · rintro ⟨before, first, after, whole, fine, bad, rfl⟩
        cases before with
        | nil => exact absurd ((List.cons.inj whole).1 ▸ bad) malformed
        | cons l before =>
          obtain ⟨rfl, rfl⟩ := List.cons.inj whole
          refine ⟨before, first, after, rfl, (List.forall_mem_cons.mp fine).2, bad, ?_⟩
          rw [List.length_cons, Nat.add_assoc, Nat.add_comm 1]

theorem pairs_eq_ok_iff {path text : String} {ps : List (String × String)} :
    pairs path text = .ok ps ↔
      List.Forall₂ (fun line p => Maps line p.1 p.2) (mappingLines text) ps :=
  pairsFrom_eq_ok_iff

theorem pairs_eq_error_iff {path text : String} {fault : OptionsFault} :
    pairs path text = .error fault ↔ ∃ before line after,
      (lines text.toList).map String.ofList = before ++ line :: after ∧
        (∀ l ∈ before, ¬ IsMalformed l) ∧ IsMalformed line ∧
        fault = .malformedLine path (before.length + 1) line := by
  simp only [Nat.add_comm _ 1]
  exact pairsFrom_eq_error_iff

end MappingFile

/-! ## Arguments -/

namespace MappingArgument

/-- The pairs that an argument stands for. -/
def StandsFor (w : Files.Workspace) (ps : List (String × String)) : MappingArgument → Prop
  | pair uri code => ps = [(uri, code)]
  | file path => ∃ text, w.readText path = .ok text ∧
      List.Forall₂ (fun line p => MappingFile.Maps line p.1 p.2) (MappingFile.mappingLines text) ps

theorem pairs_eq_ok_iff {w : Files.Workspace} {a : MappingArgument} {ps : List (String × String)} :
    a.pairs w = .ok ps ↔ a.StandsFor w ps := by
  cases a with
  | pair uri code => exact ⟨fun h => (Except.ok.inj h).symm, fun h => congrArg Except.ok h.symm⟩
  | file path =>
    rw [pairs, MappingFile.read, StandsFor]
    cases w.readText path with
    | error fault => simp
    | ok text => simp [MappingFile.pairs_eq_ok_iff]

/-- The last of the pairs for this URI has this code. -/
def IsLast (ps : List (String × String)) (uri code : String) : Prop :=
  ∃ before after, ps = before ++ (uri, code) :: after ∧ ∀ p ∈ after, p.1 ≠ uri

theorem collect_eq_ok_iff {w : Files.Workspace} {arguments : List MappingArgument}
    {codes : NamespaceCodes.Wishes} : collect w arguments = .ok codes ↔
      ∃ all, List.Forall₂ (fun a ps => a.StandsFor w ps) arguments all ∧
        ∀ uri code, codes[uri]? = some code ↔ IsLast all.flatten uri code := by
  have filled (ps : List (String × String)) : codes = Std.ExtTreeMap.ofList ps ↔
      ∀ uri code, codes[uri]? = some code ↔ IsLast ps uri code := by
    simp only [IsLast, ← getElem?_ofList_eq_some_iff]
    constructor
    · rintro rfl
      exact fun _ _ => Iff.rfl
    · exact fun same => Std.ExtTreeMap.ext_getElem? fun uri => Option.ext (same uri)
  have taken (all : List (List (String × String))) :
      arguments.mapM (pairs w) = .ok all ↔
        List.Forall₂ (fun a ps => a.StandsFor w ps) arguments all := by
    simp only [mapM_eq_ok_iff, pairs_eq_ok_iff]
  simp only [← filled, ← taken]
  rw [collect]
  cases arguments.mapM (pairs w) with
  | error fault => exact ⟨nofun, fun ⟨_, h, _⟩ => nomatch h⟩
  | ok all =>
    constructor
    · intro h
      exact ⟨all, rfl, (Except.ok.inj h).symm⟩
    · rintro ⟨_, same, rfl⟩
      cases same
      rfl

/-- A file gives, in the order of its lines, one pair for each line that is to map something; it is
refused exactly for a malformed line, of which the first is told with its number. Of all arguments
and all lines of files in their order, the last that maps a URI gives its code. -/
theorem mappings_exact (w : Files.Workspace) (path text : String)
    (arguments : List MappingArgument) :
    (∀ ps, MappingFile.pairs path text = .ok ps ↔
      List.Forall₂ (fun line p => MappingFile.Maps line p.1 p.2) (MappingFile.mappingLines text)
        ps) ∧
    (∀ fault, MappingFile.pairs path text = .error fault ↔ ∃ before line after,
      (lines text.toList).map String.ofList = before ++ line :: after ∧
        (∀ l ∈ before, ¬ MappingFile.IsMalformed l) ∧ MappingFile.IsMalformed line ∧
        fault = .malformedLine path (before.length + 1) line) ∧
    ∀ codes, collect w arguments = .ok codes ↔
      ∃ all, List.Forall₂ (fun a ps => a.StandsFor w ps) arguments all ∧
        ∀ uri code, codes[uri]? = some code ↔ IsLast all.flatten uri code :=
  ⟨fun _ => MappingFile.pairs_eq_ok_iff, fun _ => MappingFile.pairs_eq_error_iff,
    fun _ => collect_eq_ok_iff⟩

/-- A line without a code is not ignored: every line has an equals sign, and the file is refused. -/
theorem not_ignored_codeless :
    (∀ line ∈ (lines "x=".toList).map String.ofList, '=' ∈ line.toList) ∧
      MappingFile.pairs "m" "x=" = .error (.malformedLine "m" 1 "x=") :=
  ⟨by decide, rfl⟩

end MappingArgument

end SoapBindings
