import SoapBindings.Proofs.Text.Split
import SoapBindings.Url.Reading

/-!
# Addresses of the special schemes

An address of a special scheme has a host, and a path with one segment at least. Neither the host
nor a segment has a slash in it, the host is not empty, and no segment is a dot or two.
-/

set_option autoImplicit false

namespace SoapBindings.Url

open Text

/-! ## Hosts -/

theorem not_mem_intercalate {c : Char} {separator : List Char} {parts : List (List Char)}
    (between : c ∉ separator) (inside : ∀ part ∈ parts, c ∉ part) :
    c ∉ separator.intercalate parts := by
  induction parts with
  | nil => exact List.not_mem_nil
  | cons part parts ih =>
    obtain ⟨here, later⟩ := List.forall_mem_cons.mp inside
    cases parts with
    | nil => simpa [List.intercalate] using here
    | cons next parts =>
      rw [List.intercalate_cons_of_ne_nil (List.cons_ne_nil _ _)]
      simp only [List.mem_append, not_or]
      exact ⟨⟨here, between⟩, ih later⟩

/-- The digits of a number have no slash among them. -/
theorem slash_not_mem_toDigits {base : Nat} (large : 1 < base) (small : base ≤ 16) (n : Nat) :
    '/' ∉ Nat.toDigits base n := by
  have digit : ∀ m < 16, m.digitChar ≠ '/' := by decide
  induction n using Nat.strongRecOn with
  | ind n ih =>
    by_cases below : n < base
    · rw [Nat.toDigits_of_lt_base below, List.mem_singleton]
      exact (digit n (by omega)).symm
    · rw [Nat.toDigits_of_base_le large (by omega), List.mem_append, List.mem_singleton, not_or]
      have last := Nat.mod_lt n (show base > 0 by omega)
      exact ⟨ih _ (Nat.div_lt_self (by omega) large), (digit _ (by omega)).symm⟩

/-- The text of the host can stand between two slashes. -/
def Host.IsSolid (h : Host) : Prop := '/' ∉ h.toText.toList ∧ h.toText ≠ ""

theorem Host.isEmpty_of_isSolid {h : Host} (solid : h.IsSolid) : h.isEmpty = false := by
  rw [Host.isEmpty, beq_eq_false_iff_ne]
  rintro rfl
  exact solid.2 rfl

theorem isSolid_v4 (address : Nat) : (Host.v4 address).IsSolid := by
  constructor
  · rw [Host.toText, ipv4Text, String.toList_intercalate]
    refine not_mem_intercalate (by decide) fun part has => ?_
    rw [List.map_map, List.mem_map] at has
    obtain ⟨i, _, rfl⟩ := has
    rw [Function.comp_apply, show toString (address / Nat.pow 256 i % 256) =
      (address / Nat.pow 256 i % 256).repr from rfl, Nat.toList_repr]
    exact slash_not_mem_toDigits (by decide) (by decide) _
  · intro empty
    have := congrArg String.toList empty
    rw [Host.toText, ipv4Text, String.toList_intercalate] at this
    simp at this

theorem slash_not_mem_pieceTexts (pieces : List Nat) : '/' ∉ (pieceTexts pieces).toList := by
  rw [pieceTexts, String.toList_intercalate]
  refine not_mem_intercalate (by decide) fun part has => ?_
  rw [List.map_map, List.mem_map] at has
  obtain ⟨n, _, rfl⟩ := has
  rw [Function.comp_apply, String.toList_ofList]
  exact slash_not_mem_toDigits (by decide) (by decide) n

theorem isSolid_v6 (pieces : List Nat) : (Host.v6 pieces).IsSolid := by
  have solid := slash_not_mem_pieceTexts
  rw [Host.IsSolid, Host.toText, ipv6Text]
  split
  split
  all_goals simp [solid]

theorem slash_not_mem_asciiDomain? {name ascii : List Char} (h : asciiDomain? name = some ascii) :
    '/' ∉ ascii := by
  simp only [asciiDomain?, Option.bind_eq_bind, Option.bind_eq_some_iff] at h
  obtain ⟨_, _, labels, _, last⟩ := h
  split at last
  · next kept =>
    cases last
    rw [Bool.and_eq_true, Bool.not_eq_true', List.any_eq_false] at kept
    exact fun slash => kept.2 '/' slash (by decide)
  · cases last

/-- A domain name, and so every host of a special scheme. -/
theorem isSolid_ofDomain {cs : List Char} {host : Host} (h : Host.ofDomain cs = .ok host) :
    host.IsSolid := by
  unfold Host.ofDomain at h
  split at h
  · unfold Host.bracketed at h
    split at h
    · split at h
      · cases h
        exact isSolid_v6 _
      · cases h
    · cases h
  · split at h
    · cases h
    · split at h
      · cases h
      · cases h
      · next ascii nonempty found =>
        split at h
        · split at h
          · cases h
            exact isSolid_v4 _
          · cases h
        · cases h
          refine ⟨?_, ?_⟩
          · rw [Host.toText, String.toList_ofList]
            exact slash_not_mem_asciiDomain? found
          · intro empty
            exact nonempty (by simpa [Host.toText] using congrArg String.toList empty)

/-! ## Segments -/

/-- The segment has no slash in it and is no dot segment. -/
def IsSegment (segment : String) : Prop :=
  '/' ∉ segment.toList ∧ segment ≠ "." ∧ segment ≠ ".."

theorem slash_not_mem_percentByte (b : UInt8) : '/' ∉ percentByte b := by
  have digit : ∀ n < 16, n.digitChar.toUpper ≠ '/' := by decide
  have bound := b.toNat_lt
  have high := digit (b.toNat / 16) (by omega)
  have low := digit (b.toNat % 16) (by omega)
  simp [percentByte, high.symm, low.symm]

theorem slash_not_mem_percentEncode {encoded : EncodeSet} {cs : List Char} (h : '/' ∉ cs) :
    '/' ∉ percentEncode encoded cs := by
  rw [percentEncode, List.mem_flatMap]
  rintro ⟨c, hc, has⟩
  split at has
  · obtain ⟨b, _, inside⟩ := List.mem_flatMap.mp has
    exact slash_not_mem_percentByte b inside
  · rw [List.mem_singleton] at has
    exact h (has ▸ hc)

/-- What is encoded has a percent sign in it. -/
theorem percentEncode_eq_self {encoded : EncodeSet} {cs : List Char}
    (h : '%' ∉ percentEncode encoded cs) : percentEncode encoded cs = cs := by
  induction cs with
  | nil => rfl
  | cons c cs ih =>
    rw [percentEncode, List.flatMap_cons] at h ⊢
    rw [List.mem_append, not_or] at h
    rw [show cs.flatMap _ = percentEncode encoded cs from rfl] at h ⊢
    rw [ih h.2]
    split
    · next inside =>
      rw [if_pos inside] at h
      cases bytes : String.utf8EncodeChar c with
      | nil => exact absurd bytes (by simp)
      | cons b bytes => simp [bytes, percentByte] at h
    · rfl

theorem isSegment_percentEncode {segment : List Char} (solid : '/' ∉ segment)
    (single : isSingleDot segment = false) (double : isDoubleDot segment = false) :
    IsSegment (String.ofList (percentEncode pathSet segment)) := by
  have kept (dots : List Char) (plain : '%' ∉ dots)
      (same : String.ofList (percentEncode pathSet segment) = String.ofList dots) :
      segment = dots := by
    rw [String.ofList_inj] at same
    rw [← same, percentEncode_eq_self (same ▸ plain)]
  refine ⟨?_, fun same => ?_, fun same => ?_⟩
  · rw [String.toList_ofList]
    exact slash_not_mem_percentEncode solid
  · rw [kept ['.'] (by decide) same] at single
    cases single
  · rw [kept ['.', '.'] (by decide) same] at double
    cases double

theorem dropSegment_subset (path : List String) : dropSegment path ⊆ path := by
  cases path with
  | nil => exact List.Subset.refl _
  | cons last front =>
    rw [dropSegment]
    split
    · exact List.Subset.refl _
    · exact List.subset_cons_self _ _

/-- Dot segments are resolved as they are added, so none is ever part of the path. -/
theorem isSegment_addSegments {path : List String} {segments : List (List Char)}
    (h : ∀ s ∈ path, IsSegment s) (solid : ∀ s ∈ segments, '/' ∉ s) :
    ∀ s ∈ addSegments .special path segments, IsSegment s := by
  have empty : IsSegment "" := by
    refine ⟨by simp, by simp, by simp⟩
  fun_induction addSegments .special path segments with
  | case1 path => exact h
  | case2 path last double =>
    exact List.forall_mem_cons.mpr ⟨empty, fun s hs => h s (dropSegment_subset path hs)⟩
  | case3 path last _ single => exact List.forall_mem_cons.mpr ⟨empty, h⟩
  | case4 path last double single =>
    obtain ⟨here, _⟩ := List.forall_mem_cons.mp solid
    exact List.forall_mem_cons.mpr
      ⟨isSegment_percentEncode here (by simpa using single) (by simpa using double), h⟩
  | case5 path segment next rest double ih =>
    exact ih (fun s hs => h s (dropSegment_subset path hs)) (List.forall_mem_cons.mp solid).2
  | case6 path segment next rest _ single ih => exact ih h (List.forall_mem_cons.mp solid).2
  | case7 path segment next rest double single ih =>
    obtain ⟨here, later⟩ := List.forall_mem_cons.mp solid
    exact ih (List.forall_mem_cons.mpr
      ⟨isSegment_percentEncode here (by simpa using single) (by simpa using double), h⟩) later

theorem addSegments_ne_nil (kind : SchemeKind) {path : List String} {segments : List (List Char)}
    (h : segments ≠ []) : addSegments kind path segments ≠ [] := by
  fun_induction addSegments kind path segments with
  | case1 => exact absurd rfl h
  | case2 | case3 | case4 => exact List.cons_ne_nil _ _
  | case5 _ _ _ _ _ ih | case6 _ _ _ _ _ _ ih | case7 _ _ _ _ _ _ ih =>
    exact ih (List.cons_ne_nil _ _)

/-! ## Addresses -/

/-- The path is one of the special schemes. -/
def Path.IsProper (p : Path) : Prop :=
  ∃ parts, p = .segments parts ∧ parts ≠ [] ∧ ∀ s ∈ parts, IsSegment s

/-- The address is one of the special schemes. -/
structure Address.IsProper (a : Address) : Prop where
  host : ∃ info host port, a.authority = some ⟨info, host, port⟩ ∧ host.IsSolid
  path : a.path.IsProper

theorem isProper_readPath {front : List String} (h : ∀ s ∈ front, IsSegment s) (cs : List Char) :
    (readPath .special front cs).IsProper := by
  have solid : ∀ s ∈ splitWhere (isSlash .special) cs, '/' ∉ s := fun s hs slash =>
    absurd (separates_of_mem_splitWhere hs '/' slash) (by decide)
  have read : readPath .special front cs =
      .segments
        (addSegments .special front.reverse (splitWhere (isSlash .special) cs)).reverse := by
    rw [readPath]
    cases front <;> rfl
  refine ⟨_, read, ?_, fun s hs => ?_⟩
  · rw [Ne, List.reverse_eq_nil_iff]
    exact addSegments_ne_nil _ (splitWhere_ne_nil _ _)
  · exact isSegment_addSegments (fun s hs => h s (List.mem_reverse.mp hs)) solid s
      (List.mem_reverse.mp hs)

theorem exists_ok_of_bind {ε α β : Type} {x : Except ε α} {f : α → Except ε β} {b : β}
    (h : (x >>= f) = .ok b) : ∃ a, x = .ok a ∧ f a = .ok b := by
  cases x with
  | error e => cases h
  | ok a => exact ⟨a, rfl, h⟩

theorem ok_of_guard {ε α : Type} {c : Prop} [Decidable c] {e : ε} {rest : Except ε α} {a : α}
    (h : (if c then (throw e : Except ε PUnit) >>= fun _ => rest else rest) = .ok a) :
    rest = .ok a := by
  split at h
  · cases h
  · exact h

theorem isSolid_readAuthority {scheme : String} (special : SchemeKind.of scheme = .special)
    {cs : List Char} {authority : Authority} (h : readAuthority scheme cs = .ok authority) :
    authority.host.IsSolid := by
  unfold readAuthority at h
  rw [special] at h
  extract_lets at h
  replace h := ok_of_guard h
  replace h := ok_of_guard h
  rw [if_neg (by decide)] at h
  obtain ⟨host, found, h⟩ := exists_ok_of_bind h
  replace h := ok_of_guard h
  obtain ⟨port, _, h⟩ := exists_ok_of_bind h
  replace h := ok_of_guard h
  cases h
  exact isSolid_ofDomain found

theorem readAfterSlashes_eq_ok {scheme : String} {cs : List Char} {a : Address}
    (h : readAfterSlashes scheme cs = .ok a) :
    a.scheme = scheme ∧ (SchemeKind.of scheme = .special → a.IsProper) := by
  unfold readAfterSlashes at h
  dsimp only at h
  obtain ⟨authority, read, h⟩ := exists_ok_of_bind h
  cases h
  refine ⟨rfl, fun special => ⟨⟨_, _, _, rfl, isSolid_readAuthority special read⟩, ?_⟩⟩
  have root : (Path.segments [""]).IsProper :=
    ⟨[""], rfl, List.cons_ne_nil _ _, by simp [IsSegment]⟩
  dsimp only
  rw [special]
  split
  · exact root
  · exact isProper_readPath (by simp) _

theorem readRelative_scheme (base : Address) (cs : List Char) :
    (readRelative base cs).scheme = base.scheme := by
  unfold readRelative
  dsimp only
  split
  · rfl
  · split <;> rfl

/-- What completes a proper address gives a proper address. -/
theorem isProper_readRelative {base : Address} (h : base.IsProper)
    (special : SchemeKind.of base.scheme = .special) (cs : List Char) :
    (readRelative base cs).IsProper := by
  obtain ⟨parts, path, _, segments⟩ := h.path
  unfold readRelative
  dsimp only
  rw [special, path]
  split
  · exact ⟨h.host, path ▸ h.path⟩
  · split
    · exact ⟨h.host, isProper_readPath (by simp) _⟩
    · exact ⟨h.host, isProper_readPath (fun s hs => segments s (List.dropLast_subset _ hs)) _⟩

theorem readFile_scheme {base : Option Address} (h : ∀ b ∈ base, b.scheme = "file")
    {cs : List Char} {a : Address} (read : readFile base cs = .ok a) : a.scheme = "file" := by
  have relative (text : List Char) : (readFile.relative base text).scheme = "file" := by
    unfold readFile.relative
    extract_lets root
    split
    · exact readRelative_scheme _ _
    · rw [readRelative_scheme]
      cases base with
      | none => rfl
      | some b => exact h b rfl
  unfold readFile at read
  split at read
  · split at read
    · extract_lets at read
      split at read
      · cases read
        rfl
      · obtain ⟨host, _, read⟩ := exists_ok_of_bind read
        cases read
        rfl
    · split at read
      · cases read
        rfl
      · cases read
        exact relative _
  · split at read
    · cases read
      rfl
    · cases read
      exact relative _
  · cases read
    exact relative _

theorem readGeneral_scheme {scheme : String} {cs : List Char} {a : Address}
    (read : readGeneral scheme cs = .ok a) : a.scheme = scheme := by
  unfold readGeneral at read
  split at read
  · exact (readAfterSlashes_eq_ok read).1
  · dsimp only at read
    split at read <;>
    · cases read
      rfl

theorem isProper_readWithScheme {base : Option Address}
    (h : ∀ b ∈ base, SchemeKind.of b.scheme = .special → b.IsProper) {scheme : String}
    {cs : List Char} {a : Address} (read : readWithScheme base scheme cs = .ok a)
    (special : SchemeKind.of a.scheme = .special) : a.IsProper := by
  have same : ∀ b ∈ base.filter (·.scheme == scheme), b ∈ base ∧ b.scheme = scheme := by
    intro b hb
    simpa [Option.filter_eq_some_iff] using hb
  unfold readWithScheme at read
  dsimp only at read
  split at read
  · next kind =>
    have isFile : scheme = "file" := by
      rw [SchemeKind.of] at kind
      split at kind
      · next isFile => exact beq_iff_eq.mp isFile
      · split at kind <;> cases kind
    have name := readFile_scheme (fun b hb => (same b hb).2.trans isFile) read
    rw [name] at special
    cases special
  · next kind =>
    rw [readGeneral_scheme read, kind] at special
    cases special
  · next kind =>
    split at read
    · next b found =>
      -- Only a base of the same scheme is taken over, so it is proper as well.
      obtain ⟨has, name⟩ := same b found
      split at read
      · cases read
        rw [← name] at kind
        exact isProper_readRelative (h b has kind) kind cs
      · exact (readAfterSlashes_eq_ok read).2 kind
    · exact (readAfterSlashes_eq_ok read).2 kind

theorem isProper_readWithoutScheme {base : Address}
    (h : SchemeKind.of base.scheme = .special → base.IsProper) {cs : List Char} {a : Address}
    (read : readWithoutScheme base cs = .ok a) (special : SchemeKind.of a.scheme = .special) :
    a.IsProper := by
  unfold readWithoutScheme at read
  split at read
  · split at read
    · cases read
      exact h special
    · cases read
  · split at read
    · next isFile =>
      have name := readFile_scheme (by simpa using isFile) read
      rw [name] at special
      cases special
    · split at read
      · split at read
        · obtain ⟨name, proper⟩ := readAfterSlashes_eq_ok read
          exact proper (name ▸ special)
        · obtain ⟨name, proper⟩ := readAfterSlashes_eq_ok read
          exact proper (name ▸ special)
      · cases read
        rw [readRelative_scheme] at special
        exact isProper_readRelative (h special) special cs

/-- An address of a special scheme is proper if it was read alone, or from a base that is. -/
theorem Address.isProper_read {base : Option Address}
    (h : ∀ b ∈ base, SchemeKind.of b.scheme = .special → b.IsProper) {text : String} {a : Address}
    (read : Address.read base text = .ok a) (special : SchemeKind.of a.scheme = .special) :
    a.IsProper := by
  unfold Address.read at read
  dsimp only at read
  split at read
  · exact isProper_readWithScheme h read special
  · split at read
    · next b => exact isProper_readWithoutScheme (h b rfl) read special
    · cases read

end SoapBindings.Url
