import Mathlib
import SoapBindings.Text.Utf8

/-!
# What is encoded is decoded

The bytes of a text decode to the text (`decode?_toUTF8`). It is shown for one character, by the
number of its bytes: the first announces how many follow, and each that follows is in the range that
was announced. The narrower ranges leave out no character, because the numbers that they rule out
are encoded in fewer bytes, are surrogates, or are too large.
-/

set_option autoImplicit false

namespace SoapBindings.Text.Utf8

/-! ## Single bytes -/

/-- What a byte of some number does between two characters. -/
theorem lead_ofNat {k : Nat} (hk : k < 256) : lead (UInt8.ofNat k) =
    if k < 0x80 then ([.char (Char.ofNat k)], none)
    else if k < 0xC2 then ([.invalid], none)
    else if k < 0xE0 then ([], some ⟨1, 0x80, 0xBF, k % 32⟩)
    else if k < 0xF0 then
      ([], some ⟨2, if k = 0xE0 then 0xA0 else 0x80, if k = 0xED then 0x9F else 0xBF, k % 16⟩)
    else if k < 0xF5 then
      ([], some ⟨3, if k = 0xF0 then 0x90 else 0x80, if k = 0xF4 then 0x8F else 0xBF, k % 8⟩)
    else ([.invalid], none) := by
  have number : (UInt8.ofNat k).toNat = k := UInt8.toNat_ofNat_of_lt hk
  have five : k &&& 31 = k % 32 := Nat.and_two_pow_sub_one_eq_mod k 5
  have four : k &&& 15 = k % 16 := Nat.and_two_pow_sub_one_eq_mod k 4
  have three : k &&& 7 = k % 8 := Nat.and_two_pow_sub_one_eq_mod k 3
  simp only [lead, UInt8.lt_iff_toNat_lt, beq_iff_eq, ← UInt8.toNat_inj, number, UInt8.toNat_and,
    UInt8.reduceToNat, five, four, three]
  split_ifs <;> first | rfl | omega

/-- A byte in the announced range continues the character under way by six bits. -/
theorem step_trail {owed bits m : Nat} {low high : UInt8} (hlow : low.toNat ≤ m % 64 + 128)
    (hhigh : m % 64 + 128 ≤ high.toNat) :
    step (some ⟨owed, low, high, bits⟩) (UInt8.ofNat (m % 64 + 128)) =
      if owed ≤ 1 then ([.char (Char.ofNat (bits * 64 + m % 64))], none)
      else ([], some ⟨owed - 1, 0x80, 0xBF, bits * 64 + m % 64⟩) := by
  have small : m % 64 + 128 < 256 := by omega
  have number : (UInt8.ofNat (m % 64 + 128)).toNat = m % 64 + 128 := UInt8.toNat_ofNat_of_lt small
  have six : (m % 64 + 128) &&& 63 = m % 64 := by
    rw [show 63 = 2 ^ 6 - 1 from rfl, Nat.and_two_pow_sub_one_eq_mod]
    omega
  have inside : (low ≤ UInt8.ofNat (m % 64 + 128) && UInt8.ofNat (m % 64 + 128) ≤ high) = true := by
    simp only [UInt8.le_iff_toNat_le, number, hlow, hhigh, decide_true, Bool.and_self]
  simp only [step, inside, if_true, UInt8.toNat_and, number, UInt8.reduceToNat, six]

/-- Once its second byte is read, a character is continued by any bytes that do not begin one. -/
theorem step_inner {owed bits m : Nat} :
    step (some ⟨owed, 0x80, 0xBF, bits⟩) (UInt8.ofNat (m % 64 + 128)) =
      if owed ≤ 1 then ([.char (Char.ofNat (bits * 64 + m % 64))], none)
      else ([], some ⟨owed - 1, 0x80, 0xBF, bits * 64 + m % 64⟩) := by
  refine step_trail ?_ ?_
  · show 128 ≤ _
    omega
  · show _ ≤ 191
    omega

/-! ## Characters -/

/-- What some bytes add to what is read. -/
def feedOn (state : List Piece × Option Pending) (bytes : List UInt8) :
    List Piece × Option Pending :=
  bytes.foldl (fun (done, pending) b =>
    let (emitted, next) := step pending b
    (emitted.reverse ++ done, next)) state

theorem feedOn_cons {done : List Piece} {pending : Option Pending} {b : UInt8}
    {bytes : List UInt8} : feedOn (done, pending) (b :: bytes) =
      feedOn ((step pending b).1.reverse ++ done, (step pending b).2) bytes := rfl

/-- The bytes of a character read as the character. -/
theorem feedOn_char (done : List Piece) (c : Char) :
    feedOn (done, none) (String.utf8EncodeChar c) = (.char c :: done, none) := by
  have valid : c.val.toNat < 0xD800 ∨ (0xDFFF < c.val.toNat ∧ c.val.toNat < 0x110000) := c.valid
  have same : Char.ofNat c.val.toNat = c := Char.ofNat_toNat c
  have begins (b : UInt8) : step none b = lead b := rfl
  rw [String.utf8EncodeChar]
  generalize c.val.toNat = n at valid same
  split_ifs with one two three
  · rw [feedOn_cons, begins, lead_ofNat (by omega), if_pos (by omega), same]
    rfl
  · rw [feedOn_cons, begins, lead_ofNat (by omega), if_neg (by omega), if_neg (by omega),
      if_pos (by omega), feedOn_cons, step_inner, if_pos (by decide)]
    have number : (n / 64 % 32 + 192) % 32 * 64 + n % 64 = n := by omega
    rw [number, same]
    rfl
  · -- After 0xE0 the second byte is large, as the number has more than 11 bits; after 0xED it is
    -- small, as the number is no surrogate.
    have low : (if n / 4096 % 16 + 224 = 0xE0 then 0xA0 else 0x80 : UInt8).toNat ≤
        n / 64 % 64 + 128 := by
      split_ifs
      · show 160 ≤ _
        omega
      · show 128 ≤ _
        omega
    have high : n / 64 % 64 + 128 ≤
        (if n / 4096 % 16 + 224 = 0xED then 0x9F else 0xBF : UInt8).toNat := by
      split_ifs
      · show _ ≤ 159
        omega
      · show _ ≤ 191
        omega
    rw [feedOn_cons, begins, lead_ofNat (by omega), if_neg (by omega), if_neg (by omega),
      if_neg (by omega), if_pos (by omega), feedOn_cons, step_trail low high, if_neg (by decide),
      feedOn_cons, step_inner, if_pos (by decide)]
    have number : ((n / 4096 % 16 + 224) % 16 * 64 + n / 64 % 64) * 64 + n % 64 = n := by omega
    rw [number, same]
    rfl
  · -- After 0xF0 the second byte is large, as the number has more than 16 bits; after 0xF4 it is
    -- small, as the number is not too large.
    have low : (if n / 262144 % 8 + 240 = 0xF0 then 0x90 else 0x80 : UInt8).toNat ≤
        n / 4096 % 64 + 128 := by
      split_ifs
      · show 144 ≤ _
        omega
      · show 128 ≤ _
        omega
    have high : n / 4096 % 64 + 128 ≤
        (if n / 262144 % 8 + 240 = 0xF4 then 0x8F else 0xBF : UInt8).toNat := by
      split_ifs
      · show _ ≤ 143
        omega
      · show _ ≤ 191
        omega
    rw [feedOn_cons, begins, lead_ofNat (by omega), if_neg (by omega), if_neg (by omega),
      if_neg (by omega), if_neg (by omega), if_pos (by omega), feedOn_cons, step_trail low high,
      if_neg (by decide), feedOn_cons, step_inner, if_neg (by decide), feedOn_cons, step_inner,
      if_pos (by decide)]
    have number : (((n / 262144 % 8 + 240) % 8 * 64 + n / 4096 % 64) * 64 + n / 64 % 64) * 64 +
        n % 64 = n := by omega
    rw [number, same]
    rfl

/-! ## Texts -/

theorem feedOn_chars (done : List Piece) (cs : List Char) :
    feedOn (done, none) (cs.flatMap String.utf8EncodeChar) =
      ((cs.map .char).reverse ++ done, none) := by
  induction cs generalizing done with
  | nil => rfl
  | cons c cs ih =>
    have split : feedOn (done, none) (String.utf8EncodeChar c ++ cs.flatMap String.utf8EncodeChar) =
        feedOn (feedOn (done, none) (String.utf8EncodeChar c))
          (cs.flatMap String.utf8EncodeChar) := List.foldl_append
    rw [List.flatMap_cons, split, feedOn_char, ih]
    simp

theorem pieces_encoded (cs : List Char) :
    pieces (cs.flatMap String.utf8EncodeChar) = cs.map .char := by
  have fed : feed (cs.flatMap String.utf8EncodeChar) = ((cs.map .char).reverse ++ [], none) :=
    feedOn_chars [] cs
  rw [pieces, fed]
  simp

theorem toList_loop (bytes : ByteArray) (i : Nat) (done : List UInt8) :
    ByteArray.toList.loop bytes i done = done.reverse ++ bytes.data.toList.drop i := by
  fun_induction ByteArray.toList.loop bytes i done with
  | case1 i done more ih =>
    have here : i < bytes.data.toList.length := by simpa using more
    have byte : bytes.get! i = bytes.data.toList[i] := getElem!_pos bytes.data i more
    rw [ih, List.drop_eq_getElem_cons here, byte, List.reverse_cons, List.append_assoc,
      List.singleton_append]
  | case2 i done short =>
    have nothing : bytes.data.toList.drop i = [] := List.drop_eq_nil_of_le (by simpa using short)
    rw [nothing, List.append_nil]

theorem toList_toUTF8 (s : String) : s.toUTF8.toList = s.toList.flatMap String.utf8EncodeChar := by
  have encoded : s.toUTF8 = (s.toList.flatMap String.utf8EncodeChar).toByteArray := by
    rw [String.toUTF8, ← String.utf8Encode_toList, List.utf8Encode]
  rw [encoded, ByteArray.toList, toList_loop]
  simp

/-- The bytes of a text decode to the text. -/
theorem decode?_toUTF8 (s : String) : decode? s.toUTF8 = some s := by
  have all : (s.toList.map Piece.char).mapM Piece.char? = some s.toList := by
    induction s.toList with
    | nil => rfl
    | cons c cs ih => simp [List.mapM_cons, ih, Piece.char?]
  rw [decode?, toList_toUTF8, pieces_encoded, all, Option.map_some, String.ofList_toList]

end SoapBindings.Text.Utf8
