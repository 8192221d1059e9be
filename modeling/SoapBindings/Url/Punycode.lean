import SoapBindings.Text.CodePoints

/-!
# Punycode

A word in ASCII that tells another word, which may hold any characters. Its ASCII characters stand
in front as they are. The others are inserted into them one by one, smaller ones first and equal
ones from left to right, and each insertion is told as one number: by how far it goes beyond the
insertion before it, when all places and characters are counted through.

A number is written in digits of base 36, the lowest first, without anything between two numbers: a
digit below its threshold is the last of its number. Thresholds follow the size of the numbers
before (`adapt`), so that numbers of the usual size need few digits.
-/

set_option autoImplicit false

namespace SoapBindings.Url.Punycode

open Text

/-! ## Digits and thresholds -/

def base : Nat := 36

/-- The first characters that are inserted. -/
def firstInserted : Nat := 128

def firstBias : Nat := 72

def digitChar (n : Nat) : Char :=
  if n < 26 then Char.ofNat ('a'.toNat + n) else Char.ofNat ('0'.toNat + (n - 26))

/-- The value of a digit; letters are small. -/
def digitValue? (c : Char) : Option Nat :=
  if 'a' ≤ c && c ≤ 'z' then some (c.toNat - 'a'.toNat)
  else if isAsciiDigit c then some (c.toNat - '0'.toNat + 26)
  else none

/-- The threshold of a digit; `place` is 36 for the lowest digit and 36 more for each of the
others. -/
def threshold (bias place : Nat) : Nat := min 26 (max 1 (place - bias))

theorem threshold_pos (bias place : Nat) : 0 < threshold bias place := by
  unfold threshold; omega

theorem threshold_le (bias place : Nat) : threshold bias place ≤ 26 := by
  unfold threshold; omega

/-- The bias for numbers of the size of `n`; `steps` is the bias gathered so far. -/
private def biasFor (steps n : Nat) : Nat :=
  if 455 < n then biasFor (steps + base) (n / 35) else steps + 36 * n / (n + 38)
termination_by n
decreasing_by exact Nat.div_lt_self (by omega) (by omega)

/-- The bias after a number, when there are `count` characters. -/
def adapt (isFirst : Bool) (number count : Nat) : Nat :=
  let n := if isFirst then number / 700 else number / 2
  biasFor 0 (n + n / count)

/-! ## Insertions -/

/-- The state between two insertions. -/
structure Progress where
  /-- The number of characters. -/
  count : Nat
  /-- The character inserted last. -/
  character : Nat
  /-- The place behind it. -/
  place : Nat
  bias : Nat
  isFirst : Bool

def Progress.start (count : Nat) : Progress := ⟨count, firstInserted, 0, firstBias, true⟩

/-- The state after a character was inserted at a place, which `number` told. -/
def Progress.after (p : Progress) (number character place : Nat) : Progress :=
  ⟨p.count + 1, character, place + 1, adapt p.isFirst number (p.count + 1), false⟩

/-- Where each character of a word that is not ASCII is inserted, in the order of insertion. -/
def insertions (word : List Char) : List (Char × Nat) :=
  let places := word.zipIdx.filterMap fun (c, i) =>
    if isAscii c then none else some (c, ((word.take i).filter (· ≤ c)).length)
  places.mergeSort fun a b => a.1 ≤ b.1

/-! ## Encoding -/

/-- The digits of a number. -/
def encodeNumber (bias place number : Nat) : List Char :=
  let t := threshold bias place
  if number < t then [digitChar number]
  else
    digitChar (t + (number - t) % (base - t)) ::
      encodeNumber bias (place + base) ((number - t) / (base - t))
termination_by number
decreasing_by
  have positive := threshold_pos bias place
  have := Nat.div_le_self (number - threshold bias place) (base - threshold bias place)
  omega

private def encodeInsertions (p : Progress) : List (Char × Nat) → List Char
  | [] => []
  | (c, place) :: rest =>
    let number := (c.toNat - p.character) * (p.count + 1) + place - p.place
    encodeNumber p.bias base number ++ encodeInsertions (p.after number c.toNat place) rest

/-- The ASCII word that tells a word. -/
def encode (word : List Char) : List Char :=
  let plain := word.filter isAscii
  plain ++ (if plain.isEmpty then [] else ['-']) ++
    encodeInsertions (.start plain.length) (insertions word)

/-! ## Decoding -/

/-- A number whose digits are read. -/
structure Digits where
  value : Nat
  weight : Nat
  place : Nat

def Digits.none : Digits := ⟨0, 1, base⟩

/-- A word under way. -/
structure Decoding where
  word : List Char
  progress : Progress
  digits : Digits

namespace Decoding

/-- Does the insertion that a number tells. -/
def insert? (d : Decoding) (number : Nat) : Option Decoding :=
  let p := d.progress
  let target := p.place + number
  let character := p.character + target / (p.count + 1)
  let place := target % (p.count + 1)
  if character.isValidChar then
    some ⟨d.word.take place ++ Char.ofNat character :: d.word.drop place,
      p.after number character place, .none⟩
  else none

/-- Reads a digit. -/
def digit? (d : Decoding) (c : Char) : Option Decoding := do
  let n ← digitValue? c
  let t := threshold d.progress.bias d.digits.place
  let value := d.digits.value + n * d.digits.weight
  if n < t then d.insert? value
  else some { d with digits := ⟨value, d.digits.weight * (base - t), d.digits.place + base⟩ }

/-- No number is begun and not ended. -/
def isWhole (d : Decoding) : Bool := d.digits.place == base

end Decoding

/-- Cuts an ASCII word at its last dash. A dash in front belongs to the digits. -/
def cut (word : List Char) : List Char × List Char :=
  let digits := (word.reverse.takeWhile (· != '-')).reverse
  if digits.length + 1 < word.length then (word.take (word.length - digits.length - 1), digits)
  else ([], word)

/-- The word that an ASCII word tells. -/
def decode? (word : List Char) : Option (List Char) := do
  let (plain, digits) := cut word
  let d ← digits.foldlM Decoding.digit? ⟨plain, .start plain.length, .none⟩
  if plain.all isAscii && d.isWhole then some d.word else none

end SoapBindings.Url.Punycode
