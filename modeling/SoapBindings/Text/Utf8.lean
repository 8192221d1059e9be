/-!
# Bytes as text

Documents and files arrive as bytes. `pieces` cuts bytes into the characters they encode and the
maximal parts that encode none. Strict reading refuses a text with such a part, lenient reading
puts U+FFFD in its place: the two differ only in what they do with one list of pieces.

A first byte announces how many bytes follow and, for some of them, a narrower range for the second
byte, which is what rules out overlong forms, surrogates and numbers past U+10FFFF.
-/

set_option autoImplicit false

namespace SoapBindings.Text.Utf8

/-- A character under way: bytes still owed, the range of the next one, the bits so far. -/
structure Pending where
  owed : Nat
  low : UInt8
  high : UInt8
  bits : Nat

/-- What stands at a place of the bytes. -/
inductive Piece where
  | char (c : Char)
  /-- Bytes that begin no character, or whose character is not continued. -/
  | invalid

/-- What a byte does between two characters. -/
def lead (b : UInt8) : List Piece × Option Pending :=
  let announce (owed : Nat) (low high : UInt8) (mask : UInt8) : List Piece × Option Pending :=
    ([], some ⟨owed, low, high, (b &&& mask).toNat⟩)
  if b < 0x80 then ([.char (Char.ofNat b.toNat)], none)
  else if b < 0xC2 then ([.invalid], none)
  else if b < 0xE0 then announce 1 0x80 0xBF 0x1F
  else if b == 0xE0 then announce 2 0xA0 0xBF 0x0F
  else if b == 0xED then announce 2 0x80 0x9F 0x0F
  else if b < 0xF0 then announce 2 0x80 0xBF 0x0F
  else if b == 0xF0 then announce 3 0x90 0xBF 0x07
  else if b < 0xF4 then announce 3 0x80 0xBF 0x07
  else if b == 0xF4 then announce 3 0x80 0x8F 0x07
  else ([.invalid], none)

/-- One byte more. A byte that does not continue the character under way begins anew. -/
def step : Option Pending → UInt8 → List Piece × Option Pending
  | none, b => lead b
  | some p, b =>
    if p.low ≤ b && b ≤ p.high then
      let bits := p.bits * 64 + (b &&& 0x3F).toNat
      if p.owed ≤ 1 then ([.char (Char.ofNat bits)], none)
      else ([], some ⟨p.owed - 1, 0x80, 0xBF, bits⟩)
    else
      let (emitted, next) := lead b
      (.invalid :: emitted, next)

/-- The pieces after some bytes, newest first, with the character under way. -/
def feed (bytes : List UInt8) : List Piece × Option Pending :=
  bytes.foldl (fun (done, pending) b =>
    let (emitted, next) := step pending b
    (emitted.reverse ++ done, next)) ([], none)

def pieces (bytes : List UInt8) : List Piece :=
  match feed bytes with
  | (done, none) => done.reverse
  | (done, some _) => (.invalid :: done).reverse

def Piece.char? : Piece → Option Char
  | .char c => some c
  | .invalid => none

/-- The text of bytes that are UTF-8 throughout. -/
def decode? (bytes : ByteArray) : Option String :=
  ((pieces bytes.toList).mapM Piece.char?).map String.ofList

/-- The text of any bytes; each maximal part that is not UTF-8 reads as U+FFFD. -/
def lenient (bytes : ByteArray) : String :=
  String.ofList ((pieces bytes.toList).map fun p => p.char?.getD '\uFFFD')

end SoapBindings.Text.Utf8
