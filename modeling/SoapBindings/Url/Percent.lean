import SoapBindings.Text.Digits
import SoapBindings.Text.Utf8

/-!
# Percent encoding

A character that may not stand as it is in some part of an address is written as its bytes, each as
`%` and two capital hexadecimal digits. Which characters that are depends on the part; the sets
below grow from one another as the standard defines them. What is encoded already is left alone,
since no set but that of file names holds `%`.
-/

set_option autoImplicit false

namespace SoapBindings.Url

open Text

/-- A set of characters to encode. -/
abbrev EncodeSet := Char → Bool

private def also (s : EncodeSet) (more : List Char) : EncodeSet := fun c => s c || more.contains c

/-- Controls and everything outside ASCII. -/
def controlSet : EncodeSet := fun c => c < ' ' || c ≥ '\x7f'

def pathSet : EncodeSet :=
  also controlSet [' ', '"', '<', '>', '`', '#', '?', '\x7b', '\x7d']

def userinfoSet : EncodeSet :=
  also pathSet ['/', ':', ';', '=', '@', '[', '\\', ']', '^', '|']

/-- The set for the parts of a file name, where a percent sign stands for itself. -/
def fileNameSet : EncodeSet := also pathSet ['/', '%', '\\']

def querySet : EncodeSet := also controlSet [' ', '"', '#', '<', '>']

/-- The set for the query of a special scheme. -/
def specialQuerySet : EncodeSet := also querySet ['\'']

/-- A byte as a percent sign and two digits. -/
def percentByte (b : UInt8) : List Char :=
  let digit (n : Nat) : Char := (Nat.digitChar n).toUpper
  ['%', digit (b.toNat / 16), digit (b.toNat % 16)]

def percentEncode (s : EncodeSet) (cs : List Char) : List Char :=
  cs.flatMap fun c => if s c then (String.utf8EncodeChar c).flatMap percentByte else [c]

/-- The bytes that a text stands for; a percent sign without two digits stands for itself. -/
def percentDecode : List Char → List UInt8
  | [] => []
  | '%' :: h :: l :: rest =>
    match digitValue? 16 h, digitValue? 16 l with
    | some high, some low => UInt8.ofNat (high * 16 + low) :: percentDecode rest
    | _, _ => '%'.toUInt8 :: percentDecode (h :: l :: rest)
  | c :: rest => String.utf8EncodeChar c ++ percentDecode rest

/-- The text that remains when every percent-encoded byte is decoded. -/
def percentDecoded (s : String) : String :=
  String.ofList ((Utf8.pieces (percentDecode s.toList)).map fun p => p.char?.getD '\uFFFD')

end SoapBindings.Url
