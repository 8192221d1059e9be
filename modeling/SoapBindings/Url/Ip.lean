import SoapBindings.Text.Digits
import SoapBindings.Text.Split
import SoapBindings.Text.Quoted

/-!
# Numeric hosts

A host whose last part is a number is an IPv4 address, whatever its other parts are; it may leave
parts out and write them in octal or hexadecimal, and is always shown as four decimal parts. An IPv6
address stands in brackets. It is shown with its longest run of zero pieces, of at least two, left
out.
-/

set_option autoImplicit false

namespace SoapBindings.Url

open Text

/-! ## Version 4 -/

/-- The number of one part; the inner `none` is a number that is too large for an address. -/
def ipv4Part? (part : List Char) : Option (Option Nat) :=
  let (base, digits) := match part with
    | '0' :: 'x' :: rest => (16, rest)
    | '0' :: 'X' :: rest => (16, rest)
    | '0' :: c :: rest => (8, c :: rest)
    | _ => (10, part)
  if part.isEmpty then none
  else if digits.isEmpty then some (some 0)
  else (number? base digits).map fun n => if n < 4294967296 then some n else none

/-- The parts of a host without the empty part behind a dot at its end. -/
def ipv4Parts (host : List Char) : List (List Char) :=
  let parts := splitWhere (· == '.') host
  if parts.getLast? = some [] then parts.dropLast else parts

/-- The host has to be an IPv4 address if it is to be anything. -/
def endsInNumber (host : List Char) : Bool :=
  match (ipv4Parts host).getLast? with
  | none => false
  | some part => (!part.isEmpty && part.all isAsciiDigit) || (ipv4Part? part).isSome

/-- The address as a number of 32 bits. The last part fills all bytes that the others leave. -/
def ipv4? (host : List Char) : Option Nat := do
  let parts := ipv4Parts host
  if parts.length > 4 then none
  else
    let numbers ← parts.mapM fun part => (ipv4Part? part).bind id
    let last ← numbers.getLast?
    let leading := numbers.dropLast
    if leading.any (· > 255) || last ≥ Nat.pow 256 (4 - leading.length) then none
    else
      let high := leading.zipIdx.map fun (n, i) => n * Nat.pow 256 (3 - i)
      some (high.foldr (· + ·) last)

def ipv4Text (address : Nat) : String :=
  ".".intercalate ([3, 2, 1, 0].map fun i => toString (address / Nat.pow 256 i % 256))

/-! ## Version 6 -/

/-- A decimal byte without leading zeros. -/
private def decimalByte? (part : List Char) : Option Nat :=
  if part.length > 1 && part.head? == some '0' then none
  else (number? 10 part).filter (· ≤ 255)

/-- The two pieces of an IPv4 address at the end of an IPv6 address. -/
private def embeddedPieces? (part : List Char) : Option (List Nat) := do
  match ← (splitWhere (· == '.') part).mapM decimalByte? with
  | [a, b, c, d] => some [a * 256 + b, c * 256 + d]
  | _ => none

private def hexPiece? (part : List Char) : Option Nat :=
  if part.length ≤ 4 then number? 16 part else none

/-- The pieces of a text without a double colon. Only its last part may be an IPv4 address. -/
private def pieces? (mayEmbed : Bool) (cs : List Char) : Option (List Nat) :=
  if cs.isEmpty then some []
  else
    let parts := splitWhere (· == ':') cs
    let last := parts.getLast?.getD []
    if mayEmbed && last.contains '.' then do
      let front ← parts.dropLast.mapM hexPiece?
      let back ← embeddedPieces? last
      some (front ++ back)
    else parts.mapM hexPiece?

/-- The eight pieces of an address. A double colon stands for at least one piece of zero. -/
def ipv6? (cs : List Char) : Option (List Nat) :=
  match cut? [':', ':'] cs with
  | none => (pieces? true cs).filter (·.length = 8)
  | some cut => do
    let front ← pieces? false cut.before
    let back ← pieces? true cut.after
    if front.length + back.length ≤ 7 then
      some (front ++ List.replicate (8 - front.length - back.length) 0 ++ back)
    else none

/-- The longest run of zero pieces, the first of equal ones, as its start and length. -/
private def longestZeros (pieces : List Nat) : Nat × Nat :=
  let runs := pieces.zipIdx.map fun (_, i) => (i, ((pieces.drop i).takeWhile (· == 0)).length)
  runs.foldl (fun best run => if run.2 > best.2 then run else best) (0, 0)

def pieceTexts (pieces : List Nat) : String :=
  ":".intercalate (pieces.map fun p => String.ofList (hexadecimal p))

def ipv6Text (pieces : List Nat) : String :=
  let (start, length) := longestZeros pieces
  if length < 2 then "[" ++ pieceTexts pieces ++ "]"
  else "[" ++ pieceTexts (pieces.take start) ++ "::" ++ pieceTexts (pieces.drop (start + length)) ++
    "]"

end SoapBindings.Url
