import SoapBindings.Text.CodePoints

/-!
# Numbers in a text

Digits in a base up to sixteen, in either case of the letters. A number has at least one digit;
signs and separators belong to none.
-/

set_option autoImplicit false

namespace SoapBindings.Text

def digitValue? (base : Nat) (c : Char) : Option Nat :=
  let value :=
    if isAsciiDigit c then some (c.toNat - '0'.toNat)
    else if 'a' ≤ c && c ≤ 'f' then some (c.toNat - 'a'.toNat + 10)
    else if 'A' ≤ c && c ≤ 'F' then some (c.toNat - 'A'.toNat + 10)
    else none
  value.filter (· < base)

/-- The number that digits write. -/
def number? (base : Nat) (digits : List Char) : Option Nat :=
  if digits.isEmpty then none
  else digits.foldlM (fun n c => (digitValue? base c).map (n * base + ·)) 0

end SoapBindings.Text
