/-!
# Sets of code points

The character classes of this library are tables of code points. A class whose members lie in
blocks is a list of `Span`s; a class of letters, where every second code point of a block belongs
to it, is a list of `Run`s. Both are only ever asked for membership, so a class is a predicate on
`Char` everywhere outside the module that holds its table.

ASCII is decided by comparison in each class and its table starts at U+0080. Names in documents are
ASCII nearly always, and a statement about ASCII text then needs no table.
-/

set_option autoImplicit false

namespace SoapBindings.Text

/-- The code points from the first number to the second, both included. -/
abbrev Span := Nat × Nat

def Span.contains (s : Span) (n : Nat) : Bool := s.1 ≤ n && n ≤ s.2

/-- The code points `first`, `first + step`, … up to `last`. -/
structure Run where
  first : Nat
  last : Nat
  step : Nat

def Run.contains (r : Run) (n : Nat) : Bool :=
  r.first ≤ n && n ≤ r.last && (n - r.first) % r.step == 0

def inSpans (table : List Span) (c : Char) : Bool := table.any (·.contains c.toNat)

def inRuns (table : List Run) (c : Char) : Bool := table.any (·.contains c.toNat)

/-- A character of the seven-bit range. -/
def isAscii (c : Char) : Bool := c.toNat < 0x80

/-- The letters `A` to `Z` and `a` to `z`. -/
def isAsciiAlpha (c : Char) : Bool := ('a' ≤ c && c ≤ 'z') || ('A' ≤ c && c ≤ 'Z')

def isAsciiDigit (c : Char) : Bool := '0' ≤ c && c ≤ '9'

def isAsciiAlphanum (c : Char) : Bool := isAsciiAlpha c || isAsciiDigit c

def asciiLower (c : Char) : Char :=
  if 'A' ≤ c && c ≤ 'Z' then Char.ofNat (c.toNat + 32) else c

def asciiUpper (c : Char) : Char :=
  if 'a' ≤ c && c ≤ 'z' then Char.ofNat (c.toNat - 32) else c

end SoapBindings.Text
