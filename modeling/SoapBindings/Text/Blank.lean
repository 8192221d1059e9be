import SoapBindings.Text.CodePoints

/-!
# White space

White space is what the standard calls so in every script, with the no-break spaces and the line
and paragraph separators. Names, references and content are read with the white space around them
removed.
-/

set_option autoImplicit false

namespace SoapBindings.Text

private def blankSpans : List Span := [
  (0x85, 0x85), (0xa0, 0xa0), (0x1680, 0x1680), (0x2000, 0x200a), (0x2028, 0x2029),
  (0x202f, 0x202f), (0x205f, 0x205f), (0x3000, 0x3000)]

def isBlank (c : Char) : Bool :=
  c == ' ' || ('\t' ≤ c && c ≤ '\r') || inSpans blankSpans c

/-- Removes what `drop` accepts from both ends. -/
def stripBoth (drop : Char → Bool) (cs : List Char) : List Char :=
  ((cs.dropWhile drop).reverse.dropWhile drop).reverse

def stripEnd (drop : Char → Bool) (cs : List Char) : List Char :=
  (cs.reverse.dropWhile drop).reverse

/-- A text without the white space at its two ends. -/
def trim (s : String) : String := String.ofList (stripBoth isBlank s.toList)

/-- Nothing but white space. -/
def isBlankText (s : String) : Bool := s.toList.all isBlank

end SoapBindings.Text
