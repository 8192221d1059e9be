import SoapBindings.Text.Printable

/-!
# Quoted text

How messages and declarations are quoted in diagnostics: in double quotes, with the quote, the
backslash and four controls written as two characters, and everything else that cannot be shown as
its code point in braces. An apostrophe stays as it is.
-/

set_option autoImplicit false

namespace SoapBindings.Text

def hexadecimal (n : Nat) : List Char := Nat.toDigits 16 n

/-- One character inside a quoted text. -/
def quotedChar (c : Char) : List Char :=
  if c == '\x00' then ['\\', '0']
  else if c == '\t' then ['\\', 't']
  else if c == '\r' then ['\\', 'r']
  else if c == '\n' then ['\\', 'n']
  else if c == '\\' || c == '"' then ['\\', c]
  else if extendsGrapheme c || !isPrintable c then
    ['\\', 'u', '\x7b'] ++ hexadecimal c.toNat ++ ['\x7d']
  else [c]

def quoted (s : String) : String :=
  String.ofList ('"' :: s.toList.flatMap quotedChar ++ ['"'])

end SoapBindings.Text
