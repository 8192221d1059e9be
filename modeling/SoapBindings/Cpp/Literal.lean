/-!
# String literals

How names and texts of a document are written into generated code. A literal stands on one line:
quotes, backslashes and line feeds are escaped, and every other character is written as it is.
-/

set_option autoImplicit false

namespace SoapBindings.Cpp

def escapeChar : Char → List Char
  | '"' => ['\\', '"']
  | '\\' => ['\\', '\\']
  | '\n' => ['\\', 'n']
  | c => [c]

/-- A text between quotes. -/
def literal (text : String) : String :=
  "\"" ++ String.ofList (text.toList.flatMap escapeChar) ++ "\""

/-- The expression of a text. -/
def stringOf (text : String) : String := "QString::fromLatin1(" ++ literal text ++ ")"

/-- The expression that a name is compared with. The name is written as it is. -/
def comparedName (name : String) : String := "QLatin1String(\"" ++ name ++ "\")"

end SoapBindings.Cpp
