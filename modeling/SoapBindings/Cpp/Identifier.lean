import SoapBindings.Text.CodePoints

/-!
# Identifiers

What may stand as a name in generated text: ASCII letters, digits and underscores, no digit first,
no keyword. The words that Qt defines as macros count as keywords.
-/

set_option autoImplicit false

namespace SoapBindings.Cpp

open Text

def keywords : List String := [
  "alignas", "alignof", "and", "and_eq", "asm", "auto", "bitand", "bitor", "bool", "break",
  "case", "catch", "char", "char16_t", "char32_t", "char8_t", "class", "co_await", "co_return",
  "co_yield", "compl", "concept", "const", "const_cast", "consteval", "constexpr", "constinit",
  "continue", "decltype", "default", "delete", "do", "double", "dynamic_cast", "else", "emit",
  "enum", "explicit", "export", "extern", "false", "float", "for", "foreach", "friend", "goto",
  "if", "inline", "int", "long", "mutable", "namespace", "new", "noexcept", "not", "not_eq",
  "nullptr", "operator", "or", "or_eq", "private", "protected", "public", "register",
  "reinterpret_cast", "requires", "return", "short", "signals", "signed", "sizeof", "slots",
  "static", "static_assert", "static_cast", "struct", "switch", "template", "this",
  "thread_local", "throw", "true", "try", "typedef", "typeid", "typename", "union",
  "unsigned", "using", "virtual", "void", "volatile", "wchar_t", "while", "xor", "xor_eq"]

def isKeyword (word : String) : Bool := keywords.contains word

/-- A character that an identifier cannot hold becomes an underscore. -/
def identifierChar (c : Char) : Char := if isAsciiAlphanum c then c else '_'

/-- A keyword takes an underscore at its end. -/
def avoidKeyword (word : String) : String := if isKeyword word then word ++ "_" else word

/-- An identifier as close to the name as can be: an underscore goes before a leading digit and
stands for the empty name. -/
def sanitize (name : String) : String :=
  let cs := name.toList.map identifierChar
  let startsBadly := match cs with
    | [] => true
    | c :: _ => isAsciiDigit c
  avoidKeyword (String.ofList (if startsBadly then '_' :: cs else cs))

end SoapBindings.Cpp
