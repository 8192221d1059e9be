import SoapBindings.Text.Alphanumeric
import SoapBindings.Text.LetterCase
import SoapBindings.Text.Split

/-!
# Names as words

Classes and enumerators are written in upper camel case, members and methods in lower camel case.
A document's name is cut into words first: at every character that is neither letter nor digit, and
then before a capital that begins a word. An acronym stays one word: in `URLPath` the word `Path`
begins where two lower-case letters follow, and `PCIEs` is a single word.
-/

set_option autoImplicit false

namespace SoapBindings.Cpp

open Text

/-- Two lower-case letters stand in front. -/
def opensLower : List Char → Bool
  | c :: d :: _ => isLowercase c && isLowercase d
  | _ => false

/-- A word begins at `c`, which follows `before` and precedes `rest` in one alphanumeric run. -/
def beginsWord (before c : Char) (rest : List Char) : Bool :=
  isUppercase c &&
    (isLowercase before || isAsciiDigit before || (isUppercase before && opensLower rest))

/-- The words of an alphanumeric run, in order; joined they give the run back. -/
def wordsOfRun : List Char → List (List Char)
  | [] => []
  | [c] => [[c]]
  | c :: d :: rest =>
    match wordsOfRun (d :: rest) with
    | [] => [[c]]
    | word :: more =>
      if beginsWord c d rest then [c] :: word :: more else (c :: word) :: more

/-- The words of a name. -/
def words (name : String) : List (List Char) :=
  ((splitWhere (!isAlphanumeric ·) name.toList).filter (!·.isEmpty)).flatMap wordsOfRun

/-- The first letter in upper case, the others as they are. -/
def capitalize : List Char → List Char
  | [] => []
  | c :: cs => upperChar c ++ cs

def upperCamel (name : String) : String :=
  String.ofList ((words name).flatMap capitalize)

def lowerCamel (name : String) : String :=
  match words name with
  | [] => ""
  | first :: more => String.ofList (lower first ++ more.flatMap capitalize)

end SoapBindings.Cpp
