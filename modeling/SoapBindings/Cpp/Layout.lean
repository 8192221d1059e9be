import SoapBindings.Cpp.Value

/-!
# Layout of generated files

What the user decides about the text of the files, apart from what is generated; and the pieces that
both files are made of. A file is a list of lines. What stands between braces stands deeper by one
level.
-/

set_option autoImplicit false

namespace SoapBindings.Cpp

structure Layout where
  style : OptionalStyle
  /-- The namespace that all classes stand in. -/
  ns : Option String
  /-- The macro before the name of every class. -/
  exportMacro : Option String
  /-- The name by which the implementation includes the header. -/
  headerFile : String
  deriving DecidableEq, Repr

/-- The text of some lines. -/
def unlines (lines : List String) : String := String.join (lines.map (· ++ "\n"))

/-- Lines that stand deeper by one level. -/
def indented (lines : List String) : List String := lines.map ("    " ++ ·)

/-- Lines between one that opens and one that closes. -/
def block (opening : String) (body : List String) (closing : String) : List String :=
  opening :: indented body ++ [closing]

/-- Statements in a block of their own. -/
def braces (body : List String) : List String := block "\x7b" body "\x7d"

def ifThen (condition : String) (body : List String) : List String :=
  block ("if (" ++ condition ++ ") \x7b") body "\x7d"

/-- The branches after the first of a choice, and its end. -/
def elseBranches : List (String × List String) → List String
  | [] => ["\x7d"]
  | (condition, body) :: rest =>
    ("\x7d else if (" ++ condition ++ ") \x7b") :: indented body ++ elseBranches rest

/-- The first branch whose condition holds is taken. -/
def choose : List (String × List String) → List String
  | [] => []
  | (condition, body) :: rest =>
    ("if (" ++ condition ++ ") \x7b") :: indented body ++ elseBranches rest

def forEach (item source : String) (body : List String) : List String :=
  block ("for (" ++ item ++ " : " ++ source ++ ") \x7b") body "\x7d"

/-- The definition of a function and an empty line. -/
def definition (signature : String) (body : List String) : List String :=
  signature :: braces body ++ [""]

/-- The first line of each file. -/
def banner : String := "// Generated by wsdl2cpp. Do not edit."

namespace Layout

/-- What opens the namespace around the classes. -/
def openNamespace (l : Layout) : List String :=
  l.ns.toList.flatMap fun ns => ["namespace " ++ ns ++ " \x7b", ""]

def closeNamespace (l : Layout) : List String :=
  l.ns.toList.map fun ns => "\x7d // namespace " ++ ns

/-- What stands before the name of a class. -/
def macroText (l : Layout) : String := (l.exportMacro.map (· ++ " ")).getD ""

end Layout

end SoapBindings.Cpp
