import SoapBindings.NamespaceCodes
import SoapBindings.Options.Fault
import SoapBindings.Text.Blank

/-!
# Namespace mappings

The user chooses codes for namespaces by pairs `uri=code`, given one by one or in files with a pair
on each line. A URI may contain `=`, so the last one separates the code; neither side may be blank.
Of several codes for one URI the last counts, wherever it stands.
-/

set_option autoImplicit false

namespace SoapBindings

open Text

/-- The two sides of a pair without the white space around them. -/
def mappingPair? (text : String) : Option (String × String) :=
  match splitLast '=' text.toList with
  | none => none
  | some (uri, code) =>
    let (uri, code) := (trim (String.ofList uri), trim (String.ofList code))
    if uri.isEmpty || code.isEmpty then none else some (uri, code)

inductive MappingArgument where
  | pair (uri code : String)
  | file (path : String)
  deriving DecidableEq, Repr, Inhabited

namespace MappingArgument

/-- Reads an argument: the name of a file after `@`, or a pair. -/
def read (text : String) : Except OptionsFault MappingArgument :=
  match text.toList with
  | '@' :: path => .ok (.file (String.ofList path))
  | _ =>
    match mappingPair? text with
    | some (uri, code) => .ok (.pair uri code)
    | none => .error (.malformedMapping text)

end MappingArgument

namespace MappingFile

/-- A line that maps nothing: blank or a comment. -/
def isSkipped (line : String) : Bool :=
  match (trim line).toList with
  | [] => true
  | c :: _ => c == '#'

/-- The pairs in a text, in the order of its lines. -/
def pairs (path text : String) : Except OptionsFault (List (String × String)) :=
  let numberedLines := ((lines text.toList).map String.ofList).zipIdx 1
  (numberedLines.filter fun (line, _) => !isSkipped line).mapM fun (line, number) =>
    match mappingPair? line with
    | some pair => .ok pair
    | none => .error (.malformedLine path number line)

def read (w : Files.Workspace) (path : String) : Except OptionsFault (List (String × String)) :=
  match w.readText path with
  | .ok text => pairs path text
  | .error fault => .error (.unreadable path fault)

end MappingFile

namespace MappingArgument

/-- All pairs that an argument stands for. -/
def pairs (w : Files.Workspace) : MappingArgument → Except OptionsFault (List (String × String))
  | pair uri code => .ok [(uri, code)]
  | file path => MappingFile.read w path

/-- The codes that arguments choose. -/
def collect (w : Files.Workspace) (arguments : List MappingArgument) :
    Except OptionsFault NamespaceCodes.Wishes := do
  let all ← arguments.mapM (pairs w)
  return Std.ExtTreeMap.ofList all.flatten

end MappingArgument

end SoapBindings
