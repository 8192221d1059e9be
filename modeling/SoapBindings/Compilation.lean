import SoapBindings.Cpp.Description
import SoapBindings.Cpp.Implementation
import SoapBindings.Graph.Order
import SoapBindings.Loading
import SoapBindings.Options.Arguments

/-!
# Compilations

From settings to generated files: the documents are loaded, their interface is made, types that are
not used are dropped unless they are to be kept, the rest is put in order, and classes are generated
and written as text. No file is touched before all texts are there. The files are then written one
after the other, and what a failing write leaves behind are the files before it.
-/

set_option autoImplicit false

namespace SoapBindings

open Files

/-- Why a command ends without all of its files. -/
inductive Failure (ε : Type) where
  | options (fault : OptionsFault)
  | load (error : LoadError ε)
  | interface (error : Interface.Error)
  | write (path : String) (refusal : Refusal)
  deriving DecidableEq, Repr

namespace Failure

variable {ε : Type} [HasMessage ε]

/-- Each line of a message below a heading, with its number. -/
def numberedLines (text : String) : String :=
  let parts := Text.splitWhere (· == '\n') text.toList
  String.join (parts.zipIdx.map fun (line, i) => "\n #" ++ toString i ++ ": " ++ String.ofList line)

def message : Failure ε → String
  | options fault => "configuration error: " ++ fault.message
  | load error => "load error: " ++ error.message
  | interface error => "compilation error:" ++ numberedLines error.message
  | write path refusal => "failed write output file: " ++ path ++ ": " ++ refusal.message

/-- What a failure comes from, outermost first. -/
def causes : Failure ε → List String
  | options fault => fault.message :: fault.causes
  | load error => error.message :: error.causes
  | interface _ => []
  | write _ refusal => [refusal.message]

end Failure

structure OutputFile where
  path : String
  content : String
  deriving DecidableEq, Repr, Inhabited

structure Compilation where
  classes : List Cpp.Class
  /-- The files in the order in which they are written. -/
  files : List OutputFile
  /-- The listing of known types, if it was asked for and is needed. -/
  help : List String

namespace Compilation

/-- The files with the text of classes. -/
def outputFiles (s : Settings) (classes : List Cpp.Class) : List OutputFile :=
  s.outputs.headerFile?.toList.map (⟨·, Cpp.header s.layout classes⟩) ++
    s.outputs.implementationFile?.toList.map (⟨·, Cpp.implementation s.layout classes⟩) ++
    s.description.toList.map (⟨·, Cpp.describe s.style classes⟩)

/-- Compiles documents. -/
def ofDocuments (s : Settings) (ds : Documents) : Except Interface.Error Compilation := do
  let whole ← Interface.ofDocuments ds s.choices
  let kept := if s.keepUnused then whole else whole.pruned
  let ordered ← (OrderedGraph.ofGraph kept.graph kept.codes).mapError .inheritanceCycle
  let classes := Cpp.classes s.forms ordered kept.services kept.codes
  return { classes, files := outputFiles s classes, help := whole.diagnostics.help }

/-- Loads and compiles, reading no more than `bound` documents. -/
def ofSettings {σ ε : Type} (fetch : Fetcher σ ε) (w : Workspace) (bound : Nat) (s : Settings)
    (remote : σ) : Option (Except (Failure ε) Compilation × σ) :=
  let loader : Loader σ ε := ⟨fetch, s.policy, w⟩
  (loader.load bound s.start remote).map fun (loaded, remote) =>
    (match loaded with
      | .error error => .error (.load error)
      | .ok ds => (ofDocuments s ds).mapError .interface, remote)

/-- Writes files, telling which are written; and the workspace after that. -/
def writeFiles {ε : Type} :
    List OutputFile → Workspace → Except (Failure ε) (List String) × Workspace
  | [], w => (.ok [], w)
  | file :: rest, w =>
    match w.write file.path file.content.toUTF8 with
    | .error refusal => (.error (.write file.path refusal), w)
    | .ok written =>
      let (told, w) := writeFiles rest written
      (told.map ((file.path ++ " file has been written") :: ·), w)

end Compilation

/-- What a command leaves behind. -/
structure Outcome (σ ε : Type) where
  /-- What the command tells, line by line. -/
  told : Except (Failure ε) (List String)
  workspace : Workspace
  remote : σ

/-- Runs a command: compiles as the arguments say and writes the files. -/
def Arguments.run {σ ε : Type} (fetch : Fetcher σ ε) (w : Workspace) (bound : Nat) (a : Arguments)
    (remote : σ) : Option (Outcome σ ε) :=
  match a.settings w with
  | .error fault => some ⟨.error (.options fault), w, remote⟩
  | .ok s =>
    (Compilation.ofSettings fetch w bound s remote).map fun (compiled, remote) =>
      match compiled with
      | .error failure => ⟨.error failure, w, remote⟩
      | .ok c =>
        let (told, w) := Compilation.writeFiles c.files w
        ⟨told.map (c.help ++ ·), w, remote⟩

end SoapBindings
