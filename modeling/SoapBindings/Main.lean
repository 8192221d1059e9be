import SoapBindings.Compilation

/-!
# The command

What the command does is decided by `Arguments.settings` and `Compilation.ofSettings` over a
`Workspace`. Here the workspace is filled from disk: it starts with the working directory alone, and
when a compilation fails because it lacks a file that is on disk, the file is added and the
compilation is done anew. Remote documents are read from directories of copies only.
-/

set_option autoImplicit false

namespace SoapBindings.Main

open Files

/-- Remote documents cannot be reached. -/
structure Unreachable where

instance : HasMessage Unreachable := ⟨fun _ => "downloads are not available"⟩

def fetch : Fetcher Unit Unreachable := fun _ _ => (.error ⟨⟩, ())

/-- The directories on the way to a path, and its place. -/
def enter (t : Tree) (path : String) : Tree × Place :=
  (components path).foldl (fun (t, place) component =>
    match component with
    | .parent => (t.addDirectories place, place.dropLast)
    | .name text => (t, place ++ [text])) (t, [])

def addFile (w : Workspace) (path : String) (content : ByteArray) : Workspace :=
  let (t, place) := enter w.tree (w.absolute path)
  { w with tree := t.add place (.file content) }

/-- The files that an attempt would have liked to read. -/
def missingFiles (copies : List String) : Failure Unreachable → List String
  | .options (.unreadable path (.refused .missing)) => [path]
  | .load (.fetch ⟨_, .unreadable path .missing⟩) => [path]
  | .load (.fetch ⟨_, .noCopy places⟩) => places
  | .load (.fetch ⟨l, .remote _⟩) => copies.filterMap l.copyPath?
  | _ => []

/-- An attempt with the files that are known. -/
def attempt (a : Arguments) (w : Workspace) (bound : Nat) :
    List String × Except (Failure Unreachable) Compilation :=
  match a.settings w with
  | .error fault => ([], .error (.options fault))
  | .ok s =>
    match Compilation.ofSettings fetch w bound s () with
    | some (compiled, _) => (s.copies, compiled)
    | none => (s.copies, .ok ⟨[], [], ["too many documents"]⟩)

def readMissing (w : Workspace) (paths : List String) : IO (Option Workspace) := do
  let mut found := none
  for path in paths do
    if found.isNone && !path.isEmpty then
      try
        let content ← IO.FS.readBinFile (w.absolute path)
        found := some (addFile w path content)
      catch _ => pure ()
  return found

/-- How many documents are read at most. -/
def bound : Nat := 1000000

partial def compile (a : Arguments) (w : Workspace) :
    IO (Except (Failure Unreachable) Compilation) := do
  match attempt a w bound with
  | (_, .ok c) => return .ok c
  | (copies, .error failure) =>
    match ← readMissing w (missingFiles copies failure) with
    | some w => compile a w
    | none => return .error failure

def usage : String := "Usage: wsdl2cpp [OPTIONS] [WSDL]\n\nOptions:\n" ++
  String.join (Slot.longNames.map fun (name, slot) =>
    "  --" ++ name ++ (if slot.takesValue then " <VALUE>" else "") ++ "\n")

def usageMessage : UsageFault → String
  | .help => usage
  | .unknownArgument text => "error: unexpected argument '" ++ text ++ "' found"
  | .repeated => "error: an option is given more than once"
  | .invalidValue => "error: the value of an option is missing or not possible"
  | .malformedValue => "error: the value of an option is malformed"
  | .unwantedValue => "error: an option does not take a value"

/-- Writes files one after the other. -/
def write (files : List OutputFile) : IO Unit := do
  for file in files do
    IO.FS.writeFile file.path file.content
    IO.println (file.path ++ " file has been written")

def run (a : Arguments) : IO UInt32 := do
  let here ← IO.currentDir
  let directory := (components here.toString).filterMap fun
    | .name text => some text
    | .parent => none
  match ← compile a ⟨Tree.empty.add directory .directory, directory⟩ with
  | .error failure =>
    IO.eprintln ("Error: " ++ failure.message)
    return 1
  | .ok c =>
    c.help.forM IO.println
    write c.files
    return 0

end SoapBindings.Main

def main (arguments : List String) : IO UInt32 := do
  match SoapBindings.Arguments.read arguments with
  | .ok a => SoapBindings.Main.run a
  | .error .help =>
    IO.println (SoapBindings.Main.usageMessage .help)
    return 0
  | .error fault =>
    IO.eprintln (SoapBindings.Main.usageMessage fault)
    return 2
