import SoapBindings.Text.Split
import Std.Data.ExtTreeMap

/-!
# Paths and file trees

A path is a text whose parts slashes separate. Joining, splitting and naming follow the rules of a
file system with a single root: an absolute path replaces what it is joined to, and repeated slashes
and dots between slashes do not count.

A tree is the part of a file system that a compilation sees, as a value: which names are
directories, which are files, and what the files hold. A place is the list of names on the way from
the root to it, so it has no dots and no doubled slashes, and one place has one list.

Looking a path up walks from directory to directory; the step that cannot be taken tells what is
wrong with the path.
-/

set_option autoImplicit false

namespace SoapBindings.Files

open Text

/-! ## Paths -/

inductive Component where
  | parent
  | name (text : String)
  deriving DecidableEq, Repr

def isAbsolute (path : String) : Bool := path.toList.head? == some '/'

/-- What stands between the slashes of a path. -/
def components (path : String) : List Component :=
  (splitWhere (· == '/') path.toList).filterMap fun part =>
    if part.isEmpty || part == ['.'] then none
    else if part == ['.', '.'] then some .parent
    else some (.name (String.ofList part))

/-- The path that `path` names when it is looked at from `base`. -/
def joinPath (base path : String) : String :=
  if isAbsolute path || base.isEmpty then path
  else if base.toList.getLast? == some '/' then base ++ path
  else base ++ "/" ++ path

/-- The last component of a path, unless it is the directory above. -/
def fileName? (path : String) : Option String :=
  match (components path).getLast? with
  | some (.name text) => some text
  | _ => none

/-! ## Trees -/

/-- What the system says when a path cannot be used. -/
inductive Refusal where
  | missing
  | notDirectory
  | isDirectory
  | nameTooLong
  /-- A path with a NUL names nothing. -/
  | containsNul
  deriving DecidableEq, Repr, Inhabited

def Refusal.message : Refusal → String
  | missing => "No such file or directory (os error 2)"
  | notDirectory => "Not a directory (os error 20)"
  | isDirectory => "Is a directory (os error 21)"
  | nameTooLong => "File name too long (os error 36)"
  | containsNul => "file name contained an unexpected NUL byte"

/-- The names on the way from the root. -/
abbrev Place := List String

def Place.toPath (p : Place) : String := "/" ++ "/".intercalate p

inductive Entry where
  | file (content : ByteArray)
  | directory

/-- Everything below the root, which is a directory itself. -/
structure Tree where
  entries : Std.ExtTreeMap Place Entry

namespace Tree

def empty : Tree := ⟨∅⟩

def entry? (t : Tree) (p : Place) : Option Entry :=
  if p.isEmpty then some .directory else t.entries[p]?

/-- The place is a directory. -/
def enter (t : Tree) (p : Place) : Except Refusal Unit :=
  match t.entry? p with
  | some .directory => .ok ()
  | some (.file _) => .error .notDirectory
  | none => .error .missing

/-- How many bytes a name may have. -/
def longestName : Nat := 255

/-- The place that components lead to from a place. Nothing need exist there, but every step on the
way leaves a directory. -/
def walk (t : Tree) (here : Place) : List Component → Except Refusal Place
  | [] => .ok here
  | component :: rest =>
    match t.enter here with
    | .error refusal => .error refusal
    | .ok () =>
      match component with
      | .parent => t.walk here.dropLast rest
      | .name text =>
        if longestName < text.utf8ByteSize then .error .nameTooLong
        else t.walk (here ++ [text]) rest

/-- A slash at the end of a path asks for a directory. -/
private def asksDirectory (path : String) : Bool :=
  match path.toList.reverse with
  | '/' :: _ => true
  | '.' :: '/' :: _ => true
  | _ => false

/-- The place of an absolute path. -/
def locate (t : Tree) (path : String) : Except Refusal Place := do
  if path.contains '\x00' then throw .containsNul
  let place ← t.walk [] (components path)
  if asksDirectory path then
    match t.entry? place with
    | some (.file _) => throw .notDirectory
    | _ => pure ()
  return place

/-- The place of something that exists. -/
def canonical (t : Tree) (path : String) : Except Refusal Place := do
  let place ← t.locate path
  match t.entry? place with
  | some _ => return place
  | none => throw .missing

/-- The content of a file. -/
def read (t : Tree) (path : String) : Except Refusal ByteArray := do
  let place ← t.locate path
  match t.entry? place with
  | some (.file content) => return content
  | some .directory => throw .isDirectory
  | none => throw .missing

def isFile (t : Tree) (path : String) : Bool := (t.read path).toBool

/-- Puts a file at a place, over a file that is there. -/
def write (t : Tree) (path : String) (content : ByteArray) : Except Refusal Tree := do
  let place ← t.locate path
  match t.entry? place with
  | some .directory => throw .isDirectory
  | some (.file _) => return ⟨t.entries.insert place (.file content)⟩
  | none =>
    if asksDirectory path then throw .isDirectory
    else return ⟨t.entries.insert place (.file content)⟩

/-- Makes a place and every place on the way to it a directory. -/
def addDirectories (t : Tree) (place : Place) : Tree :=
  ⟨(List.range place.length).foldl (fun entries i =>
    entries.insert (place.take (i + 1)) .directory) t.entries⟩

/-- Puts an entry at a place together with the directories above it. -/
def add (t : Tree) (place : Place) (entry : Entry) : Tree :=
  ⟨(t.addDirectories place.dropLast).entries.insert place entry⟩

end Tree

/-- A file tree together with the directory from which relative paths are looked at. -/
structure Workspace where
  tree : Tree
  directory : Place

namespace Workspace

/-- A path that does not depend on the directory. -/
def absolute (w : Workspace) (path : String) : String :=
  if isAbsolute path then path else joinPath w.directory.toPath path

/-- The content of a file. The empty path names nothing. -/
def read (w : Workspace) (path : String) : Except Refusal ByteArray :=
  if path.isEmpty then .error .missing else w.tree.read (w.absolute path)

/-- Puts a file at a path, over a file that is there. -/
def write (w : Workspace) (path : String) (content : ByteArray) : Except Refusal Workspace :=
  if path.isEmpty then .error .missing
  else (w.tree.write (w.absolute path) content).map fun tree => { w with tree := tree }

end Workspace

end SoapBindings.Files
