import SoapBindings.Files.Tree
import SoapBindings.Text.Blank
import SoapBindings.Url.Reading

/-!
# Locators

The absolute and canonical address of a document. Local documents have the scheme `file`, remote
ones `http` or `https`. A local file that exists is known by its place in the file tree, so a
document that is reached on two ways has one locator; a file that does not exist keeps the path it
was asked for by. Two locators are the same document exactly if their texts are equal.
-/

set_option autoImplicit false

namespace SoapBindings

open Files

structure Locator where
  address : Url.Address
  deriving DecidableEq, Repr, Inhabited

namespace Locator

inductive Error where
  | invalidUrl (text : String) (cause : Url.Error)
  deriving DecidableEq, Repr

def Error.message : Error → String
  | invalidUrl text cause => "invalid document location " ++ text ++ ": " ++ cause.message

/-- What an error comes from, outermost first. -/
def Error.causes : Error → List String
  | invalidUrl _ cause => [cause.message]

def toText (l : Locator) : String := l.address.toText

instance : Ord Locator := ⟨compareOn Locator.toText⟩

/-- The address of an absolute path as it is. -/
def ofAbsolutePath (path : String) : Locator :=
  let parts := (components path).map fun
    | .parent => ".."
    | .name text => String.ofList (Url.percentEncode Url.fileNameSet text.toList)
  ⟨{ scheme := "file"
     authority := some ⟨"", .name "", none⟩
     path := .segments (if parts.isEmpty then [""] else parts)
     query := none }⟩

/-- The locator of a file; its place in the tree counts if it exists. -/
def ofPath (w : Workspace) (path : String) : Locator :=
  let absolute := w.absolute path
  match w.tree.canonical absolute with
  | .ok place => ofAbsolutePath place.toPath
  | .error _ => ofAbsolutePath absolute

/-- The path that a `file` address stands for; an address with a host stands for none. -/
def localPath? (a : Url.Address) : Option String :=
  match a.segments?, a.host? with
  | some segments, none =>
    let path := String.join (segments.map fun s => "/" ++ Url.percentDecoded s)
    let endsInDrive := Url.isDriveLetter (path.toList.drop (path.length - 2))
    some (if path.length > 2 && endsInDrive then path ++ "/" else path)
  | _, _ => none

/-- The locator of an address. -/
def ofAddress (w : Workspace) (a : Url.Address) : Locator :=
  if a.scheme == "file" then
    match (localPath? a).bind fun path => (w.tree.canonical path).toOption with
    | some place => ofAbsolutePath place.toPath
    | none => ⟨a⟩
  else ⟨a⟩

/-- Reads a locator from the command line or a configuration. A text that is no absolute address is
a path, and so is one whose scheme is a single letter. -/
def parse (w : Workspace) (text : String) : Except Error Locator :=
  match Url.Address.read none text with
  | .ok address => .ok (if address.scheme.length > 1 then ofAddress w address else ofPath w text)
  | .error .relativeWithoutBase => .ok (ofPath w text)
  | .error cause => .error (.invalidUrl text cause)

/-- Completes a reference found in a document from the document's own locator. -/
def join (l : Locator) (w : Workspace) (reference : String) : Except Error Locator :=
  match Url.Address.read (some l.address) (Text.trim reference) with
  | .ok address => .ok (ofAddress w address)
  | .error cause => .error (.invalidUrl reference cause)

/-- Where the content of a document comes from. -/
inductive Source where
  | onDisk (path : String)
  | remote
  | unsupported (scheme : String)
  deriving DecidableEq, Repr

def source (l : Locator) : Source :=
  match l.address.scheme with
  | "file" =>
    match localPath? l.address with
    | some path => .onDisk path
    | none => .unsupported "file"
  | "http" | "https" => .remote
  | scheme => .unsupported scheme

/-- Where a copy of a remote document may stand in a directory of copies: under the host, by the
names in its path. -/
def copyPath? (l : Locator) (directory : String) : Option String :=
  match l.address.host?, l.address.segments? with
  | some host, some segments =>
    some ((segments.filter (!·.isEmpty)).foldl joinPath (joinPath directory host.toText))
  | _, _ => none

/-- The last segment of the path. -/
def fileName (l : Locator) : String :=
  ((l.address.segments?).bind (·.getLast?)).getD ""

end Locator

end SoapBindings
