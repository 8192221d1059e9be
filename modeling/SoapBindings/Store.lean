import SoapBindings.Locator

/-!
# Document stores

A store gets the content of documents and keeps it: after the first success a document is not asked
for again. Local documents are read from their files. Of a remote document a copy in one of the
directories of copies is used, the first there is; only if there is none is the document fetched,
and not even then if the user wants no downloads. A failure leaves the store as it was.
-/

set_option autoImplicit false

namespace SoapBindings

open Files

/-- A source of remote documents with a state of its own. -/
abbrev Fetcher (σ ε : Type) := Locator → σ → Except ε ByteArray × σ

/-- Errors that can be told to the user. -/
class HasMessage (ε : Type) where
  message : ε → String

/-- Where documents may come from. -/
structure StorePolicy where
  /-- Directories with copies of remote documents. -/
  copies : List String
  /-- Nothing is fetched. -/
  localOnly : Bool
  deriving DecidableEq, Repr, Inhabited

/-- Why the content of a document is not available. -/
inductive FetchFault (ε : Type) where
  | unreadable (path : String) (refusal : Refusal)
  /-- There is no copy at any of these places, and nothing may be fetched. -/
  | noCopy (places : List String)
  | unsupportedScheme (scheme : String)
  | remote (error : ε)
  deriving DecidableEq, Repr

namespace FetchFault

def message {ε : Type} [HasMessage ε] : FetchFault ε → String
  | unreadable path refusal => "cannot read " ++ path ++ ": " ++ refusal.message
  | noCopy [] => "remote fetch disabled and no import path is configured"
  | noCopy places =>
    "remote fetch disabled and document is not found in:" ++ String.join (places.map (" " ++ ·))
  | unsupportedScheme scheme => "unsupported scheme: " ++ scheme
  | remote error => "fetch failed: " ++ HasMessage.message error

end FetchFault

structure FetchError (ε : Type) where
  locator : Locator
  fault : FetchFault ε
  deriving DecidableEq, Repr

namespace FetchError

def message {ε : Type} [HasMessage ε] (e : FetchError ε) : String :=
  "cannot load " ++ e.locator.toText ++ ": " ++ e.fault.message

/-- What an error comes from. -/
def causes {ε : Type} [HasMessage ε] (e : FetchError ε) : List String :=
  match e.fault with
  | .unreadable _ refusal => [refusal.message]
  | .remote error => [HasMessage.message error]
  | .noCopy _ | .unsupportedScheme _ => []

end FetchError

/-- The contents that were got, by the text of the locator. -/
structure Store where
  contents : Std.ExtTreeMap String ByteArray

namespace Store

def empty : Store := ⟨∅⟩

def size (s : Store) : Nat := s.contents.size

def content? (s : Store) (l : Locator) : Option ByteArray := s.contents[l.toText]?

def keep (s : Store) (l : Locator) (content : ByteArray) : Store :=
  ⟨s.contents.insert l.toText content⟩

/-- What can be said about a document without a fetch. -/
inductive Finding (ε : Type) where
  | found (content : ByteArray)
  | refused (fault : FetchFault ε)
  | toBeFetched

/-- The file at a path. -/
def readFile {ε : Type} (w : Workspace) (path : String) : Finding ε :=
  match w.read path with
  | .ok content => .found content
  | .error refusal => .refused (.unreadable path refusal)

/-- Where copies of a document may be, in the order in which they are looked for. -/
def copyPlaces (p : StorePolicy) (l : Locator) : List String := p.copies.filterMap l.copyPath?

/-- Looks for a document everywhere but at a distance. -/
def find {ε : Type} (p : StorePolicy) (w : Workspace) (l : Locator) : Finding ε :=
  match l.source with
  | .onDisk path => readFile w path
  | .unsupported scheme => .refused (.unsupportedScheme scheme)
  | .remote =>
    let places := copyPlaces p l
    match places.find? fun place => w.tree.isFile (w.absolute place) with
    | some place => readFile w place
    | none => if p.localOnly then .refused (.noCopy places) else .toBeFetched

/-- Gets the content of a document. -/
def resolve {σ ε : Type} (fetch : Fetcher σ ε) (p : StorePolicy) (w : Workspace) (l : Locator)
    (s : Store) (remote : σ) : Except (FetchError ε) ByteArray × Store × σ :=
  match s.content? l with
  | some content => (.ok content, s, remote)
  | none =>
    match find p w l with
    | .found content => (.ok content, s.keep l content, remote)
    | .refused fault => (.error ⟨l, fault⟩, s, remote)
    | .toBeFetched =>
      match fetch l remote with
      | (.ok content, remote) => (.ok content, s.keep l content, remote)
      | (.error error, remote) => (.error ⟨l, .remote error⟩, s, remote)

end Store

end SoapBindings
