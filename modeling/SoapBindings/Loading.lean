import SoapBindings.Document.Reader
import SoapBindings.Documents
import SoapBindings.Store

/-!
# Loading documents

From a start document all documents that it asks for are loaded, those that these ask for, and so
on: breadth first, each once. Imports of built-in namespaces and imports without a location ask for
nothing. An included schema without a namespace of its own takes that of the schema that includes
it, and that is the one through which it is found first.

Nothing bounds the documents that might be found, so loading takes a bound on how many to read and
gives nothing if there are more. A greater bound never changes what is given.
-/

set_option autoImplicit false

namespace SoapBindings

open Files Schema

inductive LoadError (ε : Type) where
  | fetch (error : FetchError ε)
  | syntaxError (error : SyntaxError)
  | invalidLocation (document : Locator) (location : String) (error : Locator.Error)
  deriving DecidableEq, Repr

namespace LoadError

variable {ε : Type} [HasMessage ε]

def message : LoadError ε → String
  | fetch error => error.message
  | syntaxError error => "syntax error: " ++ error.message
  | invalidLocation document location error =>
    document.toText ++ ": invalid import location " ++ Text.quoted location ++ ": " ++
      error.message

/-- What an error comes from, outermost first. -/
def causes : LoadError ε → List String
  | fetch error => error.message :: error.causes
  | syntaxError error => [error.message]
  | invalidLocation _ _ error => error.message :: error.causes

end LoadError

/-- A document to be loaded, and the namespace for a schema in it that has none. -/
structure Wanted where
  locator : Locator
  adoptedNamespace : Option String

namespace Loading

/-- The import takes the declarations of the other schema as if they were written here. -/
def isInclusion (i : Import) : Bool := i.kind == .included || i.kind == .redefined

/-- The location that an import asks for. -/
def location? (i : Import) : Option String :=
  if !isInclusion i && (i.ns.map Namespaces.isBuiltin).getD false then none else i.location

/-- The namespace that an import gives to a schema without one. -/
def adoptedNamespace? (i : Import) : Option String :=
  if isInclusion i && !i.importer.isEmpty then some i.importer else none

/-- The documents that imports ask for and that are not among `known`; and what is known after. -/
def discover {ε : Type} (w : Workspace) (l : Locator) (known : Std.ExtTreeSet String) :
    List Import → Except (LoadError ε) (List Wanted × Std.ExtTreeSet String)
  | [] => .ok ([], known)
  | i :: imports =>
    match location? i with
    | none => discover w l known imports
    | some location =>
      match l.join w location with
      | .error error => .error (.invalidLocation l location error)
      | .ok target =>
        if known.contains target.toText then discover w l known imports
        else
          match discover w l (known.insert target.toText) imports with
          | .error error => .error error
          | .ok (wanted, known) => .ok (⟨target, adoptedNamespace? i⟩ :: wanted, known)

end Loading

/-- What loading has to know. -/
structure Loader (σ ε : Type) where
  fetch : Fetcher σ ε
  policy : StorePolicy
  workspace : Workspace

namespace Loader

variable {σ ε : Type}

/-- Loads what is wanted and what that leads to. `known` holds the texts of all locators that were
wanted so far, `loaded` the documents read so far. -/
def loadAll (c : Loader σ ε) : Nat → List Wanted → Std.ExtTreeSet String → List Document → Store →
    σ → Option (Except (LoadError ε) Documents × σ)
  | _, [], _, loaded, _, remote => some (.ok ⟨loaded⟩, remote)
  | 0, _ :: _, _, _, _, _ => none
  | bound + 1, ⟨l, ns⟩ :: queue, known, loaded, store, remote =>
    match store.resolve c.fetch c.policy c.workspace l remote with
    | (.error error, _, remote) => some (.error (.fetch error), remote)
    | (.ok content, store, remote) =>
      match Document.read l ns content with
      | .error error => some (.error (.syntaxError error), remote)
      | .ok d =>
        match Loading.discover c.workspace l known d.allImports with
        | .error error => some (.error error, remote)
        | .ok (wanted, known) =>
          loadAll c bound (queue ++ wanted) known (loaded ++ [d]) store remote

/-- Loads the start document and all that it leads to, if that are no more than `bound`. -/
def load (c : Loader σ ε) (bound : Nat) (start : Locator) (remote : σ) :
    Option (Except (LoadError ε) Documents × σ) :=
  c.loadAll bound [⟨start, none⟩] (Std.ExtTreeSet.ofList [start.toText]) [] .empty remote

end Loader

end SoapBindings
