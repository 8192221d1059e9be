import SoapBindings.Cpp.Identifier
import SoapBindings.Text.Numbered

/-!
# Scopes

The names taken in one place of the generated text: the classes of a unit, the members of a class.
A scope hands out names and never one name twice. A candidate that is taken gets the code of its
namespace behind it, and after that a number.
-/

set_option autoImplicit false

namespace SoapBindings.Cpp

open Text

/-- The candidate itself, with a namespace code, or with a code and a number: the first that is
free. -/
def freeName (taken : List String) (candidate code : String) : String :=
  if !taken.contains candidate then candidate
  else unused taken (candidate ++ "_" ++ code)

structure Scope where
  names : List String
  deriving Repr, Inhabited

namespace Scope

/-- A scope in which some names are taken from the beginning. -/
def reserving (names : List String) : Scope := ⟨names⟩

def contains (s : Scope) (name : String) : Bool := s.names.contains name

/-- Takes a name for `candidate`; `code` tells it from equal candidates of other namespaces. -/
def take (s : Scope) (candidate code : String) : String × Scope :=
  let name := freeName s.names (sanitize candidate) code
  (name, ⟨name :: s.names⟩)

end Scope

end SoapBindings.Cpp
