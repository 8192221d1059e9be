import SoapBindings.Reference
import SoapBindings.Services.Basic

/-!
# Diagnostics

What a compilation reports without giving up: names that no document declares, and operations that
are left out for that or another reason. If names are missing, a listing of the names that are known
can help to find the mistake.
-/

set_option autoImplicit false

namespace SoapBindings

/-- An operation that is left out. -/
structure InvalidOperation where
  service : String
  operation : String
  problems : List Problem
  deriving DecidableEq, Repr

structure Diagnostics where
  unresolved : References
  invalidOperations : List InvalidOperation
  /-- The known types by namespace, if the user asked for them. -/
  knownTypes : Option (List (String × List String))

namespace Diagnostics

/-- There is nothing to report. -/
def isEmpty (d : Diagnostics) : Bool := d.unresolved.isEmpty && d.invalidOperations.isEmpty

/-- The listing of known types, one line for each; empty if no name is missing. -/
def help (d : Diagnostics) : List String :=
  match d.knownTypes with
  | none => []
  | some known =>
    if d.unresolved.isEmpty then []
    else "Known types:" :: known.flatMap fun (ns, names) =>
      ("  " ++ (if ns.isEmpty then "(no namespace)" else ns) ++ ":") ::
        names.map fun name => "    " ++ name

end Diagnostics

end SoapBindings
