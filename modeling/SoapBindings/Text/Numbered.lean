/-!
# Numbered names

A name that is taken gets a number behind it: the first from two on that makes it new.
-/

set_option autoImplicit false

namespace SoapBindings.Text

/-- The first of `base2`, `base3`, … from number `n` on that is not among `taken`, looking at
`attempts` of them before it settles for the next. -/
def numberedFrom (taken : List String) (base : String) : Nat → Nat → String
  | 0, n => base ++ toString n
  | attempts + 1, n =>
    let name := base ++ toString n
    if taken.contains name then numberedFrom taken base attempts (n + 1) else name

/-- The first of `base2`, `base3`, … that is not among `taken`. One more candidate than names taken
is enough, as the candidates differ. -/
def numbered (taken : List String) (base : String) : String :=
  numberedFrom taken base taken.length 2

/-- The name itself, or with a number if it is taken. -/
def unused (taken : List String) (name : String) : String :=
  if taken.contains name then numbered taken name else name

end SoapBindings.Text
