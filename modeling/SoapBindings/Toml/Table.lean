/-!
# TOML tables

Values of a document and how its tables fill up. A key may be set once. A table may be opened by
one header, but on the way to another table, or to a key with dots, tables come into being that
nobody has opened. Where a table comes from decides what may still be added to it:

* a table in braces is complete when its brace closes; * a table that only leads to another one may
be opened later; * a table that is opened grows by the keys below its header, and by headers of
tables inside it; * a table that dotted keys made grows by dotted keys only, or by headers of
tables inside it.

Members stand in the order in which they come.
-/

set_option autoImplicit false

namespace SoapBindings.Toml

/-- Where a table comes from. -/
inductive Origin where
  | opened
  /-- It leads to a table that is opened. -/
  | implied
  | dotted
  | braces
  deriving DecidableEq, Repr, Inhabited

inductive Value where
  | text (content : String)
  | boolean (value : Bool)
  | array (items : List Value)
  | table (origin : Origin) (members : List (String × Value))
  deriving Repr, Inhabited

abbrev Members := List (String × Value)

namespace Members

def replace (members : Members) (key : String) (value : Value) : Members :=
  members.map fun (k, v) => (k, if k == key then value else v)

/-- What becomes of a table; nothing if it may not change in this way. -/
abbrev Change := Origin → Members → Option (Origin × Members)

/-- Changes the table at the end of a path. Tables on the way that are missing come into being with
the origin `made`. -/
def changeAt (made : Origin) (change : Change) : List String → Change
  | [], origin, members => change origin members
  | key :: path, origin, members =>
    match members.lookup key with
    | none =>
      (changeAt made change path made []).map fun (o, inner) =>
        (origin, members ++ [(key, .table o inner)])
    | some (.table o inner) =>
      if o == .braces || (made == .dotted && o == .opened) then none
      else
        (changeAt made change path o inner).map fun (o, inner) =>
          (origin, members.replace key (.table o inner))
    | some _ => none

/-- Sets a key. `isDotted` tells that dots in the key lead to this table. -/
def setKey (isDotted : Bool) (key : String) (value : Value) : Change := fun origin members =>
  if (origin == .dotted) != isDotted || (members.lookup key).isSome then none
  else some (origin, members ++ [(key, value)])

/-- Sets the key at the end of a path of dotted keys. -/
def set (path : List String) (key : String) (value : Value) : Change :=
  changeAt .dotted (setKey (!path.isEmpty) key value) path

/-- Opens a table in this one. -/
def openTable (key : String) : Change := fun origin members =>
  match members.lookup key with
  | none => some (origin, members ++ [(key, .table .opened [])])
  | some (.table .implied inner) => some (origin, members.replace key (.table .opened inner))
  | some _ => none

end Members

end SoapBindings.Toml
