import SoapBindings.Schema.Leaves
import SoapBindings.Text.Numbered

/-!
# Names of anonymous types

A type declared in place is identified by the path of the declarations around it. Two such types
may have one path, for instance if a sequence has two elements of one name; the second then gets a
number. Which is the second is settled by a depth-first walk over all declarations, types before
elements and each group in the order of names: what is come to first keeps its path. A type that no
type and no element leads to gets no name.

Every step of the walk either drops a pending type or takes one out of those not yet named.
-/

set_option autoImplicit false

namespace SoapBindings

open Schema

/-- The paths of the types declared in place, by site. The namespace is that of the schema. -/
abbrev AnonymousPaths := Std.ExtTreeMap Site String

namespace AnonymousPaths

/-- The paths in use in a namespace. -/
def inNamespace (paths : AnonymousPaths) (ns : String) : List String :=
  (paths.toList.filter (·.1.name.ns == ns)).map (·.2)

/-- The types declared in place that some uses lead to directly. -/
def pending (uses : List Use) : List Enclosure :=
  uses.filterMap fun
    | .inline site path => some ⟨site, path⟩
    | _ => none

/-- The identity of a type declared in place. -/
def typeId (site : Site) (path : String) : TypeId := .anonymous ⟨site.name.ns, path⟩

/-- Names pending types and what they lead to. `unnamed` holds the types not come to yet. -/
def walk (s : Symbols) (unnamed : Std.ExtTreeMap Site TypeDecl) (paths : AnonymousPaths) :
    List Enclosure → AnonymousPaths
  | [] => paths
  | ⟨site, wish⟩ :: rest =>
    match h : unnamed[site]? with
    | none => walk s unnamed paths rest
    | some decl =>
      have : (unnamed.erase site).size < unnamed.size := size_erase_lt_of_getElem? h
      let path := Text.unused (paths.inNamespace site.name.ns) wish
      walk s (unnamed.erase site) (paths.insert site path)
        (pending (s.uses (typeId site path).toText ⟨site, path⟩ decl) ++ rest)
termination_by rest => (unnamed.size, rest.length)

/-- What the types and elements at the top of the schemas use. -/
def starts (s : Symbols) : List Use :=
  (s.types.toList.flatMap fun (name, d) =>
      s.uses (TypeId.named name).toText (.top .type name) d.decl) ++
    s.elements.toList.map fun (name, d) => Symbols.elementUse name d.decl

def ofSymbols (s : Symbols) : AnonymousPaths := walk s s.inlineTypes ∅ (pending (starts s))

/-- The identity of the type at a site, if the walk has come to it. -/
def typeId? (paths : AnonymousPaths) (site : Site) : Option TypeId := paths[site]?.map (typeId site)

end AnonymousPaths

end SoapBindings
