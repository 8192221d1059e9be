import SoapBindings.Document.Basic

/-!
# Sets of documents

All documents of one compilation in the order in which they were read; the first is the one that
the user named. Some listings are asked of the set as a whole: the namespaces that it declares, the
types in each of them, and the imports that nothing satisfies.
-/

set_option autoImplicit false

namespace SoapBindings

structure Documents where
  inOrder : List Document

namespace Documents

/-- Every schema together with the locator of its document. -/
def schemas (ds : Documents) : List (Locator × Schema.Declarations) :=
  ds.inOrder.flatMap fun d => d.schemas.map (d.locator, ·)

/-- The namespaces that documents or schemas declare, each once and in order. -/
def namespaces (ds : Documents) : List String :=
  (Std.ExtTreeSet.ofList (ds.inOrder.flatMap fun d =>
    d.targetNamespace :: d.schemas.map (·.targetNamespace))).toList

/-- The named types of a schema. -/
private def typeNames (s : Schema.Declarations) : List String := s.types.filterMap (·.name)

/-- The names of all types by namespace, both in order. A namespace without types is listed too. -/
def knownTypes (ds : Documents) : List (String × List String) :=
  let tables := ds.schemas.foldl (fun (known : Std.ExtTreeMap String (Std.ExtTreeSet String)) s =>
    known.insert s.2.targetNamespace
      ((known.getD s.2.targetNamespace ∅).insertMany (typeNames s.2))) ∅
  tables.toList.map fun (ns, names) => (ns, names.toList)

/-- The imports that give no location and whose namespace no document declares. -/
def unsatisfiedImports (ds : Documents) : List (Locator × String) :=
  let declared := ds.namespaces
  ds.inOrder.flatMap fun d => d.allImports.filterMap fun i =>
    match i.location, i.ns with
    | none, some ns =>
      if declared.contains ns || Namespaces.isBuiltin ns then none else some (d.locator, ns)
    | _, _ => none

end Documents

end SoapBindings
