import SoapBindings.Document.Basic
import SoapBindings.Schema.Reader
import SoapBindings.Text.Utf8
import SoapBindings.Wsdl.Reader
import SoapBindings.Xml.Tree

/-!
# Reading documents

From bytes to a document. The root element tells whether it is a set of definitions or a schema. A
schema that names no namespace and is read because another includes it takes the namespace of that
other.
-/

set_option autoImplicit false

namespace SoapBindings

open Xml

/-- The definitions of a document while its children are read. -/
structure Definitions where
  imports : List Schema.Import
  schemas : List Schema.Declarations
  messages : List Wsdl.Message
  portTypes : List Wsdl.PortType
  bindings : List Wsdl.Binding
  services : List Wsdl.Service

def Definitions.none : Definitions := ⟨[], [], [], [], [], []⟩

/-- Reads the types element, which holds schemas. -/
def addSchema (d : Definitions) (e : Element) : Reading Definitions := do
  if e.is Namespaces.schema "schema" then
    let schema ← Schema.readSchema ((trimmed? e "targetNamespace").getD "") false e
    return { d with schemas := d.schemas ++ [schema] }
  else if e.is Namespaces.wsdl "documentation" then return d
  else
    skip e
    return d

/-- Reads one child of a definitions element. -/
def addDefinition (ctx : Context) (d : Definitions) (e : Element) : Reading Definitions := do
  if e.ns != some Namespaces.wsdl then
    skip e
    return d
  else
    match e.name with
    | "documentation" => return d
    | "import" =>
      let reference : Schema.Import :=
        ⟨.wsdlImported, trimmed? e "namespace", trimmed? e "location", ctx.targetNamespace⟩
      return { d with imports := d.imports ++ [reference] }
    | "types" => e.children.foldlM addSchema d
    | "message" => return { d with messages := d.messages ++ [← Wsdl.readMessage ctx e] }
    | "portType" => return { d with portTypes := d.portTypes ++ [← Wsdl.readPortType ctx e] }
    | "binding" => return { d with bindings := d.bindings ++ [← Wsdl.readBinding ctx e] }
    | "service" => return { d with services := d.services ++ [← Wsdl.readService ctx e] }
    | _ =>
      skip e
      return d

namespace Document

/-- The name of an unexpected root. -/
private def rootName (e : Element) : String :=
  match e.ns with
  | some ns => "\x7b" ++ ns ++ "\x7d" ++ e.name
  | none => e.name

/-- Reads a document from its root element; `including` is the namespace of the schema that includes
it, if one does. -/
def ofRoot (locator : Locator) (including : Option String) (root : Element) :
    Except Misreading Document := do
  let declared := trimmed? root "targetNamespace"
  if root.is Namespaces.schema "schema" then
    let target := (declared.or including).getD ""
    let isAdopted := declared.isNone && including.isSome
    let (schema, skipped) ← (Schema.readSchema target isAdopted root).run []
    return ⟨locator, .schema, target, [], [schema], [], [], [], [], skipped.reverse⟩
  else if root.is Namespaces.wsdl "definitions" then
    let target := declared.getD ""
    let (d, skipped) ← (root.children.foldlM (addDefinition (.ofNamespace target)) .none).run []
    return ⟨locator, .wsdl, target, d.imports, d.schemas, d.messages, d.portTypes, d.bindings,
      d.services, skipped.reverse⟩
  else misread root (.unexpectedRoot (rootName root))

/-- The number of bytes before the first byte that is not UTF-8. -/
private def validBytes (bytes : ByteArray) : Nat :=
  byteWidth (((Text.Utf8.pieces bytes.toList).map (·.char?)).takeWhile (·.isSome) |>.filterMap id)

private def ofBytes (locator : Locator) (including : Option String) (bytes : ByteArray) :
    Except Misreading Document :=
  match Text.Utf8.decode? bytes with
  | none => .error ⟨"document", validBytes bytes, .notUtf8⟩
  | some text =>
    match Element.ofText text with
    | .error e => .error ⟨"document", e.position, .malformed e.fault⟩
    | .ok root => ofRoot locator including root

/-- Reads the document at a locator. -/
def read (locator : Locator) (including : Option String) (bytes : ByteArray) :
    Except SyntaxError Document :=
  (ofBytes locator including bytes).mapError fun m => { m with locator := locator }

theorem read_eq_ok_iff {locator : Locator} {including : Option String} {bytes : ByteArray}
    {d : Document} : read locator including bytes = .ok d ↔
      ∃ text root, Text.Utf8.decode? bytes = some text ∧ Element.ofText text = .ok root ∧
        ofRoot locator including root = .ok d := by
  have locating : read locator including bytes = .ok d ↔
      ofBytes locator including bytes = .ok d := by
    rw [read]
    cases ofBytes locator including bytes with
    | error m =>
      constructor
      · intro h
        cases h
      · intro h
        cases h
    | ok d' =>
      constructor
      · intro h
        cases h
        rfl
      · intro h
        cases h
        rfl
  rw [locating, ofBytes]
  cases Text.Utf8.decode? bytes with
  | none => simp
  | some text =>
    cases hroot : Element.ofText text with
    | error e => simp [hroot]
    | ok root => simp [hroot]

/-- For whom a document is read matters to no more than what its root is read as. -/
theorem read_congr {locator : Locator} {including including' : Option String} {bytes : ByteArray}
    (same : ∀ text root, Text.Utf8.decode? bytes = some text → Element.ofText text = .ok root →
      ofRoot locator including root = ofRoot locator including' root) :
    read locator including bytes = read locator including' bytes := by
  rw [read, read, ofBytes, ofBytes]
  cases decoded : Text.Utf8.decode? bytes with
  | none => rfl
  | some text =>
    cases parsed : Element.ofText text with
    | error e => simp only [parsed]
    | ok root => simp only [parsed, same text root decoded parsed]

/-- What text with a root element is read as. -/
theorem read_of_root {bytes : ByteArray} {text : String} {root : Element}
    (decoded : Text.Utf8.decode? bytes = some text) (parsed : Element.ofText text = .ok root)
    (locator : Locator) (including : Option String) : read locator including bytes =
      (ofRoot locator including root).mapError fun m => { m with locator := locator } := by
  simp only [read, ofBytes, decoded, parsed]

end Document

end SoapBindings
