import SoapBindings.Document.Context
import SoapBindings.Schema.Declaration
import SoapBindings.Wsdl.Declaration

/-!
# Documents

One WSDL or schema document: the schemas in it, of which a schema document has exactly one, and its
service declarations.
-/

set_option autoImplicit false

namespace SoapBindings

inductive DocumentKind where
  | wsdl
  | schema
  deriving DecidableEq, Repr

structure Document where
  locator : Locator
  kind : DocumentKind
  targetNamespace : String
  /-- What the definitions import; schemas have imports of their own. -/
  imports : List Schema.Import
  schemas : List Schema.Declarations
  messages : List Wsdl.Message
  portTypes : List Wsdl.PortType
  bindings : List Wsdl.Binding
  services : List Wsdl.Service
  /-- The constructs that were passed over, in their order. -/
  skipped : List Skipped

namespace Document

/-- Every reference to another document. -/
def allImports (d : Document) : List Schema.Import :=
  d.imports ++ d.schemas.flatMap (·.imports)

/-- A name in the namespace of the definitions. -/
def qualify (d : Document) (name : String) : QName := ⟨d.targetNamespace, name⟩

end Document

end SoapBindings
