import SoapBindings.Tables

/-!
# Qualified names

A name together with the URI of its namespace; the empty URI stands for "no namespace". Tables of
declarations are ordered by namespace first and by local name second, so every listing of a table is
the same whichever document was read first.

The well-known namespaces stand here as well. Those of `builtinNamespaces` need no document: their
declarations are part of the compiler.
-/

set_option autoImplicit false

namespace SoapBindings

structure QName where
  ns : String
  localName : String
  deriving DecidableEq, Hashable, Repr, Inhabited

namespace QName

instance : Ord QName where
  compare := compareLex (compareOn QName.ns) (compareOn QName.localName)

instance : Std.TransOrd QName :=
  inferInstanceAs (Std.TransCmp (compareLex (compareOn QName.ns) (compareOn QName.localName)))

instance : Std.LawfulEqOrd QName where
  compare_self := Std.ReflCmp.compare_self
  eq_of_compare := by
    intro a b h
    have h' := compareLex_eq_eq.mp h
    cases a
    cases b
    simpa [compareOn] using h'

/-- The namespace in braces before the local name; a name in no namespace stands alone. -/
def toText (q : QName) : String :=
  if q.ns.isEmpty then q.localName else "\x7b" ++ q.ns ++ "\x7d" ++ q.localName

end QName

/-- A table of declarations in the order of their names. -/
abbrev NameTable (α : Type) := Std.ExtTreeMap QName α

namespace Namespaces

def schema : String := "http://www.w3.org/2001/XMLSchema"

def schemaInstance : String := "http://www.w3.org/2001/XMLSchema-instance"

def wsdl : String := "http://schemas.xmlsoap.org/wsdl/"

def wsdlSoap11 : String := "http://schemas.xmlsoap.org/wsdl/soap/"

def wsdlSoap12 : String := "http://schemas.xmlsoap.org/wsdl/soap12/"

def soap11Encoding : String := "http://schemas.xmlsoap.org/soap/encoding/"

def soap12Encoding : String := "http://www.w3.org/2003/05/soap-encoding"

def soap11Envelope : String := "http://schemas.xmlsoap.org/soap/envelope/"

def soap12Envelope : String := "http://www.w3.org/2003/05/soap-envelope"

/-- The namespace to which `xml` is bound in every document. -/
def xml : String := "http://www.w3.org/XML/1998/namespace"

def builtins : List String :=
  [schema, schemaInstance, wsdl, soap11Encoding, soap12Encoding, soap11Envelope, soap12Envelope,
    xml]

/-- The namespace is known without a document; an import of it fetches nothing. -/
def isBuiltin (uri : String) : Bool := builtins.contains uri

end Namespaces

/-- A name of the XML Schema namespace. -/
def QName.isSchema (q : QName) : Bool := q.ns == Namespaces.schema

end SoapBindings
