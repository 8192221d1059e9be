import SoapBindings.Locator
import SoapBindings.Text.Quoted
import SoapBindings.Xml.Fault

/-!
# Documents that cannot be read

A document is refused with the first construct that cannot be understood: which construct it is,
where it begins, and what is wrong with it.
-/

set_option autoImplicit false

namespace SoapBindings

inductive SyntaxFault where
  | notUtf8
  | malformed (fault : Xml.Fault)
  | unexpectedRoot (name : String)
  | missingAttribute (name : String)
  | missingOneOf (first second : String)
  | invalidAttribute (name value : String)
  | unboundPrefix (bound : String)
  | missingChild (name : String)
  deriving DecidableEq, Repr

def SyntaxFault.message : SyntaxFault → String
  | notUtf8 => "document is not valid UTF-8"
  | malformed fault => "malformed XML: " ++ fault.message
  | unexpectedRoot name =>
    "unexpected root element " ++ name ++ ", expected wsdl:definitions or xs:schema"
  | missingAttribute name => "missing required attribute " ++ name
  | missingOneOf first second => "one of attributes " ++ first ++ " or " ++ second ++ " is required"
  | invalidAttribute name value =>
    "invalid value of attribute " ++ name ++ ": " ++ Text.quoted value
  | unboundPrefix bound => "unbound namespace prefix " ++ bound
  | missingChild name => "missing required element " ++ name

/-- What is wrong with a construct. -/
structure Misreading where
  construct : String
  /-- The byte offset of the construct. -/
  position : Nat
  fault : SyntaxFault
  deriving DecidableEq, Repr

/-- A misreading together with the document it is found in. -/
structure SyntaxError extends Misreading where
  locator : Locator
  deriving DecidableEq, Repr

def SyntaxError.message (e : SyntaxError) : String :=
  e.locator.toText ++ ": byte " ++ toString e.position ++ ": " ++ e.construct ++ ": " ++
    e.fault.message

end SoapBindings
