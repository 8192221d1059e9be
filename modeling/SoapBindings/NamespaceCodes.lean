import SoapBindings.QName
import SoapBindings.Cpp.Identifier
import SoapBindings.Text.Numbered
import SoapBindings.Text.Split

/-!
# Namespace codes

Every namespace has a short code, and no two share one. Codes tell apart types of one name that come
from different namespaces, so they are identifiers themselves. The user's codes are given out first
and the others, which are derived from the URI, after them, each group in the order of the URIs; a
code that is taken gets a number.
-/

set_option autoImplicit false

namespace SoapBindings

open Text

/-- A code as close to the wish as an identifier can be. -/
def sanitizeCode (code : String) : String :=
  match code.toList.map Cpp.identifierChar with
  | [] => "ns"
  | c :: cs =>
    let whole := String.ofList (c :: cs)
    Cpp.avoidKeyword (if isAsciiDigit c then "ns" ++ whole else whole)

/-- Codes that do not depend on the wording of the URI. -/
def fixedCode (uri : String) : Option String :=
  if uri == "" then some "ns"
  else if uri == Namespaces.schema then some "xsd"
  else if uri == Namespaces.schemaInstance then some "xsi"
  else if uri == Namespaces.soap11Encoding || uri == Namespaces.soap12Encoding then some "soapenc"
  else if uri == Namespaces.wsdlSoap11 || uri == Namespaces.soap11Envelope then some "soap"
  else if uri == Namespaces.wsdlSoap12 || uri == Namespaces.soap12Envelope then some "soap12"
  else if uri == Namespaces.wsdl then some "wsdl"
  else if uri == Namespaces.xml then some "xml"
  else none

/-- The last part that has a letter in it. -/
private def lastLettered (parts : List (List Char)) : List Char :=
  (parts.reverse.find? (·.any isAsciiAlpha)).getD []

/-- The part of a URI that says most: the last part of a `urn:` or the last segment of a path. -/
private def tellingPart (uri : List Char) : List Char :=
  match after? "urn:".toList uri with
  | some rest => lastLettered (splitWhere (· == ':') rest)
  | none =>
    let address := match cut? "://".toList uri with
      | some cut => cut.after
      | none => uri
    let path := address.takeWhile fun c => c != '?' && c != '#'
    lastLettered (splitWhere (· == '/') path)

/-- A segment without its file extension. -/
private def withoutExtension (segment : List Char) : List Char :=
  match splitLast '.' segment with
  | some (stem, extension) =>
    if !stem.isEmpty && extension.all isAsciiAlpha then stem else segment
  | none => segment

def deriveCode (uri : String) : String :=
  match fixedCode uri with
  | some code => code
  | none =>
    sanitizeCode (String.ofList ((withoutExtension (tellingPart uri.toList)).map asciiLower))

/-- The codes given out, by namespace. -/
structure NamespaceCodes where
  codes : Std.ExtTreeMap String String

namespace NamespaceCodes

/-- Codes chosen by the user, by namespace. -/
abbrev Wishes := Std.ExtTreeMap String String

/-- The namespaces in the order in which codes are given out, each with the code it asks for. -/
def candidates (namespaces : Std.ExtTreeSet String) (wishes : Wishes) : List (String × String) :=
  let (wished, others) := namespaces.toList.partition (wishes.contains ·)
  wished.map (fun uri => (uri, sanitizeCode ((wishes[uri]?).getD ""))) ++
    others.map fun uri => (uri, deriveCode uri)

/-- Gives out codes in order; `taken` holds those given out before. -/
def assign (taken : List String) : List (String × String) → List (String × String)
  | [] => []
  | (uri, candidate) :: rest =>
    let code := unused taken candidate
    (uri, code) :: assign (code :: taken) rest

def ofNamespaces (namespaces : List String) (wishes : Wishes) : NamespaceCodes :=
  ⟨Std.ExtTreeMap.ofList (assign [] (candidates (Std.ExtTreeSet.ofList namespaces) wishes))⟩

def code? (m : NamespaceCodes) (uri : String) : Option String := m.codes[uri]?

def toList (m : NamespaceCodes) : List (String × String) := m.codes.toList

def size (m : NamespaceCodes) : Nat := m.codes.size

end NamespaceCodes

end SoapBindings
