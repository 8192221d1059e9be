import SoapBindings.QName

/-!
# Built-in types

The types that no document declares. Several schema types share one built-in type where they have
one representation: every string-derived type is a string, every unbounded integer an integer. The
SOAP encoding namespaces declare the schema types once more, and whatever else they declare has no
fixed shape.
-/

set_option autoImplicit false

namespace SoapBindings

inductive Builtin where
  | string
  | qName
  | anyUri
  | boolean
  | float
  | double
  | decimal
  | integer
  | long
  | int
  | short
  | byte
  | unsignedLong
  | unsignedInt
  | unsignedShort
  | unsignedByte
  | duration
  | dateTime
  | date
  | time
  /-- A fragment of the calendar: a year, a month, a day of a month and so on. -/
  | gregorian
  | hexBinary
  | base64Binary
  | anySimpleType
  /-- Content of any shape: wildcards and encoded arrays as well. -/
  | anyType
  deriving DecidableEq, Repr, Inhabited

namespace Builtin

/-- The name under which the type is known in descriptions of classes. -/
def kind : Builtin → String
  | string => "string"
  | qName => "qName"
  | anyUri => "anyUri"
  | boolean => "boolean"
  | float => "float"
  | double => "double"
  | decimal => "decimal"
  | integer => "integer"
  | long => "long"
  | int => "int"
  | short => "short"
  | byte => "byte"
  | unsignedLong => "unsignedLong"
  | unsignedInt => "unsignedInt"
  | unsignedShort => "unsignedShort"
  | unsignedByte => "unsignedByte"
  | duration => "duration"
  | dateTime => "dateTime"
  | date => "date"
  | time => "time"
  | gregorian => "gregorian"
  | hexBinary => "hexBinary"
  | base64Binary => "base64Binary"
  | anySimpleType => "anySimpleType"
  | anyType => "anyType"

/-- The name of the type in the schema namespace, as written into `xsi:type`. A calendar fragment
goes by the year. -/
def schemaName : Builtin → String
  | qName => "QName"
  | anyUri => "anyURI"
  | gregorian => "gYear"
  | b => b.kind

/-- The schema types with their representation. -/
def schemaTypes : List (String × Builtin) := [
  ("string", string), ("normalizedString", string), ("token", string), ("language", string),
  ("Name", string), ("NCName", string), ("NMTOKEN", string), ("NMTOKENS", string),
  ("ID", string), ("IDREF", string), ("IDREFS", string), ("ENTITY", string),
  ("ENTITIES", string), ("NOTATION", string), ("QName", qName), ("anyURI", anyUri),
  ("boolean", boolean), ("float", float), ("double", double), ("decimal", decimal),
  ("integer", integer), ("nonNegativeInteger", integer), ("positiveInteger", integer),
  ("nonPositiveInteger", integer), ("negativeInteger", integer), ("long", long), ("int", int),
  ("short", short), ("byte", byte), ("unsignedLong", unsignedLong), ("unsignedInt", unsignedInt),
  ("unsignedShort", unsignedShort), ("unsignedByte", unsignedByte), ("duration", duration),
  ("dateTime", dateTime), ("date", date), ("time", time), ("gYear", gregorian),
  ("gYearMonth", gregorian), ("gMonth", gregorian), ("gMonthDay", gregorian),
  ("gDay", gregorian), ("hexBinary", hexBinary), ("base64Binary", base64Binary),
  ("anySimpleType", anySimpleType), ("anyType", anyType)]

/-- The built-in type of a name in the schema namespace. -/
def ofSchemaName? (name : String) : Option Builtin := schemaTypes.lookup name

/-- The built-in type that a qualified name stands for. -/
def ofQName? (q : QName) : Option Builtin :=
  if q.ns == Namespaces.schema then ofSchemaName? q.localName
  else if q.ns == Namespaces.soap11Encoding || q.ns == Namespaces.soap12Encoding then
    if ["Array", "Struct", "arrayType"].contains q.localName then some anyType
    else some ((ofSchemaName? q.localName).getD anyType)
  else none

/-- The value has a text of its own, so it can be an attribute or simple content. -/
def isSimple (b : Builtin) : Bool := b != anyType

/-- Numbers and truth values, which are cheap to copy. -/
def isScalar : Builtin → Bool
  | boolean | float | double | decimal | integer | long | int | short | byte | unsignedLong
  | unsignedInt | unsignedShort | unsignedByte => true
  | _ => false

end Builtin

end SoapBindings
