import SoapBindings.Builtin

/-!
# Values of generated members

The type of one value, and how a member stores it. A member that may repeat is a list, one whose
class is only declared ahead is a shared pointer, and one that may be absent is optional; a list is
never optional, as an empty one says the same. How an optional value is written is the user's choice
(`OptionalStyle`), and nothing else depends on that choice.
-/

set_option autoImplicit false

namespace SoapBindings

/-- The type that represents a built-in type. -/
def Builtin.cppType : Builtin → String
  | .string | .anyUri | .duration | .gregorian => "QString"
  | .qName => "KDQName"
  | .boolean => "bool"
  | .float => "float"
  | .double | .decimal => "double"
  | .integer | .long => "qint64"
  | .int => "int"
  | .short => "short"
  | .byte => "signed char"
  | .unsignedLong => "quint64"
  | .unsignedInt => "unsigned int"
  | .unsignedShort => "unsigned short"
  | .unsignedByte => "unsigned char"
  | .dateTime => "KDDateTime"
  | .date => "QDate"
  | .time => "QTime"
  | .hexBinary | .base64Binary => "QByteArray"
  | .anySimpleType => "QVariant"
  | .anyType => "KDSoapValue"

namespace Cpp

/-- What reading and writing a value rests on. -/
inductive ValueKind where
  | builtin (type : Builtin)
  /-- A generated class, which reads and writes itself. -/
  | object
  /-- A generated enumeration, which has a text for each of its values. -/
  | enumeration
  deriving DecidableEq, Repr, Inhabited

/-- The value is cheap to copy and passed as it is. -/
def ValueKind.isScalar : ValueKind → Bool
  | .builtin b => b.isScalar
  | .enumeration => true
  | .object => false

inductive Storage where
  | value
  | optional
  | list
  /-- A shared pointer to a class that is declared ahead. -/
  | shared
  | sharedList
  deriving DecidableEq, Repr, Inhabited

namespace Storage

/-- The storage of a member; repetition decides first, then the way the value is held. -/
def of (isOptional isRepeated byReference : Bool) : Storage :=
  match isRepeated, byReference with
  | true, true => sharedList
  | true, false => list
  | false, true => shared
  | false, false => if isOptional then optional else value

def label : Storage → String
  | value => "value"
  | optional => "optional"
  | list => "list"
  | shared => "shared"
  | sharedList => "shared-list"

end Storage

/-- How an optional value is written. -/
inductive OptionalStyle where
  | rawPointer
  | boostOptional
  | stdOptional
  deriving DecidableEq, Repr, Inhabited

namespace OptionalStyle

def label : OptionalStyle → String
  | rawPointer => "raw-pointer"
  | boostOptional => "boost-optional"
  | stdOptional => "std-optional"

def all : List OptionalStyle := [rawPointer, boostOptional, stdOptional]

def ofLabel? (label : String) : Option OptionalStyle :=
  all.find? (·.label == label)

/-- The type of a value that may be absent. -/
def wrap (style : OptionalStyle) (valueType : String) : String :=
  match style with
  | rawPointer => valueType ++ "*"
  | boostOptional => "boost::optional<" ++ valueType ++ ">"
  | stdOptional => "std::optional<" ++ valueType ++ ">"

end OptionalStyle

/-- The type of a member that stores values of `valueType`. -/
def memberType (style : OptionalStyle) (valueType : String) : Storage → String
  | .value => valueType
  | .optional => style.wrap valueType
  | .list => "QList<" ++ valueType ++ ">"
  | .shared => "QSharedPointer<" ++ valueType ++ ">"
  | .sharedList => "QList<QSharedPointer<" ++ valueType ++ ">>"

/-- The type of a parameter that is only read. -/
def inputType (cppType : String) (isScalar : Bool) : String :=
  if isScalar then cppType else "const " ++ cppType ++ "&"

end Cpp

end SoapBindings
