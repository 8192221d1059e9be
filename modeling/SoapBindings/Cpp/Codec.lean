import SoapBindings.Cpp.Layout
import SoapBindings.Cpp.Literal
import SoapBindings.Cpp.Method

/-!
# Reading and writing values

How a generated object writes itself as a message value and reads itself from one. A member is
written once, not at all, or once for each of its values, which its storage decides; it is read
when a child or an attribute of its name is found. Reading goes in two steps for each value: the
value is read into `item`, and then `Store` says how the field takes it.
-/

set_option autoImplicit false

namespace SoapBindings.Cpp

/-! ## Values -/

namespace ValueType

/-- The expression of a message value of a name. -/
def written (v : ValueType) (name expression : String) : String :=
  match v.kind with
  | .builtin .anyType =>
    s!"KDSoapValue({stringOf name}, {expression}.value(), " ++
      s!"{expression}.namespaceUri(), {expression}.type())"
  | .builtin b =>
    s!"KDSoapValue({stringOf name}, QVariant::fromValue<{v.text}>({expression}), " ++
      s!"KDSoapNamespaceManager::xmlSchema2001(), {stringOf b.schemaName})"
  | .object | .enumeration => s!"{expression}.serialize({stringOf name})"

/-- The statements that read `item` from a message value. -/
def readItem (v : ValueType) (source : String) : List String :=
  match v.kind with
  | .builtin .anyType => [s!"const KDSoapValue item = {source};"]
  | .builtin _ => [s!"const {v.text} item = {source}.value().value<{v.text}>();"]
  | .object | .enumeration => [s!"{v.text} item;", s!"item.deserialize({source});"]

/-- The expression of the text of a value that stands between tags. -/
def contentText (v : ValueType) (expression : String) : String :=
  match v.kind with
  | .builtin _ => s!"QVariant::fromValue<{v.text}>({expression})"
  | .object | .enumeration => s!"{expression}.serialize(QString()).value()"

end ValueType

/-! ## Members -/

/-- How a field takes a value that was read. -/
inductive Store where
  /-- The value replaces that of the field. -/
  | assign
  /-- The value goes to the end of the list. -/
  | append
  /-- What the pointer owns is deleted and replaced by a copy of the value. -/
  | renew
  /-- The field shares a copy of the value. -/
  | share
  | appendShared
  deriving DecidableEq, Repr

namespace Member

def store (style : OptionalStyle) (m : Member) : Store :=
  match m.storage with
  | .value => .assign
  | .optional => if m.ownsPointer style then .renew else .assign
  | .list => .append
  | .shared => .share
  | .sharedList => .appendShared

/-- The statements by which the field takes `item`. -/
def storeItem (style : OptionalStyle) (m : Member) : List String :=
  match m.store style with
  | .assign => [s!"{m.field} = item;"]
  | .append => [s!"{m.field}.append(item);"]
  | .renew => [s!"delete {m.field};", s!"{m.field} = new {m.value.text}(item);"]
  | .share => [s!"{m.field} = QSharedPointer<{m.value.text}>::create(item);"]
  | .appendShared => [s!"{m.field}.append(QSharedPointer<{m.value.text}>::create(item));"]

/-- The statements that add one value to the children or to the attributes. -/
def appendValue (m : Member) (expression : String) : List String :=
  let target := if m.role == .attr then "attribs" else "args"
  [s!"KDSoapValue value = {m.value.written m.xml.name expression};"] ++
    m.xml.ns.toList.flatMap (fun ns =>
      [s!"value.setNamespaceUri({stringOf ns});", "value.setQualified(true);"]) ++
    [s!"{target}.append(value);"]

/-- The statements that write the member. -/
def write (m : Member) : List String :=
  match m.storage with
  | .value => braces (m.appendValue m.field)
  | .optional | .shared => ifThen m.field (m.appendValue s!"(*{m.field})")
  | .list => forEach "const auto& item" m.field (m.appendValue "item")
  | .sharedList =>
    forEach "const auto& item" m.field (ifThen "!item" ["continue;"] ++ m.appendValue "(*item)")

/-- The branch that reads the member from a value of its name. -/
def readBranch (style : OptionalStyle) (m : Member) : String × List String :=
  ("name == " ++ comparedName m.xml.name, m.value.readItem "val" ++ m.storeItem style)

/-- The field of a copy. -/
def copied (style : OptionalStyle) (m : Member) : String :=
  if m.ownsPointer style then
    s!"other.{m.field} ? new {m.value.text}(*other.{m.field}) : nullptr"
  else s!"other.{m.field}"

/-- The definitions of the accessors in a class. -/
def accessors (style : OptionalStyle) (className : String) (m : Member) : List String :=
  let set := if m.ownsPointer style then
      ifThen s!"{m.field} != {m.name}" [s!"delete {m.field};", s!"{m.field} = {m.name};"]
    else [s!"{m.field} = {m.name};"]
  definition s!"void {className}::{m.setter}({m.setterType style} {m.name})" set ++
    definition s!"{m.type style} {className}::{m.name}() const" [s!"return {m.field};"]

end Member

/-! ## Objects -/

/-- The namespace and the name of a type as two arguments. -/
def typeArguments (xml : Option XmlName) : String :=
  match xml with
  | none => "QString(), QString()"
  | some x => stringOf (x.ns.getD "") ++ ", " ++ stringOf x.name

namespace ObjectClass

/-- The statements that make the value that children and attributes are added to. -/
def writeMainValue (c : ObjectClass) : List String :=
  match c.base, c.content? with
  | some base, _ =>
    s!"KDSoapValue mainValue = {base}::serialize(valueName);" ::
      c.xml.toList.map fun x => s!"mainValue.setType({typeArguments (some x)});"
  | none, some content =>
    if content.storage == .list then
      let text := content.value.contentText "item"
      ["QStringList entries;"] ++
        forEach "const auto& item" content.field [s!"entries.append({text}.toString());"] ++
        ["KDSoapValue mainValue(valueName, entries.join(QLatin1Char(' ')), " ++
          s!"{typeArguments c.xml});"]
    else
      let text := content.value.contentText content.field
      [s!"KDSoapValue mainValue(valueName, {text}, {typeArguments c.xml});"]
  | none, none =>
    [s!"KDSoapValue mainValue(valueName, QVariant(), {typeArguments c.xml});"]

/-- The members that are written as children or attributes. -/
def written (c : ObjectClass) : List Member := c.members.filter (·.role != .content)

def serializeDefinition (c : ObjectClass) : List String :=
  let children := if c.elements.isEmpty then []
    else ["KDSoapValueList& args = mainValue.childValues();"]
  let attributes := if c.attributes.isEmpty then []
    else ["QList<KDSoapValue>& attribs = mainValue.childValues().attributes();"]
  definition s!"KDSoapValue {c.name}::serialize(const QString& valueName) const"
    (c.writeMainValue ++ children ++ attributes ++ c.written.flatMap (·.write) ++
      ["return mainValue;"])

/-- The statements that read members from values. Lists are emptied first; of several members of one
name the first takes a value. -/
def readMembers (style : OptionalStyle) (source : String) (members : List Member) : List String :=
  if members.isEmpty then []
  else
    (members.filter (·.isList)).map (fun m => s!"{m.field}.clear();") ++
      forEach "const KDSoapValue& val" source
        ("const QString name = val.name();" :: choose (members.map (·.readBranch style)))

/-- The statements that read the text of the element. -/
def readContent (c : ObjectClass) : List String :=
  match c.content? with
  | none => []
  | some content =>
    if content.storage == .list then
      ["const QStringList entries = mainValue.value().toString()" ++
          ".split(QLatin1Char(' '), Qt::SkipEmptyParts);",
        s!"{content.field}.clear();"] ++
        forEach "const QString& entry" "entries"
          (content.value.readItem "KDSoapValue(QString(), entry)" ++
            [s!"{content.field}.append(item);"])
    else braces (content.value.readItem "mainValue" ++ [s!"{content.field} = item;"])

def deserializeDefinition (style : OptionalStyle) (c : ObjectClass) : List String :=
  definition s!"void {c.name}::deserialize(const KDSoapValue& mainValue)"
    (c.base.toList.map (fun base => s!"{base}::deserialize(mainValue);") ++ c.readContent ++
      readMembers style "mainValue.childValues()" c.elements ++
      readMembers style "mainValue.childValues().attributes()" c.attributes)

end ObjectClass

/-! ## Enumerations -/

namespace EnumerationClass

def definitions (c : EnumerationClass) : List String :=
  let n := c.name
  [s!"{n}::{n}() = default;", ""] ++
    [s!"{n}::{n}(Type type)", "    : m_type(type)"] ++ braces [] ++ [""] ++
    definition s!"{n}::operator Type() const" ["return m_type;"] ++
    definition s!"{n}::Type {n}::type() const" ["return m_type;"] ++
    [s!"QString {n}::toString() const", "\x7b", "    switch (m_type) \x7b"] ++
    c.values.flatMap (fun v =>
      [s!"    case {v.name}:", s!"        return {stringOf v.literal};"]) ++
    ["    \x7d", "    return QString();", "\x7d", ""] ++
    definition s!"bool {n}::fromString(const QString& text)"
      (c.values.flatMap (fun v => ifThen ("text == " ++ stringOf v.literal)
        [s!"m_type = {v.name};", "return true;"]) ++ ["return false;"]) ++
    definition s!"KDSoapValue {n}::serialize(const QString& valueName) const"
      [s!"return KDSoapValue(valueName, toString(), {typeArguments c.xml});"] ++
    definition s!"void {n}::deserialize(const KDSoapValue& mainValue)"
      ["fromString(mainValue.value().toString());"]

end EnumerationClass

end SoapBindings.Cpp
