import SoapBindings.Cpp.Method
import SoapBindings.Text.Json

/-!
# Descriptions of classes

The generated classes as data for other tools. Every class is described in the same form, whatever
kind it is; what it has nothing of is null or an empty list.
-/

set_option autoImplicit false

namespace SoapBindings.Cpp

open Text

def XmlName.describe (x : XmlName) : Json :=
  .obj [("name", .str x.name), ("namespace", .optionalText x.ns)]

def ValueKind.describe : ValueKind → Json
  | .builtin b => .obj [("builtin", .str b.kind)]
  | .object => .str "class"
  | .enumeration => .str "enumeration"

def Member.describe (style : OptionalStyle) (m : Member) : Json := .obj [
  ("name", .str m.name),
  ("setter", .str m.setter),
  ("xml", m.xml.describe),
  ("is_attribute", .bool (m.role == .attr)),
  ("is_content", .bool (m.role == .content)),
  ("value_type", .str m.value.text),
  ("value_kind", m.value.kind.describe),
  ("storage", .str m.storage.label),
  ("cpp_type", .str (m.type style)),
  ("documentation", .optionalText m.documentation)]

def PartValue.describe (p : PartValue) : Json := .obj [
  ("xml", p.xml.describe),
  ("value_type", .str p.value.text),
  ("value_kind", p.value.kind.describe)]

def Parameter.describe (p : Parameter) : Json := .obj [
  ("name", .str p.name),
  ("cpp_type", .str p.type),
  ("output", .bool p.isOutput),
  ("part", .option PartValue.describe p.part)]

def Call.describe (c : Call) : Json := .obj [
  ("operation", .str c.operation),
  ("soap_action", .optionalText c.soapAction),
  ("namespace", .str c.ns),
  ("style", .str (match c.style with
    | .document => "document"
    | .rpc => "rpc")),
  ("encoded", .bool c.encoded),
  ("one_way", .bool c.oneWay),
  ("request", .list PartValue.describe c.request),
  ("response", .list PartValue.describe c.response)]

def Method.describe (m : Method) : Json := .obj [
  ("name", .str m.name),
  ("kind", .str m.kind.label),
  ("return_type", .str m.returnType),
  ("parameters", .list Parameter.describe m.parameters),
  ("is_const", .bool m.isConst),
  ("call", .option Call.describe m.call),
  ("documentation", .optionalText m.documentation)]

def Enumerator.describe (e : Enumerator) : Json :=
  .obj [("name", .str e.name), ("literal", .str e.literal)]

def Endpoint.describe (e : Endpoint) : Json := .obj [
  ("service", .str e.service),
  ("port", .str e.port),
  ("endpoint", .optionalText e.address),
  ("soap_version", .str (match e.soapVersion with
    | .soap11 => "soap11"
    | .soap12 => "soap12")),
  ("namespace", .str e.ns)]

def Class.describe (style : OptionalStyle) (c : Class) : Json := .obj [
  ("name", .str c.name),
  ("kind", .str c.kindLabel),
  ("xml", .option XmlName.describe c.xml),
  ("base", .optionalText c.base),
  ("forward_declarations", .list .str c.forwardDeclarations),
  ("members", .list (Member.describe style) c.members),
  ("methods", .list Method.describe c.methods),
  ("enum_values", .list Enumerator.describe c.enumerators),
  ("service", .option Endpoint.describe c.endpoint),
  ("documentation", .optionalText c.documentation)]

/-- The description of all classes. -/
def describe (style : OptionalStyle) (classes : List Class) : String :=
  (Json.list (Class.describe style) classes).toText

end SoapBindings.Cpp
