import SoapBindings.Cpp.Codec

/-!
# Messages in generated code

How the parts of a call are put into a message and taken out of it. A document call with a single
part has that part as its message; in all other calls the parts are children of the message, found
by their names.
-/

set_option autoImplicit false

namespace SoapBindings.Cpp

/-- Where a part is written. -/
inductive PartTarget where
  /-- The part is the message. -/
  | message
  /-- The part comes after the children that are there. -/
  | nextChild
  deriving DecidableEq, Repr

/-- Where a part is read from. -/
inductive PartSource where
  /-- The message is the part. -/
  | message
  /-- The first child of a name is the part. -/
  | child (name : String)
  deriving DecidableEq, Repr

/-- Where the parts of a request or a response are written. -/
def partTarget (style : Wsdl.Style) (parts : List PartValue) : PartTarget :=
  match style, parts with
  | .document, [_] => .message
  | _, _ => .nextChild

/-- Where a part among others is read from. -/
def partSource (style : Wsdl.Style) (parts : List PartValue) (part : PartValue) : PartSource :=
  if style == .document && parts.length == 1 then .message else .child part.xml.name

/-- A part and the variable or field that holds it. -/
structure HeldPart where
  part : PartValue
  holder : String
  deriving DecidableEq, Repr

def Argument.held (a : Argument) : HeldPart := ⟨a.part, a.name⟩

/-- The member of a job as a part. -/
def Member.held (m : Member) : HeldPart := ⟨⟨m.xml, m.value⟩, m.field⟩

/-- The statements that write a part into a message. -/
def writePart (message : String) (target : PartTarget) (h : HeldPart) : List String :=
  let value := h.part.value.written h.part.xml.name h.holder
  match target with
  | .message =>
    [s!"{message} = {value};", s!"{message}.setQualified(true);"] ++
      h.part.xml.ns.toList.map fun ns => s!"{message}.setNamespaceUri({stringOf ns});"
  | .nextChild => [s!"{message}.childValues().append({value});"]

/-- The statements that fill a message with parts. -/
def writeParts (message : String) (call : Call) (parts : List HeldPart) : List String :=
  parts.flatMap (writePart message (partTarget call.style (parts.map (·.part)))) ++
    if call.encoded then [s!"{message}.setUse(KDSoapMessage::EncodedUse);"] else []

/-- The expression of a part of a message. -/
def PartSource.text (message : String) : PartSource → String
  | .message => message
  | .child name => s!"{message}.childValues().child({comparedName name})"

/-- The statements that take a part out of a message. -/
def readPart (message : String) (style : Wsdl.Style) (parts : List PartValue) (h : HeldPart) :
    List String :=
  let source := (partSource style parts h.part).text message
  braces (h.part.value.readItem source ++ [s!"{h.holder} = item;"])

/-- The statements that take all parts out of a message. -/
def readParts (message : String) (style : Wsdl.Style) (parts : List HeldPart) : List String :=
  parts.flatMap (readPart message style (parts.map (·.part)))

end SoapBindings.Cpp
