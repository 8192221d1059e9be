import SoapBindings.Document.Context
import SoapBindings.Wsdl.Declaration

/-!
# Reading service declarations

Readers for messages, port types, bindings and services. Order matters in two places: an operation
whose output comes before its input is one that the server begins, and of two binding extensions in
one binding the later counts.
-/

set_option autoImplicit false

namespace SoapBindings.Wsdl

open Xml

/-- The children of the WSDL namespace with a name. -/
def named (e : Element) (name : String) : List Element :=
  (e.childrenIn Namespaces.wsdl).filter (·.name == name)

/-- An element of one of the two SOAP binding extensions. -/
def isSoap (name : String) (e : Element) : Bool :=
  e.is Namespaces.wsdlSoap11 name || e.is Namespaces.wsdlSoap12 name

def soapChild? (e : Element) (name : String) : Option Element := e.children.find? (isSoap name)

/-! ## Messages -/

def readPart (ctx : Context) (e : Element) : Except Misreading Part := do
  let name ← required e "name"
  let element ← ctx.qname? e "element"
  let type ← ctx.qname? e "type"
  match element, type with
  | some q, _ => return ⟨name, .element q⟩
  | none, some q => return ⟨name, .type q⟩
  | none, none => misread e (.missingOneOf "element" "type")

def readMessage (ctx : Context) (e : Element) : Except Misreading Message := do
  let parts ← (named e "part").mapM (readPart ctx)
  return ⟨← required e "name", parts⟩

/-! ## Port types -/

def readMessageUse (ctx : Context) (e : Element) : Except Misreading MessageUse := do
  return ⟨e.attribute? "name", ← ctx.requiredQName e "message"⟩

/-- The messages of an operation while its children are read. -/
structure Exchange where
  input : Option MessageUse
  output : Option MessageUse
  faults : List MessageUse
  /-- The input came before the output, once either has come. -/
  inputFirst : Option Bool

def addMessage (ctx : Context) (x : Exchange) (e : Element) : Except Misreading Exchange := do
  match e.name with
  | "input" =>
    let use ← readMessageUse ctx e
    return { x with input := some use, inputFirst := x.inputFirst.or (some true) }
  | "output" =>
    let use ← readMessageUse ctx e
    return { x with output := some use, inputFirst := x.inputFirst.or (some false) }
  | "fault" =>
    let use ← readMessageUse ctx e
    return { x with faults := x.faults ++ [use] }
  | _ => return x

/-- The pattern of an exchange that has an input or an output. -/
def Exchange.pattern? (x : Exchange) : Option Pattern :=
  match x.input.isSome, x.output.isSome with
  | true, false => some .oneWay
  | false, true => some .notification
  | true, true => some (if x.inputFirst = some true then .requestResponse else .solicitResponse)
  | false, false => none

def readOperation (ctx : Context) (e : Element) : Except Misreading Operation := do
  let x ← (e.childrenIn Namespaces.wsdl).foldlM (addMessage ctx) ⟨none, none, [], none⟩
  match x.pattern? with
  | none => misread e (.missingChild "input or output")
  | some pattern =>
    let name ← required e "name"
    return ⟨name, documentation? e, x.input, x.output, x.faults, pattern⟩

def readPortType (ctx : Context) (e : Element) : Except Misreading PortType := do
  let operations ← (named e "operation").mapM (readOperation ctx)
  return ⟨← required e "name", operations⟩

/-! ## Bindings -/

def readStyle (e : Element) : Except Misreading (Option Style) :=
  readWord e "style" none [("document", some .document), ("rpc", some .rpc)]

/-- How the body of an input or output is written, if the binding says anything of it. -/
def readBodyUse (e : Element) : Except Misreading (Option BodyUse) :=
  match soapChild? e "body" with
  | none => .ok none
  | some body =>
    readWord body "use" (some .literal) [("literal", some .literal), ("encoded", some .encoded)]

/-- Applies a reader to an element that may be absent. -/
def readIfAny {α : Type} (e : Option Element) (read : Element → Except Misreading (Option α)) :
    Except Misreading (Option α) :=
  match e with
  | none => .ok none
  | some e => read e

def readBindingOperation (e : Element) : Except Misreading BindingOperation := do
  let soap := soapChild? e "operation"
  let name ← required e "name"
  let style ← readIfAny soap readStyle
  let input ← readIfAny (e.child? Namespaces.wsdl "input") readBodyUse
  let output ← readIfAny (e.child? Namespaces.wsdl "output") readBodyUse
  return ⟨name, soap.bind (·.attribute? "soapAction"), style, input, output⟩

def protocolOf (ns : Option String) : Protocol :=
  if ns = some Namespaces.wsdlSoap11 then .soap11
  else if ns = some Namespaces.wsdlSoap12 then .soap12
  else .other (ns.getD "")

/-- Reads one child of a binding: its extension or one of its operations. -/
def addBinding (b : Binding) (e : Element) : Except Misreading Binding := do
  if e.name == "binding" && e.ns != some Namespaces.wsdl then
    let style ← readStyle e
    return { b with
      protocol := protocolOf e.ns
      style := style
      transport := e.attribute? "transport" }
  else if e.is Namespaces.wsdl "operation" then
    let operation ← readBindingOperation e
    return { b with operations := b.operations ++ [operation] }
  else return b

def readBinding (ctx : Context) (e : Element) : Except Misreading Binding := do
  let portType ← ctx.requiredQName e "type"
  let b ← e.children.foldlM addBinding ⟨"", portType, .other "", none, none, []⟩
  return { b with name := ← required e "name" }

/-! ## Services -/

def readPort (ctx : Context) (e : Element) : Except Misreading Port := do
  let name ← required e "name"
  let binding ← ctx.requiredQName e "binding"
  let address := (e.children.find? (·.name == "address")).bind (trimmed? · "location")
  return ⟨name, binding, address⟩

def readService (ctx : Context) (e : Element) : Except Misreading Service := do
  let ports ← (named e "port").mapM (readPort ctx)
  return ⟨← required e "name", documentation? e, ports⟩

end SoapBindings.Wsdl
