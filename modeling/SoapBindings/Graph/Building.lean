import SoapBindings.Graph.Anonymous

/-!
# The graph of declared types

Every type becomes a node, and all names in it are looked up: first among the built-in types, then
among the declarations. A name that is not found stands in the node as unresolved and is reported
with the type, or with the top-level element, that it stands in.

A type cannot be among its own bases, whether by extension or by restriction; that is an error.
-/

set_option autoImplicit false

namespace SoapBindings

open Schema

/-- A cycle of types, each of which has the next one as its base and the last one the first. -/
structure InheritanceCycle where
  types : List TypeId
  deriving DecidableEq, Repr

def InheritanceCycle.message (c : InheritanceCycle) : String :=
  "inheritance cycle:" ++ String.join (c.types.map fun id => " " ++ id.toText ++ " ->") ++
    match c.types with
    | [] => ""
    | first :: _ => " " ++ first.toText

/-- A declaration that becomes a node. -/
structure TypeEntry where
  id : TypeId
  decl : TypeDecl
  place : Enclosure
  origin : Locator

namespace TypeGraph

/-- The types with a name. -/
def namedEntries (s : Symbols) : List TypeEntry :=
  s.types.toList.map fun (name, d) => ⟨.named name, d.decl, .top .type name, d.locator⟩

/-- The types without one. -/
def anonymousEntries (s : Symbols) (paths : AnonymousPaths) : List TypeEntry :=
  let declared := s.inlineTypes
  paths.toList.filterMap fun (site, path) =>
    match declared[site]?, s.locator? site with
    | some decl, some origin =>
      some ⟨AnonymousPaths.typeId site path, decl, ⟨site, path⟩, origin⟩
    | _, _ => none

def entries (s : Symbols) (paths : AnonymousPaths) : List TypeEntry :=
  namedEntries s ++ anonymousEntries s paths

/-- What a name of a type refers to. -/
def resolveType (s : Symbols) (name : QName) : TypeRef :=
  match Builtin.ofQName? name with
  | some b => .builtin b
  | none => if s.types.contains name then .node (.named name) else .unresolved name

def resolve (s : Symbols) (paths : AnonymousPaths) : Use → TypeRef
  | .builtin b => .builtin b
  | .named r => resolveType s r.name
  | .missing r => .unresolved r.name
  | .inline site path =>
    match paths.typeId? site with
    | some id => .node id
    | none => .unresolved ⟨site.name.ns, path⟩

/-- The reference in a use that finds nothing. -/
def unresolved? (s : Symbols) : Use → Option Reference
  | .named r => match resolveType s r.name with
    | .unresolved _ => some r
    | _ => none
  | .missing r => some r
  | _ => none

/-- The name is that of a declared complex type. -/
def isComplexName (s : Symbols) (name : QName) : Bool :=
  match resolveType s name, s.types[name]? with
  | .node _, some ⟨.complex _, _, _⟩ => true
  | _, _ => false

def particle (s : Symbols) (paths : AnonymousPaths) (l : Leaf) : Particle where
  name := l.name
  ns := l.ns
  kind := l.kind
  type := resolve s paths l.use
  occurs := l.occurs
  nillable := l.nillable
  holding := .byValue
  documentation := l.documentation

def particles (s : Symbols) (paths : AnonymousPaths) (pieces : List Piece) : List Particle :=
  (pieces.filterMap (·.leaf?)).map (particle s paths)

/-- The items of an encoded array. -/
def arrayParticle (item : TypeRef) : Particle :=
  ⟨"item", none, .element, item, ⟨0, .unbounded⟩, false, .byValue, none⟩

/-- The base of a type; deriving from the type of everything says nothing. -/
def baseType (s : Symbols) (name : QName) (derivation : DerivationKind) : Option BaseType :=
  match resolveType s name with
  | .builtin .anyType => none
  | type => some ⟨type, derivation⟩

/-- The base of a complex type. A simple type is a base no more than a value is: it becomes the
content. -/
def baseOf (s : Symbols) (t : ComplexType) : Option BaseType :=
  match t.content with
  | .empty | .group _ => none
  | .extension name _ => baseType s name .extension
  | .restriction name _ =>
    if Symbols.isEncodedArray name then none else baseType s name .restriction
  | .simpleExtension name =>
    if isComplexName s name then some ⟨resolveType s name, .extension⟩ else none
  | .simpleRestriction name _ =>
    if isComplexName s name then some ⟨resolveType s name, .restriction⟩ else none

/-- The particles of a group as the group arranges them. -/
def arrange (compositor : Compositor) (ps : List Particle) : TypeContent :=
  match compositor with
  | .sequence => .sequence ps
  | .choice => .choice ps
  | .all => .all ps

def contentOf (s : Symbols) (paths : AnonymousPaths) (e : TypeEntry) (t : ComplexType) :
    TypeContent :=
  match t.content with
  | .simpleExtension name => if isComplexName s name then .empty else .value (resolveType s name)
  | .simpleRestriction name _ => .value (resolveType s name)
  | _ =>
    if Symbols.isArray t then
      .sequence (((Symbols.origin? e.id.toText t).map (resolve s paths)).toList.map arrayParticle)
    else
      match Symbols.contentGroup? t with
      | none => .empty
      | some g => arrange g.compositor (particles s paths (s.elementsOf e.id.toText e.place t))

def simpleKind (s : Symbols) (paths : AnonymousPaths) (e : TypeEntry) (t : SimpleType) : TypeKind :=
  let origin := resolve s paths (Symbols.simpleOrigin e.id.toText e.place t)
  match t.derivation with
  | .restriction _ facets =>
    if facets.enumeration.isEmpty then .simple origin facets.others
    else .enumeration origin facets.enumeration
  | .list _ => .list origin
  | .union _ => .simple origin []

def node (s : Symbols) (paths : AnonymousPaths) (e : TypeEntry) : TypeNode :=
  match e.decl with
  | .simple t => ⟨simpleKind s paths e t, none, false, t.documentation, e.origin⟩
  | .complex t =>
    let attributes := particles s paths (s.attributesOf e.id.toText e.place t)
    ⟨.complex (contentOf s paths e t) attributes t.mixed t.anyAttribute, baseOf s t, t.isAbstract,
      t.documentation, e.origin⟩

/-- What the declaration of a type refers to in vain. -/
def missingIn (s : Symbols) (e : TypeEntry) : List Reference :=
  (s.uses e.id.toText e.place e.decl).filterMap (unresolved? s)

def elementNode (s : Symbols) (paths : AnonymousPaths) (name : QName) (d : ElementDecl) :
    ElementNode :=
  ⟨resolve s paths (Symbols.elementUse name d), d.nillable, d.isAbstract, d.substitutionGroup,
    d.documentation⟩

/-- The graph before it is checked. -/
def draft (s : Symbols) (paths : AnonymousPaths) : TypeGraph where
  types := Std.ExtTreeMap.ofList ((entries s paths).map fun e => (e.id, node s paths e))
  elements := s.elements.map fun name d => elementNode s paths name d.decl

/-- All that is referred to in vain. -/
def missing (s : Symbols) (paths : AnonymousPaths) : References :=
  Std.ExtTreeSet.ofList ((entries s paths).flatMap (missingIn s) ++
    s.elements.toList.filterMap fun (name, d) => unresolved? s (Symbols.elementUse name d.decl))

/-- The type that a node derives from. -/
def baseId? (n : TypeNode) : Option TypeId := n.base.bind (·.type.node?)

/-- Follows bases from `current` on through the types not yet come to. `chain` holds the types that
led there, last first; it is a cycle if they lead back to `start`. -/
def cycleThrough (start : TypeId) (remaining : TypeTable) (chain : List TypeId)
    (current : TypeId) : Option InheritanceCycle :=
  if current = start then some ⟨chain.reverse⟩
  else
    match h : remaining[current]? with
    | none => none
    | some n =>
      have : (remaining.erase current).size < remaining.size := size_erase_lt_of_getElem? h
      match baseId? n with
      | none => none
      | some base => cycleThrough start (remaining.erase current) (current :: chain) base
termination_by remaining.size

/-- The cycle of bases that a type lies on. -/
def cycleOf? (types : TypeTable) (id : TypeId) : Option InheritanceCycle :=
  (types[id]?.bind baseId?).bind (cycleThrough id types [id])

/-- The graph of all declarations, and what they refer to in vain. -/
def ofSymbols (s : Symbols) : Except InheritanceCycle (TypeGraph × References) :=
  let paths := AnonymousPaths.ofSymbols s
  let graph := draft s paths
  match graph.types.keys.findSome? (cycleOf? graph.types) with
  | some cycle => .error cycle
  | none => .ok (graph, missing s paths)

end TypeGraph

end SoapBindings
