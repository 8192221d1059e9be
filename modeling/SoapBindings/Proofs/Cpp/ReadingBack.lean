import SoapBindings.Proofs.Compilation
import SoapBindings.Proofs.Cpp.ClassNames
import SoapBindings.Proofs.Cpp.Lines

/-!
# What is read back

A member is written with its name and its namespace, but the branches that read members ask for a
local name and for nothing else. So a member is read back exactly where no member before it, of
those that are read from the same values, has its local name (`readsBack_iff`). Two elements of one
name from two namespaces are told apart when they are written and not when they are read
(`not_readsBack_twofold`).
-/

set_option autoImplicit false

namespace SoapBindings.Cpp

variable {m : Member}

/-! ## Members of generated classes -/

namespace ClassContext

variable {c : ClassContext} {code : String} {scope : Scope}

theorem isWord_of_member? (named : ∀ ns, IsIdentifier (c.code ns)) (hcode : IsIdentifier code)
    {p : Particle} (h : (c.member? code p scope).1 = some m) : IsWord m.name.toList := by
  have hcode : IsIdentifier ((p.ns.map c.code).getD code) := by
    cases p.ns with
    | none => exact hcode
    | some ns => exact named ns
  rw [member?] at h
  cases hvalue : c.valueType? p.type with
  | none =>
    rw [hvalue] at h
    cases h
  | some value =>
    rw [hvalue] at h
    cases h
    exact isWord_takeName hcode

theorem isWord_of_mem_membersOf (named : ∀ ns, IsIdentifier (c.code ns))
    (hcode : IsIdentifier code) {n : TypeNode} (h : m ∈ (c.membersOf code n scope).1) :
    IsWord m.name.toList := by
  have ofContent {name : String} {type : TypeRef} {occurs : Schema.Occurs}
      (h : m ∈ (c.contentMember code name type occurs scope).1) : IsWord m.name.toList := by
    obtain ⟨m', hm', rfl⟩ := List.mem_map.mp h
    exact isWord_of_member? (m := m') named hcode (Option.mem_toList.mp hm')
  have ofMember {scope : Scope} {ps : List Particle} (h : m ∈ (c.members code ps scope).1) :
      IsWord m.name.toList := by
    obtain ⟨m?, hm?, some⟩ := List.mem_filterMap.mp h
    obtain ⟨p, _, scope', rfl⟩ := exists_of_mem_mapM hm?
    exact isWord_of_member? named hcode some
  obtain ⟨kind, base, isAbstract, documentation, origin⟩ := n
  cases kind with
  | simple type facets => exact ofContent h
  | list item => exact ofContent h
  | enumeration type values => cases h
  | complex content attributes mixed anyAttribute =>
    cases content with
    | value type =>
      rcases List.mem_append.mp h with h | h
      · exact ofContent h
      · exact ofMember h
    | empty | sequence _ | choice _ | all _ => exact ofMember h

end ClassContext

/-- The members of an object are called by words, whatever the documents call them. -/
theorem isWord_of_mem_classes {forms : ServiceForms} {o : OrderedGraph}
    {services : List BoundService} {namespaces : List String} {wishes : NamespaceCodes.Wishes}
    {c : ObjectClass} (h : .object c ∈ classes forms o services (.ofNamespaces namespaces wishes))
    (hm : m ∈ c.members) : IsWord m.name.toList := by
  have named : ∀ ns, IsIdentifier ((contextOf o (.ofNamespaces namespaces wishes)).code ns) :=
    isIdentifier_code namespaces wishes
  obtain ⟨_, _, id, _, _, rfl⟩ := exists_objectClass h
  exact ClassContext.isWord_of_mem_membersOf named (named id.ns) hm

/-! ## Reading back -/

/-- The members of a role. -/
def ObjectClass.inRole (c : ObjectClass) (role : MemberRole) : List Member :=
  c.members.filter (·.role == role)

/-- The values among which members of a role are looked for. -/
def MemberRole.source : MemberRole → String
  | .attr => "mainValue.childValues().attributes()"
  | _ => "mainValue.childValues()"

/-- The branches by which members are read from a value. -/
def branches (style : OptionalStyle) (ms : List Member) : List String :=
  choose (ms.map (·.readBranch style))

/-- The loop that reads members from values. -/
def readingLoop (style : OptionalStyle) (source : String) (ms : List Member) : List String :=
  forEach "const KDSoapValue& val" source ("const QString name = val.name();" :: branches style ms)

/-- The class writes the member, which is the one at `i` of its role, with its name and its
namespace, and reads a value of that name with the branch of that very member. -/
structure ReadsBack (style : OptionalStyle) (c : ObjectClass) (role : MemberRole) (i : Nat)
    (m : Member) : Prop where
  written : indented m.write <:+: c.serializeDefinition
  loop : indented (readingLoop style role.source (c.inRole role)) <:+: c.deserializeDefinition style
  name : writtenName? m.write = some m.xml.name.toList
  ns : writtenNs? m.write = m.xml.ns.map String.toList
  branch : branchTaken? m.xml.name.toList (branches style (c.inRole role)) = some i

section

variable {c : ObjectClass} {role : MemberRole} {i : Nat}

theorem mem_inRole : m ∈ c.inRole role ↔ m ∈ c.members ∧ m.role = role := by
  rw [ObjectClass.inRole, List.mem_filter, beq_iff_eq]

/-- What stands in the body of a definition stands in the definition. -/
theorem infix_definition {part body : List String} (h : part <:+: body) (signature : String) :
    indented part <:+: definition signature body := by
  refine List.IsInfix.trans (List.IsInfix.map _ h) ?_
  exact ⟨[signature, "\x7b"], ["\x7d", ""], by simp [definition, braces, block, indented]⟩

/-- The members of a role are read in a loop of their own. -/
theorem infix_deserializeDefinition (style : OptionalStyle) (hrole : role ≠ .content)
    (some : c.inRole role ≠ []) :
    indented (readingLoop style role.source (c.inRole role)) <:+:
      c.deserializeDefinition style := by
  have looped : readingLoop style role.source (c.inRole role) <:+:
      ObjectClass.readMembers style role.source (c.inRole role) := by
    rw [ObjectClass.readMembers, if_neg (by simpa using some)]
    exact (List.suffix_append _ _).isInfix
  refine infix_definition (looped.trans ?_) _
  cases role with
  | content => exact absurd rfl hrole
  | element => exact ⟨_, _, rfl⟩
  | attr => exact (List.suffix_append _ _).isInfix

theorem infix_serializeDefinition (hm : m ∈ c.inRole role) (hrole : role ≠ .content) :
    indented m.write <:+: c.serializeDefinition := by
  obtain ⟨member, rfl⟩ := mem_inRole.mp hm
  have written : m ∈ c.written := List.mem_filter.mpr ⟨member, bne_iff_ne.mpr hrole⟩
  have among : m.write <:+: c.written.flatMap (·.write) :=
    List.infix_of_mem_flatten (List.mem_map_of_mem written)
  exact infix_definition (among.trans ⟨_, _, rfl⟩) _

theorem branch_iff (style : OptionalStyle) {ms : List Member} (hm : ms[i]? = some m)
    (plain : ∀ m ∈ ms, IsPlain m.xml.name) :
    branchTaken? m.xml.name.toList (branches style ms) = some i ↔
      ∀ (j : Nat) (m' : Member), ms[j]? = some m' → j < i → m'.xml.name ≠ m.xml.name := by
  obtain ⟨hi, rfl⟩ := List.getElem?_eq_some_iff.mp hm
  rw [branches, branchTaken?_choose plain, List.findIdx?_eq_some_iff_getElem]
  constructor
  · rintro ⟨_, _, none⟩ j m' hj before same
    obtain ⟨_, rfl⟩ := List.getElem?_eq_some_iff.mp hj
    exact none j before (by simp [same])
  · intro none
    refine ⟨hi, by simp, fun j before same => ?_⟩
    have hj : ms[j]? = some ms[j] := List.getElem?_eq_getElem (before.trans hi)
    exact none j _ hj before (by simpa [String.toList_inj] using same)

theorem quoteless_of_isWord {name : String} (h : IsWord name.toList) : '"' ∉ name.toList :=
  fun quote => absurd (h.chars _ quote) (by decide)

end

/-- A member of a generated class is read back exactly where no member before it, of those that are
read from the same values, has the same local name. Namespaces do not tell members apart. -/
theorem readsBack_iff {forms : ServiceForms} {o : OrderedGraph} {services : List BoundService}
    {namespaces : List String} {wishes : NamespaceCodes.Wishes} {c : ObjectClass}
    (h : .object c ∈ classes forms o services (.ofNamespaces namespaces wishes))
    (style : OptionalStyle) {role : MemberRole} (hrole : role ≠ .content) {i : Nat} {m : Member}
    (hm : (c.inRole role)[i]? = some m) (plain : ∀ m ∈ c.inRole role, IsPlain m.xml.name) :
    ReadsBack style c role i m ↔ ∀ (j : Nat) (m' : Member), (c.inRole role)[j]? = some m' → j < i →
      m'.xml.name ≠ m.xml.name := by
  have mem := List.mem_of_getElem? hm
  refine ⟨fun back => (branch_iff style hm plain).mp back.branch, fun first => ?_⟩
  refine ⟨infix_serializeDefinition mem hrole, ?_, writtenName?_write ?_, writtenNs?_write,
    (branch_iff style hm plain).mpr first⟩
  · exact infix_deserializeDefinition style hrole (List.ne_nil_of_mem mem)
  · exact quoteless_of_isWord (isWord_of_mem_classes h (mem_inRole.mp mem).1)

/-! ## Two elements of one name -/

section

open Schema TypeGraph Relation

/-- An element that holds a text. -/
def textElement (ns : String) : ElementDecl where
  name := "a"
  ns := some ns
  type := some (.named ⟨Namespaces.schema, "string"⟩)
  nillable := false
  isAbstract := false
  substitutionGroup := none
  default := none
  fixed := none
  documentation := none

/-- A schema that declares the element, and some types. -/
def schemaWith (ns : String) (types : List TypeDecl) : Document where
  locator := default
  kind := .schema
  targetNamespace := ns
  imports := []
  schemas := [{
    targetNamespace := ns
    elementForm := .unqualified
    attributeForm := .unqualified
    imports := []
    types := types
    elements := [textElement ns]
    attributes := []
    groups := []
    attributeGroups := [] }]
  messages := []
  portTypes := []
  bindings := []
  services := []
  skipped := []

def twofoldName : QName := ⟨"urn:t", "T"⟩

/-- A type with the elements of both namespaces. -/
def twofold : TypeDecl := .complex {
  name := some "T"
  documentation := none
  isAbstract := false
  mixed := false
  content := .group ⟨.sequence, .once,
    [.elementRef ⟨"urn:t", "a"⟩ .once, .elementRef ⟨"urn:u", "a"⟩ .once]⟩
  attributes := []
  anyAttribute := false
  arrayItem := none }

def twofoldDocuments : Documents := ⟨[schemaWith "urn:t" [twofold], schemaWith "urn:u" []]⟩

def twofoldSymbols : Symbols :=
  let first := Symbols.empty.elements.insert ⟨"urn:t", "a"⟩ ⟨textElement "urn:t", "urn:t", default⟩
  { Symbols.empty with
    types := Symbols.empty.types.insert twofoldName ⟨twofold, "urn:t", default⟩
    elements := first.insert ⟨"urn:u", "a"⟩ ⟨textElement "urn:u", "urn:u", default⟩ }

def twofoldGraph : TypeGraph := draft twofoldSymbols (AnonymousPaths.ofSymbols twofoldSymbols)

def twofoldEntry : TypeEntry := ⟨.named twofoldName, twofold, .top .type twofoldName, default⟩

def textParticle (ns : String) : Particle :=
  ⟨"a", some ns, .element, .builtin .string, .once, false, .byValue, none⟩

def twofoldNode : TypeNode where
  kind := .complex (.sequence [textParticle "urn:t", textParticle "urn:u"]) [] false false
  base := none
  isAbstract := false
  documentation := none
  origin := default

theorem ofSymbols_twofoldSymbols : ofSymbols twofoldSymbols =
    .ok (twofoldGraph, missing twofoldSymbols (AnonymousPaths.ofSymbols twofoldSymbols)) := by
  -- Evaluated stage by stage; the whole graph is too large a term.
  have noCycle : twofoldGraph.types.keys.findSome? (cycleOf? twofoldGraph.types) = none := by cbv
  rw [twofoldGraph] at noCycle
  simp only [ofSymbols, noCycle]
  rfl

theorem getElem?_twofoldGraph {id : TypeId} {n : TypeNode} :
    twofoldGraph.types[id]? = some n ↔ id = .named twofoldName ∧ n = twofoldNode := by
  have entries : allEntries twofoldSymbols = [twofoldEntry] := by cbv
  have node : node twofoldSymbols (AnonymousPaths.ofSymbols twofoldSymbols) twofoldEntry =
      twofoldNode := by cbv
  rw [twofoldGraph, getElem?_draft (AnonymousPaths.named_ofSymbols twofoldSymbols), ← allEntries,
    entries]
  constructor
  · rintro ⟨e, he, rfl, rfl⟩
    obtain rfl := List.mem_singleton.mp he
    exact ⟨rfl, node⟩
  · rintro ⟨rfl, rfl⟩
    exact ⟨twofoldEntry, List.mem_cons_self, rfl, node⟩

/-- All types are kept, as there is no operation that uses any. -/
def keepingSettings : Settings := { Compilation.plainSettings with keepUnused := true }

theorem ofDocuments_twofoldDocuments : ∃ (i : Interface) (o : OrderedGraph) (compilation : _),
    Compilation.ofDocuments keepingSettings twofoldDocuments = .ok compilation ∧
      o.graph = twofoldGraph ∧ .named twofoldName ∈ o.order ∧
      compilation.classes = classes keepingSettings.forms o i.services i.codes ∧
      ∃ namespaces wishes, i.codes = .ofNamespaces namespaces wishes := by
  have symbols : Symbols.ofDocuments twofoldDocuments = .ok twofoldSymbols := rfl
  have none : (BindingContext.of twofoldDocuments twofoldGraph).services
      keepingSettings.choices.service = .ok ⟨[], []⟩ := by cbv
  obtain ⟨i, hi, graph, _⟩ := Interface.ofDocuments_of_stages symbols ofSymbols_twofoldSymbols none
  have acyclic : ∀ a, ¬ TransGen i.graph.NeedsComplete a a := by
    intro a cycle
    obtain ⟨b, ⟨_, n, need, hn, hneed, _⟩, _⟩ := TransGen.head'_iff.mp cycle
    obtain ⟨rfl, rfl⟩ := getElem?_twofoldGraph.mp (graph ▸ hn)
    have needs : twofoldNode.needs =
        [(.member 0 .byValue, .builtin .string), (.member 1 .byValue, .builtin .string)] := by cbv
    rw [needs] at hneed
    simp at hneed
  obtain ⟨o, ho, ordered⟩ : ∃ o, OrderedGraph.ofGraph i.graph i.codes = .ok o ∧ o.graph = i.graph :=
    OrderedGraph.ofGraph_of_acyclic acyclic
  obtain ⟨compilation, hc⟩ := Compilation.ofDocuments_of_stages (s := keepingSettings) hi ho
  obtain ⟨whole, o', hwhole, ho', listed⟩ := Compilation.ofDocuments_eq_ok hc
  obtain rfl := Except.ok.inj (hi.symm.trans hwhole)
  obtain rfl := Except.ok.inj (ho.symm.trans ho')
  have there : o.graph.types[TypeId.named twofoldName]? = some twofoldNode := by
    rw [ordered, graph]
    exact getElem?_twofoldGraph.mpr ⟨rfl, rfl⟩
  have mem := (OrderedGraph.mem_order ho).mpr (mem_of_getElem? there)
  exact ⟨i, o, compilation, hc, ordered.trans graph, mem, listed, _, _,
    Interface.codes_ofDocuments hi⟩

/-- The type has a class with a member for each element. -/
theorem exists_twofoldClass {o : OrderedGraph} (graph : o.graph = twofoldGraph)
    (mem : .named twofoldName ∈ o.order) (forms : ServiceForms) (services : List BoundService)
    (codes : NamespaceCodes) : ∃ c first second, .object c ∈ classes forms o services codes ∧
      c.kind = .complex ∧ c.inRole .element = [first, second] ∧
      first.xml = ⟨"a", some "urn:t"⟩ ∧ second.xml = ⟨"a", some "urn:u"⟩ := by
  have there : (contextOf o codes).types[TypeId.named twofoldName]? = some twofoldNode := by
    show o.graph.types[_]? = _
    rw [graph]
    exact getElem?_twofoldGraph.mpr ⟨rfl, rfl⟩
  have resolves : ∀ r ∈ twofoldNode.references, (contextOf o codes).Resolves r := by
    have references : twofoldNode.references = [.builtin .string, .builtin .string] := by cbv
    intro r hr
    rw [references] at hr
    simp only [List.mem_cons, List.not_mem_nil, or_false, or_self] at hr
    rw [hr]
    rfl
  obtain ⟨cls, hcls, keeps⟩ := ClassContext.keeps_typeClass? there (mem_classNames.mpr mem) resolves
  have listed : cls ∈ classes forms o services codes := mem_classes_of_typeClass? mem hcls
  cases cls with
  | object c =>
    obtain ⟨kind, members⟩ := keeps
    replace members : List.Forall₂ IsMemberOf [textParticle "urn:t", textParticle "urn:u"]
      c.members := members
    obtain ⟨first, rest, hfirst, more, whole⟩ := List.forall₂_cons_left_iff.mp members
    obtain ⟨second, others, hsecond, none, rfl⟩ := List.forall₂_cons_left_iff.mp more
    obtain rfl := List.forall₂_nil_left_iff.mp none
    have roles : first.role = .element ∧ second.role = .element := ⟨hfirst.role, hsecond.role⟩
    refine ⟨c, first, second, listed, (Option.some.inj kind).symm, ?_, hfirst.xml, hsecond.xml⟩
    rw [ObjectClass.inRole, whole]
    simp [roles]
  | enumeration e =>
    obtain ⟨_, _, kind, _⟩ := keeps
    cases kind
  | client _ | job _ | server _ => exact keeps.elim

theorem isPlain_twofold {first second : Member} (hfirst : first.xml = ⟨"a", some "urn:t"⟩)
    (hsecond : second.xml = ⟨"a", some "urn:u"⟩) :
    ∀ m ∈ [first, second], IsPlain m.xml.name := by
  have plain : IsPlain "a" := by simp [IsPlain]
  intro m hm
  simp only [List.mem_cons, List.not_mem_nil, or_false] at hm
  rcases hm with rfl | rfl
  · rwa [hfirst]
  · rwa [hsecond]

/-- A type refers to elements of one name in two namespaces. Both are members of its class, and a
value of the second is read as one of the first. -/
theorem not_readsBack_twofold : ∃ compilation c second,
    Compilation.ofDocuments keepingSettings twofoldDocuments = .ok compilation ∧
      .object c ∈ compilation.classes ∧ c.kind = .complex ∧
      (c.inRole .element)[1]? = some second ∧ ¬ ReadsBack .stdOptional c .element 1 second := by
  obtain ⟨i, o, compilation, hc, graph, mem, listed, _⟩ := ofDocuments_twofoldDocuments
  obtain ⟨c, first, second, hclass, kind, members, hfirst, hsecond⟩ :=
    exists_twofoldClass graph mem keepingSettings.forms i.services i.codes
  have at₀ : (c.inRole .element)[0]? = some first := by rw [members]; rfl
  have at₁ : (c.inRole .element)[1]? = some second := by rw [members]; rfl
  refine ⟨compilation, c, second, hc, listed ▸ hclass, kind, at₁, fun back => ?_⟩
  have plain : ∀ m ∈ c.inRole .element, IsPlain m.xml.name := by
    rw [members]
    exact isPlain_twofold hfirst hsecond
  refine (branch_iff .stdOptional at₁ plain).mp back.branch 0 first at₀ Nat.one_pos ?_
  rw [hfirst, hsecond]

/-- The first of the two elements is read back. -/
theorem readsBack_iff_twofold : ∃ compilation c first,
    Compilation.ofDocuments keepingSettings twofoldDocuments = .ok compilation ∧
      .object c ∈ compilation.classes ∧ (c.inRole .element)[0]? = some first ∧
      ReadsBack .stdOptional c .element 0 first := by
  obtain ⟨i, o, compilation, hc, graph, mem, listed, namespaces, wishes, codes⟩ :=
    ofDocuments_twofoldDocuments
  obtain ⟨c, first, second, hclass, _, members, hfirst, hsecond⟩ :=
    exists_twofoldClass graph mem keepingSettings.forms i.services i.codes
  have at₀ : (c.inRole .element)[0]? = some first := by rw [members]; rfl
  have plain : ∀ m ∈ c.inRole .element, IsPlain m.xml.name := by
    rw [members]
    exact isPlain_twofold hfirst hsecond
  refine ⟨compilation, c, first, hc, listed ▸ hclass, at₀, ?_⟩
  have role : MemberRole.element ≠ .content := nofun
  refine (readsBack_iff (codes ▸ hclass) .stdOptional role at₀ plain).mpr ?_
  exact fun j _ _ before => absurd before (Nat.not_lt_zero j)

end

end SoapBindings.Cpp
