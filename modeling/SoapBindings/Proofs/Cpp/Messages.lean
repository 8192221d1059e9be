import SoapBindings.Proofs.Cpp.Exchanges
import SoapBindings.Proofs.Cpp.ReadingBack

/-!
# Messages between client and server

The texts of a client put the parts of a request into a message and take those of the response out
of the reply, and the branch of the server for the call does the reverse (`makes_callTexts`,
`exchanges_branchText`). The two sides meet in the parts of the call. A part is put behind all parts
before it, but it is taken from the first child of its local name, so the sides agree on a part
exactly where no part before it has that name (`sidesMeet_classes`). Nothing keeps the parts of a
message from having one local name, and `not_agree_relay` is such a message.
-/

set_option autoImplicit false

namespace SoapBindings.Cpp

/-! ## Places in a message -/

/-- Where a value stands in a message. -/
inductive Place where
  /-- The message is the value. -/
  | message
  /-- The value is a child, counted from the first. -/
  | child (index : Nat)
  deriving DecidableEq

/-- The name of the child that a message gets. -/
def Put.child? : Put → Option (List Char)
  | .whole _ => none
  | .child name => some name

/-- The names of the children of a message that is filled so. -/
def childNames (ps : List Put) : List (List Char) := ps.filterMap (·.child?)

/-- Where the value stands that is put into a message at `i`: each child behind those before it. -/
def placeOfPut? (ps : List Put) (i : Nat) : Option Place :=
  ps[i]?.map fun
    | .whole _ => .message
    | .child _ => .child (childNames (ps.take i)).length

/-- Where a value is taken from in a message that is filled so. -/
def placeOfGot? (ps : List Put) : Got → Option Place
  | .whole => some .message
  | .child name => ((childNames ps).findIdx? (· = name)).map .child

/-- The value at `i` is taken from the place where the one at `i` was put. -/
def AgreeAt (ps : List Put) (gs : List Got) (i : Nat) : Prop :=
  ∃ got place, gs[i]? = some got ∧ placeOfGot? ps got = some place ∧ placeOfPut? ps i = some place

/-- The part is the whole message, or no part before it has its local name. -/
def FoundByName (style : Wsdl.Style) (parts : List PartValue) (i : Nat) : Prop :=
  IsWhole style parts ∨ ∀ p ∈ parts.take i, ∀ q ∈ parts[i]?, p.xml.name ≠ q.xml.name

/-- What parts put into a message, if they are its children. -/
def childPuts (parts : List PartValue) : List Put := parts.map (.child ·.xml.name.toList)

theorem childNames_childPuts (parts : List PartValue) :
    childNames (childPuts parts) = parts.map (·.xml.name.toList) := by
  rw [childNames, childPuts, List.filterMap_map]
  exact congrFun List.filterMap_eq_map parts

section

variable {style : Wsdl.Style} {parts : List PartValue} {i : Nat}

theorem placeOfPut?_childPuts (hi : i < parts.length) :
    placeOfPut? (childPuts parts) i = some (.child i) := by
  have before : (childPuts parts).take i = childPuts (parts.take i) := List.map_take.symm
  rw [placeOfPut?, before, childNames_childPuts]
  simp [childPuts, hi, Nat.min_eq_left hi.le]

theorem placeOfGot?_childPuts (hi : i < parts.length) :
    placeOfGot? (childPuts parts) (.child parts[i].xml.name.toList) = some (.child i) ↔
      ∀ p ∈ parts.take i, p.xml.name ≠ parts[i].xml.name := by
  have first : placeOfGot? (childPuts parts) (.child parts[i].xml.name.toList) = some (.child i) ↔
      ∀ (j : Nat) (hj : j < i), parts[j].xml.name ≠ parts[i].xml.name := by
    rw [placeOfGot?, childNames_childPuts, Option.map_eq_some_iff]
    simp only [Place.child.injEq, exists_eq_right, List.findIdx?_eq_some_iff_getElem]
    simp [hi, String.toList_inj]
  rw [first]
  constructor
  · intro none p hp
    obtain ⟨j, hj, rfl⟩ := List.mem_take_iff_getElem.mp hp
    exact none j (by omega)
  · exact fun none j hj => none _ (List.mem_take_iff_getElem.mpr ⟨j, by omega, rfl⟩)

theorem agreeAt_parts (hi : i < parts.length) :
    AgreeAt (putsOf style parts) (gotsOf style parts) i ↔ FoundByName style parts i := by
  by_cases whole : IsWhole style parts
  · obtain ⟨part, rfl⟩ := List.length_eq_one_iff.mp whole.2
    obtain rfl : i = 0 := Nat.lt_one_iff.mp hi
    have written : putsOf style [part] = [.whole part.xml.name.toList] := by
      simp [putsOf, partTarget_eq, whole, PartTarget.put]
    have read : gotsOf style [part] = [.whole] := by
      simp [gotsOf, partSource_eq, whole, PartSource.got]
    rw [written, read]
    exact ⟨fun _ => Or.inl whole, fun _ => ⟨.whole, .message, rfl, rfl, rfl⟩⟩
  · have written : putsOf style parts = childPuts parts := by
      simp [putsOf, childPuts, partTarget_eq, whole, PartTarget.put]
    have read : (gotsOf style parts)[i]? = some (.child parts[i].xml.name.toList) := by
      simp [gotsOf, partSource_eq, whole, PartSource.got, hi]
    have found : FoundByName style parts i ↔
        placeOfGot? (childPuts parts) (.child parts[i].xml.name.toList) = some (.child i) := by
      rw [placeOfGot?_childPuts hi, FoundByName, or_iff_right whole]
      simp [hi]
    -- What is put at `i` is child `i` in any case, so all depends on which child is taken.
    rw [found, written]
    constructor
    · rintro ⟨got, place, hgot, taken, put⟩
      obtain rfl := Option.some.inj (hgot.symm.trans read)
      rw [taken, ← put, placeOfPut?_childPuts hi]
    · exact fun taken => ⟨_, _, read, taken, placeOfPut?_childPuts hi⟩

end

/-! ## Texts of calls -/

/-- A text that makes a call, and the variable that the reply is in. -/
structure CallText where
  lines : List String
  reply : String

def ClientOperation.callTexts (className : String) (o : ClientOperation) : List CallText :=
  o.sync.toList.map (fun m => ⟨m.syncDefinition className, "m_lastReply"⟩) ++
    o.async.toList.map fun m => ⟨m.asyncDefinition className, "reply"⟩

/-- The text of a job. -/
def Class.jobText? : Class → Option CallText
  | .job c => some ⟨definition s!"void {c.name}::start()" c.start, "reply"⟩
  | _ => none

/-- The texts of a client and its jobs that make the call at `k`. -/
def callTexts (classes : List Class) (k : Nat) : List CallText :=
  match classes with
  | .client c :: jobs =>
    c.operations[k]?.toList.flatMap (·.callTexts c.name) ++ jobs[k]?.toList.filterMap (·.jobText?)
  | _ => []

/-- The branch of a server that answers the call at `k`. -/
def branchText (classes : List Class) (k : Nat) : List String :=
  match classes with
  | [.server c] => c.operations[k]?.toList.flatMap ServerClass.dispatch
  | _ => []

/-- The server reads a part of the request where the text writes it. -/
def RequestAgreesAt (text : CallText) (branch : List String) (i : Nat) : Prop :=
  AgreeAt (found (put? "message") text.lines) (found (got? "request") branch) i

/-- The text reads a part of the response where the server writes it. -/
def ResponseAgreesAt (text : CallText) (branch : List String) (i : Nat) : Prop :=
  AgreeAt (found (put? "response") branch) (found (got? text.reply) text.lines) i

/-- The client side has a text for each way of making the call, the server side a branch that
answers it, and these agree on a part exactly where it is found by its name. -/
structure SidesMeet (style : OptionalStyle) (forms : ServiceForms) (call : Call) (k : Nat)
    (client server : List Class) : Prop where
  texts : (callTexts client k).length = [forms.sync, forms.async, forms.jobs].count true
  called : ∀ text ∈ callTexts client k, text.lines <:+: client.flatMap (·.definitions style)
  answered : indented (branchText server k) <:+: server.flatMap (·.definitions style)
  request : ∀ text ∈ callTexts client k, ∀ i < call.request.length,
    RequestAgreesAt text (branchText server k) i ↔ FoundByName call.style call.request i
  response : ∀ text ∈ callTexts client k, ∀ i < call.answer.length,
    ResponseAgreesAt text (branchText server k) i ↔ FoundByName call.style call.answer i

section

variable {forms : ServiceForms} {calls : List Call} {classes : List Class} {call : Call} {k : Nat}

theorem getElem?_of_forall₂ {α β : Type} {R : α → β → Prop} {as : List α} {bs : List β}
    (h : List.Forall₂ R as bs) {a : α} (ha : as[k]? = some a) : ∃ b, bs[k]? = some b ∧ R a b := by
  obtain ⟨hk, rfl⟩ := List.getElem?_eq_some_iff.mp ha
  have hk' : k < bs.length := h.length_eq ▸ hk
  exact ⟨bs[k], List.getElem?_eq_getElem hk', h.get hk hk'⟩

/-- The text fills the request of the call, calls the operation and reads the answer. -/
def CallText.Makes (call : Call) (text : CallText) : Prop :=
  Exchanges "message" text.reply text.lines (putsOf call.style call.request)
    (gotsOf call.style call.answer) [call.operation.toList]

/-- What is there if it is wanted is there as often as it is wanted. -/
theorem length_toList_of_wanted {α : Type} {R : α → Prop} {wanted : Bool} {a? : Option α}
    (h : if wanted then ∃ a, a? = some a ∧ R a else a? = none) :
    a?.toList.length = [wanted].count true ∧ ∀ a ∈ a?.toList, R a := by
  cases wanted with
  | true =>
    obtain ⟨a, rfl, ha⟩ := h
    exact ⟨rfl, fun b hb => List.mem_singleton.mp hb ▸ ha⟩
  | false =>
    obtain rfl : a? = none := h
    exact ⟨rfl, nofun⟩

theorem ClientOperation.Carries.callTexts {o : ClientOperation} (h : o.Carries forms call)
    (plain : call.IsPlain) {className : String} (cls : IsWord className.toList) :
    (o.callTexts className).length = [forms.sync, forms.async].count true ∧
      ∀ text ∈ o.callTexts className, text.Makes call := by
  have sync := length_toList_of_wanted h.sync
  have async := length_toList_of_wanted h.async
  constructor
  · rw [ClientOperation.callTexts, List.length_append, List.length_map, List.length_map, sync.1,
      async.1, ← List.count_append]
    rfl
  · intro text htext
    rcases List.mem_append.mp htext with htext | htext
    · obtain ⟨m, hm, rfl⟩ := List.mem_map.mp htext
      exact CallMethod.exchanges_syncDefinition (sync.2 m hm) plain cls
    · obtain ⟨m, hm, rfl⟩ := List.mem_map.mp htext
      exact AsyncMethod.exchanges_asyncDefinition (async.2 m hm) plain cls

/-- The texts of the client side make the call. -/
theorem makes_callTexts (client : forms.server = false) (h : ClassesCarry forms calls classes)
    (hcall : calls[k]? = some call) (plain : call.IsPlain) :
    (callTexts classes k).length = [forms.sync, forms.async, forms.jobs].count true ∧
      ∀ text ∈ callTexts classes k, text.Makes call := by
  rw [ClassesCarry, client, if_neg Bool.false_ne_true] at h
  obtain ⟨c, jobs, rfl, word, operations, each⟩ := h
  obtain ⟨o, ho, carries⟩ := getElem?_of_forall₂ operations hcall
  obtain ⟨length, make⟩ := carries.callTexts plain word
  -- There are jobs for all calls or for none.
  have job : (jobs[k]?.toList.filterMap (·.jobText?)).length = [forms.jobs].count true ∧
      ∀ text ∈ jobs[k]?.toList.filterMap (·.jobText?), text.Makes call := by
    split at each
    · next wanted =>
      obtain ⟨cls, hcls, job, rfl, _, carries⟩ := getElem?_of_forall₂ each hcall
      rw [hcls, wanted]
      refine ⟨rfl, fun text htext => ?_⟩
      obtain rfl := List.mem_singleton.mp htext
      exact JobClass.exchanges_start carries plain
    · next unwanted =>
      rw [List.forall₂_nil_left_iff.mp each, Bool.eq_false_of_not_eq_true unwanted]
      exact ⟨rfl, nofun⟩
  have texts : callTexts (.client c :: jobs) k =
      o.callTexts c.name ++ jobs[k]?.toList.filterMap (·.jobText?) := by
    rw [callTexts, ho]
    exact congrArg (· ++ _) (List.flatMap_singleton _ o)
  rw [texts, List.length_append, length, job.1, ← List.count_append]
  refine ⟨rfl, fun text htext => ?_⟩
  rcases List.mem_append.mp htext with htext | htext
  · exact make text htext
  · exact job.2 text htext

theorem exchanges_branchText (server : forms.server = true)
    (h : ClassesCarry forms calls classes) (hcall : calls[k]? = some call) (plain : call.IsPlain) :
    Exchanges "response" "request" (branchText classes k) (putsOf call.style call.answer)
      (gotsOf call.style call.request) := by
  rw [ClassesCarry, server, if_pos rfl] at h
  obtain ⟨c, rfl, _, operations⟩ := h
  obtain ⟨m, hm, carries⟩ := getElem?_of_forall₂ operations hcall
  rw [branchText, hm]
  exact (List.flatMap_singleton _ m).symm ▸ ServerClass.exchanges_dispatch carries plain

theorem infix_flatMap {α β : Type} (f : α → List β) {a : α} {as : List α} (h : a ∈ as) :
    f a <:+: as.flatMap f :=
  List.infix_of_mem_flatten (List.mem_map_of_mem h)

/-- The texts stand in the definitions of the classes. -/
theorem infix_callTexts (style : OptionalStyle) (classes : List Class) (k : Nat) :
    ∀ text ∈ callTexts classes k, text.lines <:+: classes.flatMap (·.definitions style) := by
  intro text htext
  unfold callTexts at htext
  split at htext
  · next c jobs =>
    rcases List.mem_append.mp htext with htext | htext
    · obtain ⟨o, ho, htext⟩ := List.mem_flatMap.mp htext
      have ofOperation : text.lines <:+: c.operationDefinitions o := by
        rcases List.mem_append.mp htext with htext | htext
        · obtain ⟨m, hm, rfl⟩ := List.mem_map.mp htext
          exact (infix_flatMap (CallMethod.syncDefinition c.name) hm).trans
            (List.prefix_append _ _).isInfix
        · obtain ⟨m, hm, rfl⟩ := List.mem_map.mp htext
          exact (infix_flatMap (AsyncMethod.asyncDefinition c.name) hm).trans
            (List.suffix_append _ _).isInfix
      have operation : c.operationDefinitions o <:+: c.operations.flatMap c.operationDefinitions :=
        infix_flatMap _ (List.mem_of_getElem? (Option.mem_toList.mp ho))
      have client : c.operations.flatMap c.operationDefinitions <:+: c.definitions :=
        (List.suffix_append _ _).isInfix
      have listed : c.definitions <:+: (.client c :: jobs).flatMap (·.definitions style) :=
        (List.prefix_append _ _).isInfix
      exact ofOperation.trans (operation.trans (client.trans listed))
    · obtain ⟨cls, hcls, htext⟩ := List.mem_filterMap.mp htext
      have listed : cls ∈ jobs := List.mem_of_getElem? (Option.mem_toList.mp hcls)
      refine List.IsInfix.trans ?_ (infix_flatMap _ (List.mem_cons_of_mem _ listed))
      cases cls with
      | job c =>
        obtain rfl := Option.some.inj htext
        exact (List.suffix_append _ _).isInfix
      | object _ | enumeration _ | client _ | server _ => cases htext
  · cases htext

theorem infix_branchText (style : OptionalStyle) (classes : List Class) (k : Nat) :
    indented (branchText classes k) <:+: classes.flatMap (·.definitions style) := by
  unfold branchText
  split
  · next c =>
    cases hm : c.operations[k]? with
    | none => exact List.nil_infix
    | some m =>
      have branch : ServerClass.dispatch m <:+: c.operations.flatMap ServerClass.dispatch :=
        infix_flatMap _ (List.mem_of_getElem? hm)
      have server : indented (ServerClass.dispatch m) <:+: c.definitions :=
        (infix_definition (branch.trans ⟨["const QString method = request.name();"], _, rfl⟩)
          _).trans (List.suffix_append _ _).isInfix
      have whole : [Class.server c].flatMap (·.definitions style) = c.definitions :=
        List.flatMap_singleton ..
      rw [whole]
      exact (List.flatMap_singleton _ m).symm ▸ server
  · exact List.nil_infix

end

/-! ## Both sides -/

/-- Classes that carry the same calls, on the side of the client and on that of the server, meet. -/
theorem sidesMeet (style : OptionalStyle) {forms forms' : ServiceForms} {calls : List Call}
    {client server : List Class} {call : Call} {k : Nat} (isClient : forms.server = false)
    (isServer : forms'.server = true) (h : ClassesCarry forms calls client)
    (h' : ClassesCarry forms' calls server) (hcall : calls[k]? = some call)
    (plain : call.IsPlain) : SidesMeet style forms call k client server := by
  obtain ⟨length, make⟩ := makes_callTexts isClient h hcall plain
  have branch := exchanges_branchText isServer h' hcall plain
  refine ⟨length, infix_callTexts style client k, infix_branchText style server k, ?_, ?_⟩
  · intro text htext i hi
    rw [RequestAgreesAt, (make text htext).puts, branch.gots]
    exact agreeAt_parts hi
  · intro text htext i hi
    rw [ResponseAgreesAt, branch.puts, (make text htext).gots]
    exact agreeAt_parts hi

section

variable (forms : ServiceForms) (o : OrderedGraph) (services : List BoundService)
  (namespaces : List String) (wishes : NamespaceCodes.Wishes)

/-- The call of an operation, as classes make it that are generated for the types in the order. -/
def callOf (s : BoundService) (op : BoundOperation) : Call :=
  (contextOf o (.ofNamespaces namespaces wishes)).call s op

theorem isPlain_callOf {s : BoundService} {op : BoundOperation}
    (plain : ∀ p ∈ (callOf o namespaces wishes s op).request ++
      (callOf o namespaces wishes s op).response, IsPlain p.xml.name) :
    (callOf o namespaces wishes s op).IsPlain :=
  fun p hp => ⟨ClassContext.isSpelled_part (named_contextOf o namespaces wishes) hp, plain p hp⟩

theorem exists_pairs_of_forall₂ {α β γ : Type} {R : α → β → Prop} {S : α → γ → Prop} {as : List α}
    {bs : List β} {cs : List γ} (h : List.Forall₂ R as bs) (h' : List.Forall₂ S as cs) :
    ∃ pairs : List (β × γ), pairs.map Prod.fst = bs ∧ pairs.map Prod.snd = cs ∧
      List.Forall₂ (fun a pair => R a pair.1 ∧ S a pair.2) as pairs := by
  induction h generalizing cs with
  | nil =>
    obtain rfl := List.forall₂_nil_left_iff.mp h'
    exact ⟨[], rfl, rfl, .nil⟩
  | cons first _ ih =>
    obtain ⟨c, rest, hc, hrest, rfl⟩ := List.forall₂_cons_left_iff.mp h'
    obtain ⟨pairs, rfl, rfl, each⟩ := ih hrest
    exact ⟨(_, c) :: pairs, rfl, rfl, .cons ⟨first, hc⟩ each⟩

/-- Each service has classes on the side of the client and on that of the server, and both carry
its calls. -/
theorem exists_sides : ∃ sides : List (List Class × List Class),
    classes { forms with server := false } o services (.ofNamespaces namespaces wishes) =
      o.order.filterMap (contextOf o (.ofNamespaces namespaces wishes)).typeClass? ++
        (sides.map Prod.fst).flatten ∧
    classes { forms with server := true } o services (.ofNamespaces namespaces wishes) =
      o.order.filterMap (contextOf o (.ofNamespaces namespaces wishes)).typeClass? ++
        (sides.map Prod.snd).flatten ∧
    List.Forall₂ (fun s side => s ∈ services ∧
      ClassesCarry { forms with server := false }
        (s.validOperations.map (callOf o namespaces wishes s)) side.1 ∧
      ClassesCarry { forms with server := true }
        (s.validOperations.map (callOf o namespaces wishes s)) side.2) services sides := by
  obtain ⟨clients, listed, carry⟩ :=
    carries_classes { forms with server := false } o services namespaces wishes
  obtain ⟨servers, listed', carry'⟩ :=
    carries_classes { forms with server := true } o services namespaces wishes
  obtain ⟨sides, rfl, rfl, both⟩ := exists_pairs_of_forall₂ carry carry'
  refine ⟨sides, listed, listed', ?_⟩
  rw [List.forall₂_iff_get] at both ⊢
  exact ⟨both.1, fun i hs hside => ⟨List.get_mem services _, both.2 i hs hside⟩⟩

/-- For every service, client and server are generated one for the other: each call of a valid
operation agrees with the server on a part exactly where the part is the whole message or no part
before it has its local name. -/
theorem sidesMeet_classes (style : OptionalStyle)
    (plain : ∀ s ∈ services, ∀ op ∈ s.validOperations,
      ∀ p ∈ (callOf o namespaces wishes s op).request ++
        (callOf o namespaces wishes s op).response, IsPlain p.xml.name) :
    ∃ sides : List (List Class × List Class),
      classes { forms with server := false } o services (.ofNamespaces namespaces wishes) =
        o.order.filterMap (contextOf o (.ofNamespaces namespaces wishes)).typeClass? ++
          (sides.map Prod.fst).flatten ∧
      classes { forms with server := true } o services (.ofNamespaces namespaces wishes) =
        o.order.filterMap (contextOf o (.ofNamespaces namespaces wishes)).typeClass? ++
          (sides.map Prod.snd).flatten ∧
      List.Forall₂ (fun s side => ∀ (k : Nat) (op : BoundOperation),
        s.validOperations[k]? = some op → SidesMeet style forms
          (callOf o namespaces wishes s op) k side.1 side.2) services sides := by
  obtain ⟨sides, listed, listed', both⟩ := exists_sides forms o services namespaces wishes
  refine ⟨sides, listed, listed', both.imp fun s side ⟨hs, client, server⟩ k op hop => ?_⟩
  have parts := isPlain_callOf o namespaces wishes (plain s hs op (List.mem_of_getElem? hop))
  have hcall : (s.validOperations.map (callOf o namespaces wishes s))[k]? =
      some (callOf o namespaces wishes s op) := by
    rw [List.getElem?_map, hop]
    rfl
  have meet := sidesMeet style rfl rfl client server hcall parts
  exact ⟨meet.texts, meet.called, meet.answered, meet.request, meet.response⟩

end

/-! ## Two parts of one element -/

section

open Schema TypeGraph Relation

def relayOperation (name message : String) (answered : Bool) : Wsdl.Operation where
  name := name
  documentation := none
  input := some ⟨none, ⟨"urn:t", message⟩⟩
  output := if answered then some ⟨none, ⟨"urn:t", message⟩⟩ else none
  faults := []
  pattern := if answered then .requestResponse else .oneWay

def relayDocuments : Documents := ⟨[{ schemaWith "urn:t" [] with
  kind := .wsdl
  messages := [
    ⟨"One", [⟨"x", .element ⟨"urn:t", "a"⟩⟩]⟩,
    ⟨"Two", [⟨"x", .element ⟨"urn:t", "a"⟩⟩, ⟨"y", .element ⟨"urn:t", "a"⟩⟩]⟩]
  portTypes := [⟨"P", [relayOperation "start" "One" false, relayOperation "stop" "One" false,
    relayOperation "move" "Two" true]⟩] }]⟩

def relaySymbols : Symbols :=
  { Symbols.empty with
    elements := Symbols.empty.elements.insert ⟨"urn:t", "a"⟩
      ⟨textElement "urn:t", "urn:t", default⟩ }

def relayGraph : TypeGraph := draft relaySymbols (AnonymousPaths.ofSymbols relaySymbols)

theorem ofDocuments_relayDocuments : Symbols.ofDocuments relayDocuments = .ok relaySymbols := rfl

theorem ofSymbols_relaySymbols : ofSymbols relaySymbols =
    .ok (relayGraph, missing relaySymbols (AnonymousPaths.ofSymbols relaySymbols)) := by
  have noCycle : relayGraph.types.keys.findSome? (cycleOf? relayGraph.types) = none := by cbv
  rw [relayGraph] at noCycle
  simp only [ofSymbols, noCycle]
  rfl

def relayPart (name : String) : BoundPart := ⟨name, some ⟨"urn:t", "a"⟩, .builtin .string⟩

def relayMessage (name : String) (parts : List String) : BoundMessage :=
  ⟨⟨"urn:t", name⟩, parts.map relayPart⟩

def relayBound (name : String) (m : BoundMessage) (answered : Bool) : BoundOperation where
  name := name
  documentation := none
  pattern := if answered then .requestResponse else .oneWay
  soapAction := none
  style := .document
  bodyUse := .literal
  input := some m
  output := if answered then some m else none
  faults := []
  problems := []

/-- The operation whose messages have two parts. -/
def relayMove : BoundOperation := relayBound "move" (relayMessage "Two" ["x", "y"]) true

def relayService : BoundService where
  service := "P"
  port := "P"
  ns := "urn:t"
  portType := ⟨"urn:t", "P"⟩
  binding := none
  protocol := none
  address := none
  documentation := none
  operations := [
    relayBound "start" (relayMessage "One" ["x"]) false,
    relayBound "stop" (relayMessage "One" ["x"]) false, relayMove]

theorem services_relayDocuments :
    (BindingContext.of relayDocuments relayGraph).services keepingSettings.choices.service =
      .ok ⟨[relayService], []⟩ := by cbv

theorem not_mem_relayGraph (id : TypeId) : id ∉ relayGraph.types := by
  have none : allEntries relaySymbols = [] := by cbv
  intro h
  obtain ⟨e, he, _⟩ := mem_draft.mp h
  rw [← allEntries, none] at he
  cases he

/-- The documents are compiled, for a client and for a server, to the classes of the service. -/
theorem exists_compilation_relay : ∃ (o : OrderedGraph) (namespaces : List String)
    (wishes : NamespaceCodes.Wishes), o.order = [] ∧ ∀ server, ∃ compilation,
      Compilation.ofDocuments { keepingSettings with server := server } relayDocuments =
        .ok compilation ∧
      compilation.classes = classes ⟨server, true, true, true⟩ o [relayService]
        (.ofNamespaces namespaces wishes) := by
  obtain ⟨i, hi, graph, services⟩ := Interface.ofDocuments_of_stages ofDocuments_relayDocuments
    ofSymbols_relaySymbols services_relayDocuments
  have acyclic : ∀ a, ¬ TransGen i.graph.NeedsComplete a a := by
    intro a cycle
    obtain ⟨b, ⟨_, n, need, hn, _⟩, _⟩ := TransGen.head'_iff.mp cycle
    exact not_mem_relayGraph _ (mem_of_getElem? (graph ▸ hn))
  obtain ⟨o, ho, ordered⟩ : ∃ o, OrderedGraph.ofGraph i.graph i.codes = .ok o ∧ o.graph = i.graph :=
    OrderedGraph.ofGraph_of_acyclic acyclic
  have order : o.order = [] := List.eq_nil_iff_forall_not_mem.mpr fun id hid =>
    not_mem_relayGraph id (graph ▸ ordered ▸ (OrderedGraph.mem_order ho).mp hid)
  obtain ⟨namespaces, wishes, codes⟩ : ∃ namespaces wishes,
      i.codes = .ofNamespaces namespaces wishes := ⟨_, _, Interface.codes_ofDocuments hi⟩
  refine ⟨o, namespaces, wishes, order, fun server => ?_⟩
  let s : Settings := { keepingSettings with server := server }
  obtain ⟨compilation, hc⟩ := Compilation.ofDocuments_of_stages (s := s) hi ho
  obtain ⟨whole, o', hwhole, ho', listed⟩ := Compilation.ofDocuments_eq_ok hc
  obtain rfl := Except.ok.inj (hi.symm.trans hwhole)
  obtain rfl := Except.ok.inj (ho.symm.trans ho')
  refine ⟨compilation, hc, listed.trans ?_⟩
  show classes s.forms o i.services i.codes = _
  rw [services, codes]
  rfl

section

variable (o : OrderedGraph) (namespaces : List String) (wishes : NamespaceCodes.Wishes)

/-- There are no classes but those of the service. -/
theorem carries_relay (order : o.order = []) (forms : ServiceForms) : ClassesCarry forms
    (relayService.validOperations.map (callOf o namespaces wishes relayService))
    (classes forms o [relayService] (.ofNamespaces namespaces wishes)) := by
  obtain ⟨ofServices, listed, carry⟩ := carries_classes forms o [relayService] namespaces wishes
  obtain ⟨side, none, carries, rest, rfl⟩ := List.forall₂_cons_left_iff.mp carry
  obtain rfl := List.forall₂_nil_left_iff.mp rest
  rw [listed, order, List.filterMap_nil, List.nil_append, List.flatten_singleton]
  exact carries

/-- What holds of the two sides of each service holds of all classes. -/
theorem holds_relay {R : BoundService → List Class × List Class → Prop}
    {typeClass : TypeId → Option Class} {sides : List (List Class × List Class)}
    {clients servers : List Class} (order : o.order = [])
    (hclients : clients = o.order.filterMap typeClass ++ (sides.map Prod.fst).flatten)
    (hservers : servers = o.order.filterMap typeClass ++ (sides.map Prod.snd).flatten)
    (each : List.Forall₂ R [relayService] sides) : R relayService (clients, servers) := by
  obtain ⟨side, others, holds, none, rfl⟩ := List.forall₂_cons_left_iff.mp each
  obtain rfl := List.forall₂_nil_left_iff.mp none
  rw [hclients, hservers, order]
  simpa using holds

/-- The value of the element. -/
def relayValue : PartValue := ⟨⟨"a", some "urn:t"⟩, ⟨"QString", .builtin .string⟩⟩

theorem plain_relay : ∀ op ∈ relayService.validOperations,
    ∀ p ∈ (callOf o namespaces wishes relayService op).request ++
      (callOf o namespaces wishes relayService op).response, IsPlain p.xml.name := by
  have plain : IsPlain relayValue.xml.name := by simp [IsPlain, relayValue]
  intro op hop p hp
  have same : p = relayValue := by
    replace hop : op ∈ [_, _, _] := hop
    simp only [List.mem_cons, List.not_mem_nil, or_false] at hop
    rcases hop with rfl | rfl | rfl
    · exact List.mem_singleton.mp hp
    · exact List.mem_singleton.mp hp
    · replace hp : p ∈ [relayValue, relayValue, relayValue, relayValue] := hp
      simpa using hp
  rwa [same]

end

/-- The second part of a message does not agree: on both sides it is read where the first is
written. -/
theorem not_agree_relay : ∃ client server : Compilation,
    Compilation.ofDocuments keepingSettings relayDocuments = .ok client ∧
      Compilation.ofDocuments { keepingSettings with server := true } relayDocuments = .ok server ∧
      ∃ text ∈ callTexts client.classes 2,
        ¬ RequestAgreesAt text (branchText server.classes 2) 1 ∧
        ¬ ResponseAgreesAt text (branchText server.classes 2) 1 := by
  obtain ⟨o, namespaces, wishes, order, compiled⟩ := exists_compilation_relay
  obtain ⟨client, hclient, listed⟩ := compiled false
  obtain ⟨server, hserver, listed'⟩ := compiled true
  have shadowed : ¬ FoundByName .document [relayValue, relayValue] 1 := by
    simp [FoundByName, IsWhole]
  have meet : SidesMeet .stdOptional _ (callOf o namespaces wishes relayService relayMove) 2
      client.classes server.classes :=
    sidesMeet .stdOptional rfl rfl (listed ▸ carries_relay o namespaces wishes order _)
      (listed' ▸ carries_relay o namespaces wishes order _) rfl
      (isPlain_callOf o namespaces wishes (plain_relay o namespaces wishes relayMove (by decide)))
  obtain ⟨text, htext⟩ := List.exists_mem_of_length_pos (meet.texts.trans_gt (by decide))
  refine ⟨client, server, hclient, hserver, text, htext, ?_, ?_⟩
  · exact fun agrees => shadowed ((meet.request text htext 1 Nat.one_lt_two).mp agrees)
  · exact fun agrees => shadowed ((meet.response text htext 1 Nat.one_lt_two).mp agrees)

/-- The first part agrees. -/
theorem sidesMeet_relay : ∃ client server : Compilation,
    Compilation.ofDocuments keepingSettings relayDocuments = .ok client ∧
      Compilation.ofDocuments { keepingSettings with server := true } relayDocuments = .ok server ∧
      ∃ text ∈ callTexts client.classes 2,
        RequestAgreesAt text (branchText server.classes 2) 0 := by
  obtain ⟨o, namespaces, wishes, order, compiled⟩ := exists_compilation_relay
  obtain ⟨client, hclient, listed⟩ := compiled false
  obtain ⟨server, hserver, listed'⟩ := compiled true
  have plain : ∀ s ∈ [relayService], ∀ op ∈ s.validOperations,
      ∀ p ∈ (callOf o namespaces wishes s op).request ++
        (callOf o namespaces wishes s op).response, IsPlain p.xml.name := by
    intro s hs
    obtain rfl := List.mem_singleton.mp hs
    exact plain_relay o namespaces wishes
  obtain ⟨sides, clients, servers, each⟩ := sidesMeet_classes ⟨false, true, true, true⟩ o
    [relayService] namespaces wishes .stdOptional plain
  have meet := holds_relay o order (listed.trans clients) (listed'.trans servers) each 2 relayMove
    rfl
  obtain ⟨text, htext⟩ := List.exists_mem_of_length_pos (meet.texts.trans_gt (by decide))
  refine ⟨client, server, hclient, hserver, text, htext, ?_⟩
  exact (meet.request text htext 0 Nat.two_pos).mpr (Or.inr nofun)

end

end SoapBindings.Cpp
