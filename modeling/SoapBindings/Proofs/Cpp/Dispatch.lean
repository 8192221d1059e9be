import SoapBindings.Proofs.Cpp.Messages

/-!
# The branch that a request takes

A server asks for the name of a request, branch by branch, and each branch ends the processing. So a
request is answered by the first branch for its name and by no other (`branchesRun_definitions`).
The name of a request is that of its only part, or else that of the operation (`sentName?_makes`),
and these are the names that branches are for. An operation is reached exactly where no operation
before it has the same name: operations of one name, and operations that take the same element, hide
each other.
-/

set_option autoImplicit false

namespace SoapBindings.Cpp

open Text

/-! ## Branches of a server -/

/-- The name that a branch is for, if the line opens one. -/
def testedName? (line : String) : Option (List Char) :=
  (after? "    if (method == ".toList line.toList).bind firstLiteral?

/-- The branch that the lines begin in ends the processing. -/
def returns (lines : List String) : Bool :=
  (lines.takeWhile (· != "    \x7d")).contains "        return;"

/-- The branches that are run for a request of the name, counted from `i`. A branch that does not
return leaves the request to those behind it. -/
def branchesRun (name : List Char) (i : Nat) : List String → List Nat
  | [] => []
  | line :: lines =>
    match testedName? line with
    | none => branchesRun name i lines
    | some tested =>
      if tested = name then i :: if returns lines then [] else branchesRun name (i + 1) lines
      else branchesRun name (i + 1) lines

section

variable {name : List Char} {i : Nat}

theorem branchesRun_append {lines : List String} (h : ∀ line ∈ lines, testedName? line = none)
    (rest : List String) : branchesRun name i (lines ++ rest) = branchesRun name i rest := by
  induction lines with
  | nil => rfl
  | cons line lines ih =>
    obtain ⟨first, others⟩ := List.forall_mem_cons.mp h
    rw [List.cons_append, branchesRun, first]
    exact ih others

/-- Lines within a branch stand deeper than what opens and closes branches. -/
theorem exists_deeper {lines : List String} {line : String}
    (h : line ∈ indented (indented lines)) :
    ∃ inner ∈ lines, line = "    " ++ ("    " ++ inner) := by
  obtain ⟨outer, houter, rfl⟩ := List.mem_map.mp h
  obtain ⟨inner, hinner, rfl⟩ := List.mem_map.mp houter
  exact ⟨inner, hinner, rfl⟩

theorem testedName?_deeper (lines : List String) :
    ∀ line ∈ indented (indented lines), testedName? line = none := by
  intro line hline
  obtain ⟨inner, _, rfl⟩ := exists_deeper hline
  rw [testedName?, String.toList_append, String.toList_append]
  rfl

theorem returns_deeper (lines rest : List String) :
    returns (indented (indented (lines ++ ["return;"])) ++ "    \x7d" :: rest) := by
  have deeper : ∀ line ∈ indented (indented (lines ++ ["return;"])),
      (line != "    \x7d") = true := by
    intro line hline
    obtain ⟨inner, _, rfl⟩ := exists_deeper hline
    rw [bne_iff_ne, ne_eq, ← String.toList_inj, String.toList_append, String.toList_append]
    exact nofun
  have last : "        return;" ∈ indented (indented (lines ++ ["return;"])) := by
    simp [indented]
  rw [returns, List.takeWhile_append_of_pos deeper, List.contains_iff_mem]
  exact List.mem_append_left _ last

/-- The branch of an operation: the line that asks for its name, and what ends with returning. -/
theorem exists_branch (m : CallMethod) : ∃ opening body,
    indented (ServerClass.dispatch m) =
      opening :: (indented (indented (body ++ ["return;"])) ++ ["    \x7d"]) ∧
    opening.toList = "    if (method == ".toList ++
      ((comparedName (ServerClass.dispatchName m.call)).toList ++ ") \x7b".toList) := by
  have branch {condition : String} (body : List String) : indented (ifThen condition body) =
      ("    " ++ ("if (" ++ condition ++ ") \x7b")) ::
        (indented (indented body) ++ ["    \x7d"]) := by
    rw [ifThen, block, List.cons_append, indented, List.map_cons, List.map_append]
    rfl
  refine ⟨_, _, branch _, ?_⟩
  simp only [toString, String.toList_append, List.append_assoc]
  rfl

theorem testedName?_opening {opening name : String} (plain : IsPlain name)
    (h : opening.toList =
      "    if (method == ".toList ++ ((comparedName name).toList ++ ") \x7b".toList)) :
    testedName? opening = some name.toList := by
  rw [testedName?, h, after?_append, Option.bind_some, firstLiteral?_comparedName plain]

theorem testedName?_closing : testedName? "    \x7d" = none := rfl

theorem branchesRun_dispatch {m : CallMethod} (plain : IsPlain (ServerClass.dispatchName m.call))
    (rest : List String) :
    branchesRun name i (indented (ServerClass.dispatch m) ++ rest) =
      if (ServerClass.dispatchName m.call).toList = name then [i]
      else branchesRun name (i + 1) rest := by
  obtain ⟨opening, body, branch, hopening⟩ := exists_branch m
  -- A branch for another name is passed over: what stands in it opens no branch.
  have behind : branchesRun name (i + 1)
      (indented (indented (body ++ ["return;"])) ++ "    \x7d" :: rest) =
        branchesRun name (i + 1) rest := by
    rw [branchesRun_append (testedName?_deeper _), branchesRun, testedName?_closing]
  rw [branch, List.cons_append, List.append_assoc, List.singleton_append, branchesRun,
    testedName?_opening plain hopening]
  simp only [returns_deeper, if_true, behind]

/-- The first branch for the name is run, and no other. -/
theorem branchesRun_branches {operations : List CallMethod}
    (plain : ∀ m ∈ operations, IsPlain (ServerClass.dispatchName m.call)) {rest : List String}
    (none : ∀ line ∈ rest, testedName? line = none) :
    branchesRun name i (indented (operations.flatMap ServerClass.dispatch) ++ rest) =
      ((operations.findIdx? fun m => (ServerClass.dispatchName m.call).toList = name).map
        (i + ·)).toList := by
  induction operations generalizing i with
  | nil =>
    have last : branchesRun name i (rest ++ []) = [] := branchesRun_append none []
    rw [List.append_nil] at last
    exact last
  | cons m operations ih =>
    obtain ⟨first, others⟩ := List.forall_mem_cons.mp plain
    have split : indented ((m :: operations).flatMap ServerClass.dispatch) ++ rest =
        indented (ServerClass.dispatch m) ++
          (indented (operations.flatMap ServerClass.dispatch) ++ rest) := by
      rw [List.flatMap_cons, indented, List.map_append, List.append_assoc]
      rfl
    rw [split, branchesRun_dispatch first, ih others, List.findIdx?_cons]
    by_cases same : (ServerClass.dispatchName m.call).toList = name
    · simp [same]
    · simp [same, Option.map_map, Function.comp_def, Nat.add_assoc, Nat.add_comm 1]

theorem testedNames_dispatch {m : CallMethod} (plain : IsPlain (ServerClass.dispatchName m.call)) :
    (indented (ServerClass.dispatch m)).filterMap testedName? =
      [(ServerClass.dispatchName m.call).toList] := by
  obtain ⟨opening, body, branch, hopening⟩ := exists_branch m
  have inner : (indented (indented (body ++ ["return;"]))).filterMap testedName? = [] :=
    List.filterMap_eq_nil_iff.mpr (testedName?_deeper _)
  rw [branch, List.filterMap_cons, testedName?_opening plain hopening, List.filterMap_append, inner]
  rfl

end

/-! ## The definition of a server -/

namespace ServerClass

variable {c : ServerClass} {name : List Char}

/-- Around the branches, no line opens one. -/
theorem exists_around (word : IsWord c.name.toList) : ∃ before after,
    c.definitions = before ++ (indented (c.operations.flatMap dispatch) ++ after) ∧
      (∀ line ∈ before, testedName? line = none) ∧ ∀ line ∈ after, testedName? line = none := by
  let signature := s!"void {c.name}::processRequest(const KDSoapMessage& request, " ++
    "KDSoapMessage& response, const QByteArray& soapAction)"
  have named (rest : String) : testedName? (c.name ++ rest) = none := by
    obtain ⟨d, ds, hd⟩ := List.exists_cons_of_ne_nil word.nonempty
    have solid : ' ' ≠ d := by
      rintro rfl
      exact word.not_mem (by decide) (hd ▸ List.mem_cons_self)
    rw [testedName?, String.toList_append, hd, List.cons_append]
    exact congrArg (Option.bind · firstLiteral?) (after?_of_ne solid _ _)
  have void (rest : String) : testedName? ("void " ++ rest) = none := by
    rw [testedName?, String.toList_append]
    rfl
  refine ⟨[s!"{c.name}::{c.name}() = default;", "", signature, "\x7b",
      "    const QString method = request.name();"],
    ["    KDSoapServerObjectInterface::processRequest(request, response, soapAction);", "\x7d", ""],
    ?_, ?_, ?_⟩
  · simp [definitions, definition, braces, block, indented, signature]
  · simp only [List.forall_mem_cons, signature, toString, String.append_assoc]
    exact ⟨named _, rfl, void _, rfl, rfl, List.forall_mem_nil _⟩
  · simp only [List.forall_mem_cons]
    exact ⟨rfl, rfl, rfl, List.forall_mem_nil _⟩

/-- A request is answered by the first branch for its name, and by no other. -/
theorem branchesRun_definitions (word : IsWord c.name.toList)
    (plain : ∀ m ∈ c.operations, IsPlain (dispatchName m.call)) :
    branchesRun name 0 c.definitions =
      (c.operations.findIdx? fun m => (dispatchName m.call).toList = name).toList := by
  obtain ⟨before, after, whole, none, none'⟩ := exists_around word
  rw [whole, branchesRun_append none, branchesRun_branches plain none']
  simp

/-- The names that the branches are for are those of the operations, in their order. -/
theorem testedNames_definitions (word : IsWord c.name.toList)
    (plain : ∀ m ∈ c.operations, IsPlain (dispatchName m.call)) :
    c.definitions.filterMap testedName? =
      c.operations.map fun m => (dispatchName m.call).toList := by
  obtain ⟨before, after, whole, none, none'⟩ := exists_around word
  rw [whole, List.filterMap_append, List.filterMap_append, List.filterMap_eq_nil_iff.mpr none,
    List.filterMap_eq_nil_iff.mpr none', List.nil_append, List.append_nil]
  generalize c.operations = operations at plain
  induction operations with
  | nil => rfl
  | cons m operations ih =>
    obtain ⟨first, others⟩ := List.forall_mem_cons.mp plain
    rw [List.flatMap_cons, indented, List.map_append, List.filterMap_append, ← indented,
      ← indented, testedNames_dispatch first, ih others]
    rfl

end ServerClass

/-! ## Requests -/

/-- The name that the whole message gets. -/
def Put.whole? : Put → Option (List Char)
  | .whole name => some name
  | .child _ => none

/-- The name of the request that a text sends: that of its message or, if this has none, that of the
call. -/
def sentName? (lines : List String) : Option (List Char) :=
  ((found (put? "message") lines).findSome? (·.whole?)).or (found invoked? lines).head?

/-- A request has the name that the branch for its operation asks for. -/
theorem sentName?_makes {text : CallText} {call : Call} (h : text.Makes call) :
    sentName? text.lines = some (ServerClass.dispatchName call).toList := by
  rw [sentName?, h.puts, h.calls]
  by_cases whole : IsWhole call.style call.request
  · obtain ⟨style, single⟩ := whole
    obtain ⟨part, hpart⟩ := List.length_eq_one_iff.mp single
    simp [ServerClass.dispatchName, style, hpart, putsOf, partTarget, PartTarget.put, Put.whole?]
  · have children : (putsOf call.style call.request).findSome? (·.whole?) = none := by
      rw [List.findSome?_eq_none_iff]
      intro put hput
      obtain ⟨part, _, rfl⟩ := List.mem_map.mp hput
      rw [partTarget_eq, if_neg whole]
      rfl
    have name : ServerClass.dispatchName call = call.operation := by
      unfold ServerClass.dispatchName
      split
      · next part style single => exact absurd ⟨style, by rw [single]; rfl⟩ whole
      · rfl
    rw [children, name]
    rfl

/-- The server side has a branch for each call, and the client side sends requests of the names that
these ask for. The branch for a call is run for its requests exactly where no call before it has the
name. -/
structure SidesReach (style : OptionalStyle) (calls : List Call) (client server : List Class) :
    Prop where
  tested : (server.flatMap (·.definitions style)).filterMap testedName? =
    calls.map fun call => (ServerClass.dispatchName call).toList
  reached : ∀ (k : Nat) (call : Call), calls[k]? = some call → ∀ text ∈ callTexts client k,
    ∃ name, sentName? text.lines = some name ∧
      (branchesRun name 0 (server.flatMap (·.definitions style)) = [k] ↔
        ∀ earlier ∈ calls.take k,
          ServerClass.dispatchName earlier ≠ ServerClass.dispatchName call)

theorem findIdx?_dispatchName {calls : List Call} {call : Call} {k : Nat}
    (h : calls[k]? = some call) :
    (calls.findIdx? fun c => (ServerClass.dispatchName c).toList =
        (ServerClass.dispatchName call).toList).toList = [k] ↔
      ∀ earlier ∈ calls.take k,
        ServerClass.dispatchName earlier ≠ ServerClass.dispatchName call := by
  obtain ⟨hk, rfl⟩ := List.getElem?_eq_some_iff.mp h
  have only {index : Option Nat} : index.toList = [k] ↔ index = some k := by
    cases index with
    | none => simp
    | some i => simp
  rw [only, List.findIdx?_eq_some_iff_getElem]
  simp only [hk, decide_true, true_and, exists_true_left, decide_eq_true_eq, String.toList_inj]
  constructor
  · intro none earlier hearlier
    obtain ⟨j, hj, rfl⟩ := List.mem_take_iff_getElem.mp hearlier
    exact none j (by omega)
  · exact fun none j hj => none _ (List.mem_take_iff_getElem.mpr ⟨j, by omega, rfl⟩)

theorem isPlain_dispatchName {call : Call} (plain : call.IsPlain)
    (operation : IsPlain call.operation) : IsPlain (ServerClass.dispatchName call) := by
  unfold ServerClass.dispatchName
  split
  · next part _ single => exact (plain part (by simp [single])).name
  · exact operation

/-- Classes that carry the same calls, on the side of the client and on that of the server. -/
theorem sidesReach (style : OptionalStyle) {forms forms' : ServiceForms} {calls : List Call}
    {client server : List Class} (isClient : forms.server = false)
    (isServer : forms'.server = true) (h : ClassesCarry forms calls client)
    (h' : ClassesCarry forms' calls server)
    (plain : ∀ call ∈ calls, call.IsPlain ∧ IsPlain call.operation) :
    SidesReach style calls client server := by
  rw [ClassesCarry, isServer, if_pos rfl] at h'
  obtain ⟨c, rfl, word, operations⟩ := h'
  -- The branches are found by the calls of the server's own methods, and these are the same calls.
  have same : c.operations.map (·.call) = calls := by
    have equal : List.Forall₂ (· = ·) calls (c.operations.map (·.call)) :=
      List.forall₂_map_right_iff.mpr (operations.imp fun _ _ carries => carries.ofCall.symm)
    rw [List.forall₂_eq_eq_eq] at equal
    exact equal.symm
  have whole : [Class.server c].flatMap (·.definitions style) = c.definitions :=
    List.flatMap_singleton ..
  have plain' : ∀ m ∈ c.operations, IsPlain (ServerClass.dispatchName m.call) := by
    intro m hm
    obtain ⟨parts, operation⟩ := plain m.call (same ▸ List.mem_map_of_mem hm)
    exact isPlain_dispatchName parts operation
  constructor
  · rw [whole, ServerClass.testedNames_definitions word plain', ← same, List.map_map]
    rfl
  · intro k call hcall text htext
    have makes := (makes_callTexts isClient h hcall (plain call (List.mem_of_getElem? hcall)).1).2
      text htext
    refine ⟨_, sentName?_makes makes, ?_⟩
    rw [whole, ServerClass.branchesRun_definitions word plain', ← findIdx?_dispatchName hcall,
      ← same, List.findIdx?_map]
    rfl

/-! ## All services -/

section

variable (forms : ServiceForms) (o : OrderedGraph) (services : List BoundService)
  (namespaces : List String) (wishes : NamespaceCodes.Wishes)

/-- For every service, the requests of the client for an operation are answered by the branch for
it, and by no other, exactly where no operation before it has the same name of requests. -/
theorem sidesReach_classes (style : OptionalStyle)
    (plain : ∀ s ∈ services, ∀ op ∈ s.validOperations, IsPlain op.name ∧
      ∀ p ∈ (callOf o namespaces wishes s op).request ++
        (callOf o namespaces wishes s op).response, IsPlain p.xml.name) :
    ∃ sides : List (List Class × List Class),
      classes { forms with server := false } o services (.ofNamespaces namespaces wishes) =
        o.order.filterMap (contextOf o (.ofNamespaces namespaces wishes)).typeClass? ++
          (sides.map Prod.fst).flatten ∧
      classes { forms with server := true } o services (.ofNamespaces namespaces wishes) =
        o.order.filterMap (contextOf o (.ofNamespaces namespaces wishes)).typeClass? ++
          (sides.map Prod.snd).flatten ∧
      List.Forall₂ (fun s side => SidesReach style
        (s.validOperations.map (callOf o namespaces wishes s)) side.1 side.2) services sides := by
  obtain ⟨sides, listed, listed', both⟩ := exists_sides forms o services namespaces wishes
  refine ⟨sides, listed, listed', both.imp fun s side ⟨hs, client, server⟩ => ?_⟩
  refine sidesReach style rfl rfl client server fun call hcall => ?_
  obtain ⟨op, hop, rfl⟩ := List.mem_map.mp hcall
  obtain ⟨operation, parts⟩ := plain s hs op hop
  exact ⟨isPlain_callOf o namespaces wishes parts, operation⟩

end

/-! ## Two operations that take one element -/

theorem isPlain_operations_relay : ∀ op ∈ relayService.validOperations, IsPlain op.name := by
  intro op hop
  replace hop : op ∈ [_, _, _] := hop
  simp only [List.mem_cons, List.not_mem_nil, or_false] at hop
  rcases hop with rfl | rfl | rfl
  all_goals simp [IsPlain, relayBound, relayMove]

/-- A request to stop is not answered by the branch for it, since one to start has the same
name. -/
theorem not_reached_relay : ∃ client server : Compilation,
    Compilation.ofDocuments keepingSettings relayDocuments = .ok client ∧
      Compilation.ofDocuments { keepingSettings with server := true } relayDocuments = .ok server ∧
      ∃ text ∈ callTexts client.classes 1, ∃ name, sentName? text.lines = some name ∧
        branchesRun name 0 (server.classes.flatMap (·.definitions .stdOptional)) ≠ [1] := by
  obtain ⟨o, namespaces, wishes, order, compiled⟩ := exists_compilation_relay
  obtain ⟨client, hclient, listed⟩ := compiled false
  obtain ⟨server, hserver, listed'⟩ := compiled true
  have carry := listed ▸ carries_relay o namespaces wishes order ⟨false, true, true, true⟩
  have carry' := listed' ▸ carries_relay o namespaces wishes order ⟨true, true, true, true⟩
  have parts (op : BoundOperation) (hop : op ∈ relayService.validOperations) :=
    isPlain_callOf o namespaces wishes (plain_relay o namespaces wishes op hop)
  have reach := sidesReach .stdOptional rfl rfl carry carry' fun call hcall => by
    obtain ⟨op, hop, rfl⟩ := List.mem_map.mp hcall
    exact ⟨parts op hop, isPlain_operations_relay op hop⟩
  have length := (makes_callTexts rfl carry (k := 1) rfl (parts _ (by decide))).1
  obtain ⟨text, htext⟩ := List.exists_mem_of_length_pos (length.trans_gt (by decide))
  obtain ⟨name, sent, first⟩ := reach.reached 1 _ rfl text htext
  refine ⟨client, server, hclient, hserver, text, htext, name, sent, fun own => ?_⟩
  exact first.mp own _ List.mem_cons_self rfl

/-- A request to move is answered by its own branch. -/
theorem sidesReach_relay : ∃ client server : Compilation,
    Compilation.ofDocuments keepingSettings relayDocuments = .ok client ∧
      Compilation.ofDocuments { keepingSettings with server := true } relayDocuments = .ok server ∧
      ∃ text ∈ callTexts client.classes 2, ∃ name, sentName? text.lines = some name ∧
        branchesRun name 0 (server.classes.flatMap (·.definitions .stdOptional)) = [2] := by
  obtain ⟨o, namespaces, wishes, order, compiled⟩ := exists_compilation_relay
  obtain ⟨client, hclient, listed⟩ := compiled false
  obtain ⟨server, hserver, listed'⟩ := compiled true
  obtain ⟨sides, clients, servers, each⟩ := sidesReach_classes ⟨false, true, true, true⟩ o
    [relayService] namespaces wishes .stdOptional fun s hs op hop => by
      obtain rfl := List.mem_singleton.mp hs
      exact ⟨isPlain_operations_relay op hop, plain_relay o namespaces wishes op hop⟩
  have reach := holds_relay o order (listed.trans clients) (listed'.trans servers) each
  have length := (makes_callTexts rfl (listed ▸ carries_relay o namespaces wishes order _)
    (k := 2) rfl (isPlain_callOf o namespaces wishes
      (plain_relay o namespaces wishes relayMove (by decide)))).1
  obtain ⟨text, htext⟩ := List.exists_mem_of_length_pos (length.trans_gt (by decide))
  obtain ⟨name, sent, first⟩ := reach.reached 2 _ rfl text htext
  refine ⟨client, server, hclient, hserver, text, htext, name, sent, ?_⟩
  refine first.mpr fun earlier hearlier => ?_
  have other : "a" ≠ "move" := by decide
  replace hearlier : earlier ∈ [_, _] := hearlier
  simp only [List.mem_cons, List.not_mem_nil, or_false] at hearlier
  rcases hearlier with rfl | rfl
  · exact other
  · exact other

end SoapBindings.Cpp
