import SoapBindings.Proofs.Tables
import SoapBindings.Services.Binding

/-!
# Valid operations

However a service comes about, it is a port type bound for some declaration
(`exists_yields_of_mem_services`), and each of its operations is bound by
`BindingContext.bindOperation`. What keeps a part from being generated is a problem of its
operation, so an operation without problems has no such part (`type_of_isValid`).

Of several declarations of one name the first counts and the others are passed over, whether they
are equal to it or not: so it is in the tables (`getElem?_firstOf`) and in the list of services
(`filter_distinct`). What a service is bound for has been declared, and its namespace is that of the
definitions of some document (`qualified_of_mem_services`).
-/

set_option autoImplicit false

namespace SoapBindings

open Wsdl

namespace Bound

variable {α β : Type}

theorem value_all (f : α → Bound β) (as : List α) :
    (all f as).value = as.map fun a => (f a).value := by
  rw [all, List.map_map]
  rfl

theorem mem_missing_all {f : α → Bound β} {as : List α} {r : Reference} :
    r ∈ (all f as).missing ↔ ∃ a ∈ as, r ∈ (f a).missing := by
  simp only [all, List.flatMap_map, List.mem_flatMap]

theorem mem_missing_option {f : α → Bound (Option β)} {a? : Option α} {r : Reference} :
    r ∈ (option f a?).missing ↔ ∃ a, a? = some a ∧ r ∈ (f a).missing := by
  cases a? with
  | none => simp [option]
  | some a => simp [option]

end Bound

namespace BindingContext

variable {c : BindingContext}

/-- The operation has been bound. -/
def IsBound (c : BindingContext) (op : BoundOperation) : Prop :=
  ∃ binding source, (c.bindOperation binding source).value = op

/-- All operations of the service have been bound. -/
def Binds (c : BindingContext) (service : BoundService) : Prop :=
  ∀ op ∈ service.operations, c.IsBound op

/-- A port type has been bound for what is declared under the name; the service is what came of
it. -/
def BoundFor (c : BindingContext) (name : QName) (service : BoundService) : Prop :=
  ∃ binding context start,
    (c.bindPortType binding context start).value = some service ∧ start.ns = name.ns

/-- The service came of a port type bound for the name, and what that found missing is among what
is missing. -/
def Yields (c : BindingContext) (name : QName) (service : BoundService)
    (missing : List Reference) : Prop :=
  ∃ binding context start, (c.bindPortType binding context start).value = some service ∧
    start.ns = name.ns ∧ ∀ r ∈ (c.bindPortType binding context start).missing, r ∈ missing

/-! ## From operations to services -/

section

variable {name : QName} {service : BoundService} {missing more : List Reference}

theorem Yields.boundFor (h : c.Yields name service missing) : c.BoundFor name service := by
  obtain ⟨binding, context, start, h, ns, _⟩ := h
  exact ⟨binding, context, start, h, ns⟩

theorem Yields.mono (h : c.Yields name service missing) (sub : ∀ r ∈ missing, r ∈ more) :
    c.Yields name service more := by
  obtain ⟨binding, context, start, h, ns, reported⟩ := h
  exact ⟨binding, context, start, h, ns, fun r hr => sub r (reported r hr)⟩

/-- The operations are those of the declared port type, each bound, and what is missing for one is
among what is missing. -/
theorem Yields.operations (h : c.Yields name service missing) : ∃ p binding,
    c.declared.portTypes[service.portType]? = some p ∧
      service.operations = p.operations.map (fun op => (c.bindOperation binding op).value) ∧
      ∀ op ∈ p.operations, ∀ r ∈ (c.bindOperation binding op).missing, r ∈ missing := by
  obtain ⟨binding, context, start, h, _, reported⟩ := h
  rw [bindPortType] at h reported
  split at h
  · cases h
  · next p hp =>
    cases h
    rw [hp] at reported
    exact ⟨p, binding, hp, Bound.value_all .., fun op hop r hr =>
      reported r (Bound.mem_missing_all.mpr ⟨op, hop, hr⟩)⟩

theorem BoundFor.binds (h : c.BoundFor name service) : c.Binds service := by
  obtain ⟨binding, context, start, h, _⟩ := h
  rw [bindPortType] at h
  split at h
  · cases h
  · next p _ =>
    cases h
    intro op hop
    obtain ⟨source, _, rfl⟩ := List.mem_map.mp (Bound.value_all .. ▸ hop)
    exact ⟨binding, source, rfl⟩

/-- Binding adds operations only. -/
theorem BoundFor.ns (h : c.BoundFor name service) : service.ns = name.ns := by
  obtain ⟨binding, context, start, h, same⟩ := h
  rw [bindPortType] at h
  split at h
  · cases h
  · cases h
    exact same

theorem yields_of_mem_bindPorts {s : Service} {bound : List QName} {ports : List Port}
    (h : service ∈ (c.bindPorts name s bound ports).value) :
    c.Yields name service (c.bindPorts name s bound ports).missing := by
  induction ports generalizing bound with
  | nil => cases h
  | cons port ports ih =>
    rw [bindPorts] at h ⊢
    split at h
    · exact (ih h).mono fun _ hr => List.mem_cons_of_mem _ hr
    · split at h
      · next passed =>
        rw [if_pos passed]
        exact ih h
      · next notPassed =>
        rw [if_neg notPassed]
        rcases List.mem_append.mp h with h | h
        · exact ⟨_, _, _, Option.mem_toList.mp h, rfl, fun _ hr => List.mem_append_left _ hr⟩
        · exact (ih h).mono fun _ hr => List.mem_append_right _ hr

/-- What one of a list yields is yielded by all. -/
theorem Yields.of_all {α β : Type} {f : α → Bound β} {as : List α} {a : α} (ha : a ∈ as)
    (h : c.Yields name service (f a).missing) : c.Yields name service (Bound.all f as).missing :=
  h.mono fun _ hr => Bound.mem_missing_all.mpr ⟨a, ha, hr⟩

/-- Without services the port types or their bindings are bound. -/
theorem exists_of_mem_bindWithoutServices (h : service ∈ c.bindWithoutServices.value) :
    ∃ name, c.Yields name service c.bindWithoutServices.missing ∧
      (name ∈ c.declared.portTypes ∨ name ∈ c.declared.bindings) := by
  rw [bindWithoutServices] at h ⊢
  obtain ⟨found, hfound, rfl⟩ := List.mem_filterMap.mp h
  split at hfound
  · next none =>
    rw [if_pos none]
    rw [Bound.value_all] at hfound
    obtain ⟨name, hname, hbound⟩ := List.mem_map.mp hfound
    exact ⟨name, .of_all hname ⟨_, _, _, hbound, rfl, fun _ hr => hr⟩,
      Or.inl (Std.ExtTreeMap.mem_keys.mp hname)⟩
  · next some =>
    rw [if_neg some]
    rw [Bound.value_all] at hfound
    obtain ⟨b, hb, hbound⟩ := List.mem_map.mp hfound
    have listed := Std.ExtTreeMap.mem_toList_iff_getElem?_eq_some.mp (List.mem_filter.mp hb).1
    exact ⟨b.1, .of_all hb ⟨_, _, _, hbound, rfl, fun _ hr => hr⟩,
      Or.inr (mem_of_getElem? listed)⟩

theorem mem_of_mem_selected {d : ServiceDeclarations} {wanted : Option String}
    {found : List (QName × Service)} (h : selected d wanted = .ok found) :
    ∀ s ∈ found, s ∈ d.services := by
  intro s hs
  cases wanted with
  | none =>
    cases h
    exact hs
  | some name =>
    rw [selected] at h
    split at h
    · next first hfirst =>
      cases h
      rw [List.mem_singleton.mp hs]
      exact List.mem_of_find?_eq_some hfirst
    · cases h

/-- However a service comes about, a port type has been bound for a declaration. -/
theorem exists_yields_of_mem_services {wanted : Option String} {bound : Bound (List BoundService)}
    (h : c.services wanted = .ok bound) (hs : service ∈ bound.value) :
    ∃ name, c.Yields name service bound.missing ∧ (name ∈ c.declared.portTypes ∨
      name ∈ c.declared.bindings ∨ ∃ s, (name, s) ∈ c.declared.services) := by
  rw [services] at h
  cases hsel : selected c.declared wanted with
  | error e =>
    rw [hsel] at h
    cases h
  | ok found =>
    rw [hsel] at h
    by_cases none : found.isEmpty
    · simp only [bind, Except.bind, none, if_true] at h
      cases h
      obtain ⟨name, made, portType | binding⟩ := exists_of_mem_bindWithoutServices hs
      · exact ⟨name, made, Or.inl portType⟩
      · exact ⟨name, made, Or.inr (Or.inl binding)⟩
    · simp only [bind, Except.bind, if_neg none] at h
      cases h
      obtain ⟨group, hgroup, hs⟩ := List.mem_flatten.mp hs
      rw [Bound.value_all] at hgroup
      obtain ⟨s, hfound, rfl⟩ := List.mem_map.mp hgroup
      have declared := mem_of_mem_selected hsel s hfound
      exact ⟨s.1, .of_all hfound (yields_of_mem_bindPorts hs), Or.inr (Or.inr ⟨s.2, declared⟩)⟩

theorem exists_of_mem_services {wanted : Option String} {bound : Bound (List BoundService)}
    (h : c.services wanted = .ok bound) (hs : service ∈ bound.value) :
    ∃ name, c.BoundFor name service ∧ (name ∈ c.declared.portTypes ∨ name ∈ c.declared.bindings ∨
      ∃ s, (name, s) ∈ c.declared.services) := by
  obtain ⟨name, made, declared⟩ := exists_yields_of_mem_services h hs
  exact ⟨name, made.boundFor, declared⟩

theorem binds_of_mem_services {wanted : Option String} {bound : Bound (List BoundService)}
    (h : c.services wanted = .ok bound) (hs : service ∈ bound.value) : c.Binds service := by
  obtain ⟨name, made, _⟩ := exists_of_mem_services h hs
  exact made.binds

end

/-! ## From operations to parts -/

/-- What is missing for an operation is what is missing for its messages. -/
theorem mem_missing_bindOperation {binding : Option Binding} {source : Operation} {r : Reference} :
    r ∈ (c.bindOperation binding source).missing ↔
      ∃ u ∈ messageUses source, r ∈ (c.bindMessage ("operation " ++ source.name) u).missing := by
  simp only [bindOperation, messageUses, List.mem_append, Bound.mem_missing_option,
    Bound.mem_missing_all, Option.mem_toList, or_and_right, exists_or]

/-- No binding and no port type is looked up for an operation. -/
theorem kind_of_mem_missing_bindOperation {binding : Option Binding} {source : Operation}
    {r : Reference} (h : r ∈ (c.bindOperation binding source).missing) :
    r.kind ≠ .binding ∧ r.kind ≠ .portType := by
  obtain ⟨u, _, h⟩ := mem_missing_bindOperation.mp h
  rw [bindMessage] at h
  split at h
  · obtain rfl := List.mem_singleton.mp h
    exact ⟨nofun, nofun⟩
  · obtain ⟨⟨_, content⟩, _, h⟩ := List.mem_flatMap.mp h
    cases content with
    | element name =>
      rw [partMissing] at h
      split at h
      · cases h
      · obtain rfl := List.mem_singleton.mp h
        exact ⟨nofun, nofun⟩
    | type name =>
      rw [partMissing] at h
      split at h
      · obtain rfl := List.mem_singleton.mp h
        exact ⟨nofun, nofun⟩
      · cases h

theorem exists_use_of_mem_messages {binding : Option Binding} {source : Operation}
    {m : BoundMessage} (h : m ∈ (c.bindOperation binding source).value.messages) :
    ∃ u ∈ messageUses source, (c.bindMessage ("operation " ++ source.name) u).value = some m := by
  have here : ∀ use? : Option MessageUse,
      (Bound.option (c.bindMessage ("operation " ++ source.name)) use?).value = some m →
      ∃ u, use? = some u ∧ (c.bindMessage ("operation " ++ source.name) u).value = some m := by
    intro use? hm
    cases use? with
    | none => cases hm
    | some u => exact ⟨u, rfl, hm⟩
  rcases List.mem_append.mp h with h | h
  · rcases List.mem_append.mp h with h | h
    · obtain ⟨u, hu, hm⟩ := here source.input (Option.mem_toList.mp h)
      exact ⟨u, by simp [messageUses, hu], hm⟩
    · obtain ⟨u, hu, hm⟩ := here source.output (Option.mem_toList.mp h)
      exact ⟨u, by simp [messageUses, hu], hm⟩
  · obtain ⟨found, hfound, rfl⟩ := List.mem_filterMap.mp h
    simp only [Bound.all, List.map_map, List.mem_map] at hfound
    obtain ⟨u, hu, hm⟩ := hfound
    exact ⟨u, by simp [messageUses, hu], hm⟩

theorem exists_part_of_bindMessage {context : String} {u : MessageUse} {m : BoundMessage}
    (h : (c.bindMessage context u).value = some m) {p : BoundPart} (hp : p ∈ m.parts) :
    ∃ part, c.bindPart part = p := by
  rw [bindMessage] at h
  split at h
  · cases h
  · cases h
    obtain ⟨part, _, rfl⟩ := List.mem_map.mp hp
    exact ⟨part, rfl⟩

variable {op : BoundOperation}

theorem exists_part (bound : c.IsBound op) {m : BoundMessage} (hm : m ∈ op.messages)
    {p : BoundPart} (hp : p ∈ m.parts) : ∃ part, c.bindPart part = p := by
  obtain ⟨binding, source, rfl⟩ := bound
  obtain ⟨u, _, hu⟩ := exists_use_of_mem_messages hm
  exact exists_part_of_bindMessage hu hp

/-- A problem of a part is one of its operation. -/
theorem partProblem?_eq_none (bound : c.IsBound op) (valid : op.isValid) {m : BoundMessage}
    (hm : m ∈ op.messages) {p : BoundPart} (hp : p ∈ m.parts) : c.partProblem? p = none := by
  obtain ⟨binding, source, rfl⟩ := bound
  obtain ⟨u, hu, hmessage⟩ := exists_use_of_mem_messages hm
  -- The operation has no problems, so none of its messages has one, and so none of their parts.
  have noProblem : patternProblems source.pattern ++
      (messageUses source).flatMap (c.messageProblems ("operation " ++ source.name)) = [] :=
    List.isEmpty_iff.mp valid
  have noMessageProblem : c.messageProblems ("operation " ++ source.name) u = [] :=
    List.flatMap_eq_nil_iff.mp (List.append_eq_nil_iff.mp noProblem).2 u hu
  rw [messageProblems, hmessage] at noMessageProblem
  exact List.filterMap_eq_nil_iff.mp noMessageProblem p hp

/-- A part of a valid operation has a built-in type or an untainted one. -/
theorem type_of_isValid (bound : c.IsBound op) (valid : op.isValid) {m : BoundMessage}
    (hm : m ∈ op.messages) {p : BoundPart} (hp : p ∈ m.parts) :
    (∃ b, p.type = .builtin b) ∨ ∃ id, p.type = .node id ∧ id ∉ c.tainted := by
  have noProblem := partProblem?_eq_none bound valid hm hp
  rw [partProblem?] at noProblem
  split at noProblem
  · cases noProblem
  · next id heq =>
    split at noProblem
    · cases noProblem
    · next untainted =>
      refine Or.inr ⟨id, heq, fun h => ?_⟩
      exact untainted (Std.ExtTreeSet.mem_iff_contains.mp h)
  · next b heq => exact Or.inl ⟨b, heq⟩

/-- The type that a part is bound to is in the graph. -/
theorem mem_of_partType (elements : ∀ (name : QName) (e : ElementNode),
      c.graph.elements[name]? = some e → ∀ id, e.type = .node id → id ∈ c.graph.types)
    {content : PartContent} {id : TypeId} (h : c.partType content = .node id) :
    id ∈ c.graph.types := by
  cases content with
  | element name =>
    rw [partType] at h
    split at h
    · next e he => exact elements name e he id h
    · cases h
  | type name =>
    rw [partType] at h
    split at h
    · cases h
    · split at h
      · next hname =>
        cases h
        exact Std.ExtTreeMap.mem_iff_contains.mpr hname
      · cases h

theorem mem_partTypes {r : TypeRef} :
    r ∈ op.partTypes ↔ ∃ m ∈ op.messages, ∃ p ∈ m.parts, p.type = r := by
  simp [BoundOperation.partTypes]

end BindingContext

/-! ## The declaration that counts -/

namespace ServiceDeclarations

variable {α : Type}

/-- The declaration that counts of those with a name: the first. -/
def firstNamed (declared : List (QName × α)) (name : QName) : Option α :=
  (declared.find? (·.1 == name)).map (·.2)

theorem getElem?_firstOf (declared : List (QName × α)) (name : QName) :
    (firstOf declared)[name]? = (declared.find? (·.1 == name)).map (·.2) := by
  -- Said for any table that has been filled before, as the fold hands it on.
  have more : ∀ table : NameTable α,
      (declared.foldl (fun table e => table.insertIfNew e.1 e.2) table)[name]? =
        (table[name]?).or ((declared.find? (·.1 == name)).map (·.2)) := by
    induction declared with
    | nil => simp
    | cons first declared ih =>
      intro table
      rw [List.foldl_cons, ih, Std.ExtTreeMap.getElem?_insertIfNew, List.find?_cons]
      by_cases same : first.1 = name
      · subst same
        cases htable : table[first.1]? with
        | none => simp [not_mem_of_getElem?_eq_none htable]
        | some a => simp [mem_of_getElem? htable]
      · have other : compare first.1 name ≠ .eq := by
          intro h
          exact same (Std.LawfulEqCmp.eq_of_compare h)
        simp [other, beq_false_of_ne same]
  unfold firstOf
  rw [more]
  simp

/-- No two services that are kept have one name, and the one that has it is the first. -/
theorem filter_distinct (declared : List (QName × α)) (name : QName) :
    (distinct declared).filter (·.1 == name) = (declared.find? (·.1 == name)).toList := by
  have more : ∀ kept : List (QName × α),
      (declared.foldl (fun kept e => if kept.any (·.1 == e.1) then kept else kept ++ [(e.1, e.2)])
        kept).filter (·.1 == name) =
      if kept.any (·.1 == name) then kept.filter (·.1 == name)
      else (declared.find? (·.1 == name)).toList := by
    induction declared with
    | nil =>
      intro kept
      rw [List.foldl_nil]
      split
      · rfl
      · next none =>
        rw [List.find?_nil, Option.toList_none, List.filter_eq_nil_iff]
        intro e he found
        exact none (List.any_eq_true.mpr ⟨e, he, found⟩)
    | cons first declared ih =>
      intro kept
      rw [List.foldl_cons, ih, List.find?_cons]
      by_cases same : first.1 = name
      · subst same
        by_cases taken : kept.any (·.1 == first.1)
        · simp only [if_pos taken]
        · have none : kept.filter (·.1 == first.1) = [] := by
            rw [List.filter_eq_nil_iff]
            intro e he found
            exact taken (List.any_eq_true.mpr ⟨e, he, found⟩)
          simp [if_neg taken, none]
      · have other := beq_false_of_ne same
        by_cases taken : kept.any (·.1 == first.1)
        · simp only [if_pos taken, other]
        · have last : (kept ++ [first]).any (·.1 == name) = kept.any (·.1 == name) := by
            rw [List.any_append, List.any_cons, List.any_nil, other, Bool.or_false, Bool.or_false]
          rw [if_neg taken, last, List.filter_append, List.filter_cons_of_neg (by simp [other])]
          simp [other]
  unfold distinct
  rw [more]
  simp

theorem mem_of_mem_firstOf {declared : List (QName × α)} {name : QName} {a : α}
    (h : (firstOf declared)[name]? = some a) : (name, a) ∈ declared := by
  rw [getElem?_firstOf, Option.map_eq_some_iff] at h
  obtain ⟨⟨other, _⟩, found, rfl⟩ := h
  have same := List.find?_some found
  obtain rfl : other = name := eq_of_beq same
  exact List.mem_of_find?_eq_some found

theorem mem_of_mem_distinct {declared : List (QName × α)} {e : QName × α}
    (h : e ∈ distinct declared) : e ∈ declared := by
  have kept : e ∈ (distinct declared).filter (·.1 == e.1) :=
    List.mem_filter.mpr ⟨h, beq_self_eq_true _⟩
  rw [filter_distinct, Option.mem_toList] at kept
  exact List.mem_of_find?_eq_some kept

/-- The name of a declaration is in the namespace of the definitions that it stands in. -/
theorem qualified_of_mem {ds : Documents} {of : Document → List α} {nameOf : α → String}
    {e : QName × α}
    (h : e ∈ ds.inOrder.flatMap fun d => (of d).map fun a => (d.qualify (nameOf a), a)) :
    ∃ d ∈ ds.inOrder, e.1.ns = d.targetNamespace := by
  obtain ⟨d, hd, he⟩ := List.mem_flatMap.mp h
  obtain ⟨a, _, rfl⟩ := List.mem_map.mp he
  exact ⟨d, hd, rfl⟩

end ServiceDeclarations

/-- However a service comes about, it is in the namespace of the definitions of a document. -/
theorem BindingContext.qualified_of_mem_services {ds : Documents} {graph : TypeGraph}
    {wanted : Option String} {bound : Bound (List BoundService)}
    (h : (BindingContext.of ds graph).services wanted = .ok bound) {service : BoundService}
    (hs : service ∈ bound.value) : ∃ d ∈ ds.inOrder, service.ns = d.targetNamespace := by
  obtain ⟨name, made, declared⟩ := exists_of_mem_services h hs
  rw [made.ns]
  rcases declared with hname | hname | ⟨s, hname⟩
  · obtain ⟨p, hp⟩ := exists_getElem?_of_mem hname
    exact ServiceDeclarations.qualified_of_mem (ServiceDeclarations.mem_of_mem_firstOf hp)
  · obtain ⟨b, hb⟩ := exists_getElem?_of_mem hname
    exact ServiceDeclarations.qualified_of_mem (ServiceDeclarations.mem_of_mem_firstOf hb)
  · exact ServiceDeclarations.qualified_of_mem (ServiceDeclarations.mem_of_mem_distinct hname)

end SoapBindings
