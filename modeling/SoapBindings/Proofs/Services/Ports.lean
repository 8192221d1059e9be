import SoapBindings.Proofs.Interface.Conflicts

/-!
# Services at their ports

A service is bound at those of its ports that are the first to offer a port type through SOAP
(`services_of_selected`). The loop over the ports keeps the port types that it has come to, and the
listing of services the names that it has kept; both look for what is new at a place (`NewAt`), and
what a step leaves for the next ones is said once (`newAt_cons_succ`). What a step over a port does
is said in one place as well (`PortStep`), and gives both what is bound and what is missing.
-/

set_option autoImplicit false

namespace SoapBindings

open Wsdl

/-! ## One for each place -/

section

variable {ι β γ : Type}

/-- One for each place at which `P` holds, in the order of the places. `R` says what each has to do
with its place. -/
def OneForEach (before : ι → ι → Prop) (P : ι → Prop) (R : ι → β → Prop) (bs : List β) : Prop :=
  ∃ places : List ι, places.Pairwise before ∧ (∀ i, i ∈ places ↔ P i) ∧ List.Forall₂ R places bs

namespace OneForEach

section

variable {before : ι → ι → Prop} {P Q : ι → Prop} {R : ι → β → Prop} {S : ι → γ → Prop}
  {bs : List β}

theorem nil (none : ∀ i, ¬ P i) : OneForEach before P R [] :=
  ⟨[], .nil, fun i => by simp [none i], .nil⟩

theorem imp {R' : ι → β → Prop} (h : OneForEach before P R bs) (each : ∀ i b, R i b → R' i b) :
    OneForEach before P R' bs := by
  obtain ⟨places, sorted, mem, related⟩ := h
  exact ⟨places, sorted, mem, related.imp fun i b => each i b⟩

theorem map {f : β → γ} (h : OneForEach before P (fun i b => S i (f b)) bs) :
    OneForEach before P S (bs.map f) := by
  obtain ⟨places, sorted, mem, related⟩ := h
  exact ⟨places, sorted, mem, List.forall₂_map_right_iff.mpr related⟩

theorem congr (h : OneForEach before P R bs) (same : ∀ i, P i ↔ Q i) :
    OneForEach before Q R bs := by
  obtain ⟨places, sorted, mem, related⟩ := h
  exact ⟨places, sorted, fun i => (mem i).trans (same i), related⟩

theorem exists_mem (h : OneForEach before P R bs) {i : ι} (hi : P i) : ∃ b ∈ bs, R i b := by
  obtain ⟨places, _, mem, related⟩ := h
  obtain ⟨k, hk, rfl⟩ := List.mem_iff_getElem.mp ((mem i).mpr hi)
  have bound : k < bs.length := related.length_eq ▸ hk
  exact ⟨bs[k], List.getElem_mem bound, related.get hk bound⟩

theorem exists_place (h : OneForEach before P R bs) {b : β} (hb : b ∈ bs) : ∃ i, P i ∧ R i b := by
  obtain ⟨places, _, mem, related⟩ := h
  obtain ⟨k, hk, rfl⟩ := List.mem_iff_getElem.mp hb
  have bound : k < places.length := related.length_eq ▸ hk
  exact ⟨places[k], (mem _).mp (List.getElem_mem bound), related.get bound hk⟩

end

/-- A list that has something for the first place or nothing, and then for those behind it. -/
theorem step {P : Nat → Prop} {R : Nat → β → Prop} {bs : List β} (here : Option β)
    (rest : OneForEach (· < ·) (fun i => P (i + 1)) (fun i => R (i + 1)) bs)
    (absent : here = none → ¬ P 0) (present : ∀ b, here = some b → P 0 ∧ R 0 b) :
    OneForEach (· < ·) P R (here.toList ++ bs) := by
  obtain ⟨places, sorted, mem, related⟩ := rest
  have behind : (places.map (· + 1)).Pairwise (· < ·) :=
    List.pairwise_map.mpr (sorted.imp Nat.succ_lt_succ)
  have related : List.Forall₂ R (places.map (· + 1)) bs := List.forall₂_map_left_iff.mpr related
  have memSucc (i : Nat) : i + 1 ∈ places.map (· + 1) ↔ P (i + 1) := by simpa using mem i
  have notZero : 0 ∉ places.map (· + 1) := by simp
  cases here with
  | none =>
    refine ⟨_, behind, fun i => ?_, related⟩
    cases i with
    | zero => exact iff_of_false notZero (absent rfl)
    | succ i => exact memSucc i
  | some b =>
    obtain ⟨here, own⟩ := present b rfl
    refine ⟨0 :: places.map (· + 1), ?_, fun i => ?_, .cons own related⟩
    · refine List.pairwise_cons.mpr ⟨fun i hi => ?_, behind⟩
      exact Nat.pos_of_ne_zero fun zero => notZero (zero ▸ hi)
    · cases i with
      | zero => exact iff_of_true List.mem_cons_self here
      | succ i => simpa using memSucc i

variable {P : Nat → Prop} {Q : Nat → Nat → Prop} {R : Nat × Nat → β → Prop}
  {groups : List (List β)}

/-- The places of all groups, those of one group behind those of the groups before it. -/
theorem exists_places_flatten {is : List Nat} (sorted : is.Pairwise (· < ·))
    (related : List.Forall₂ (fun i => OneForEach (· < ·) (Q i) fun j => R (i, j)) is groups) :
    ∃ places : List (Nat × Nat), places.Pairwise (Prod.Lex (· < ·) (· < ·)) ∧
      (∀ place, place ∈ places ↔ place.1 ∈ is ∧ Q place.1 place.2) ∧
      List.Forall₂ R places groups.flatten := by
  induction related with
  | nil => exact ⟨[], .nil, by simp, .nil⟩
  | @cons i group is groups own _ ih =>
    obtain ⟨later, sorted⟩ := List.pairwise_cons.mp sorted
    obtain ⟨js, sortedJs, memJs, relatedJs⟩ := own
    obtain ⟨places, sortedPlaces, memPlaces, relatedPlaces⟩ := ih sorted
    have memOwn (place : Nat × Nat) :
        place ∈ js.map (i, ·) ↔ place.1 = i ∧ Q place.1 place.2 := by
      obtain ⟨k, j⟩ := place
      simp only [List.mem_map, Prod.mk.injEq, memJs]
      constructor
      · rintro ⟨j', hj, rfl, rfl⟩
        exact ⟨rfl, hj⟩
      · rintro ⟨rfl, hj⟩
        exact ⟨j, hj, rfl, rfl⟩
    refine ⟨js.map (i, ·) ++ places, List.pairwise_append.mpr ⟨?_, sortedPlaces, ?_⟩, ?_, ?_⟩
    · exact List.pairwise_map.mpr (sortedJs.imp fun before => .right i before)
    · intro a ha b hb
      obtain ⟨j, _, rfl⟩ := List.mem_map.mp ha
      exact .left _ _ (later b.1 ((memPlaces b).mp hb).1)
    · intro place
      rw [List.mem_append, memOwn, memPlaces, List.mem_cons, or_and_right]
    · exact List.rel_append (List.forall₂_map_left_iff.mpr relatedJs) relatedPlaces

theorem flatten
    (h : OneForEach (· < ·) P (fun i => OneForEach (· < ·) (Q i) fun j => R (i, j)) groups) :
    OneForEach (Prod.Lex (· < ·) (· < ·)) (fun place => P place.1 ∧ Q place.1 place.2) R
      groups.flatten := by
  obtain ⟨is, sorted, mem, related⟩ := h
  obtain ⟨places, sortedPlaces, memPlaces, relatedPlaces⟩ := exists_places_flatten sorted related
  exact ⟨places, sortedPlaces, fun place => (memPlaces place).trans (by rw [mem]), relatedPlaces⟩

end OneForEach

end

/-! ## First places -/

section

variable {α κ : Type} {f : α → Option κ} {seen : List κ} {a : α} {as : List α} {i : Nat} {k : κ}

/-- The first place that has the key. -/
def FirstAt (f : α → Option κ) (as : List α) (i : Nat) (k : κ) : Prop :=
  as[i]?.bind f = some k ∧ ∀ j < i, as[j]?.bind f ≠ some k

/-- The first place that has the key, and the key has not been seen before. -/
def NewAt (f : α → Option κ) (seen : List κ) (as : List α) (i : Nat) (k : κ) : Prop :=
  FirstAt f as i k ∧ k ∉ seen

theorem exists_firstAt (h : ∃ a ∈ as, f a = some k) : ∃ i, FirstAt f as i k := by
  classical
  have found : ∃ i : Nat, as[i]?.bind f = some k := by
    obtain ⟨a, ha, hk⟩ := h
    obtain ⟨i, hi⟩ := List.mem_iff_getElem?.mp ha
    exact ⟨i, by rw [hi, Option.bind_some, hk]⟩
  exact ⟨Nat.find found, Nat.find_spec found, fun j hj => Nat.find_min found hj⟩

theorem newAt_nil : ¬ NewAt f seen [] i k := by
  rintro ⟨⟨h, _⟩, _⟩
  simp at h

theorem newAt_cons_zero : NewAt f seen (a :: as) 0 k ↔ f a = some k ∧ k ∉ seen := by
  simp [NewAt, FirstAt]

theorem firstAt_cons_succ : FirstAt f (a :: as) (i + 1) k ↔ FirstAt f as i k ∧ f a ≠ some k := by
  constructor
  · rintro ⟨here, first⟩
    exact ⟨⟨here, fun j hj => first (j + 1) (Nat.succ_lt_succ hj)⟩, first 0 (Nat.succ_pos i)⟩
  · rintro ⟨⟨here, first⟩, other⟩
    refine ⟨here, fun j hj => ?_⟩
    cases j with
    | zero => exact other
    | succ j => exact first j (Nat.lt_of_succ_lt_succ hj)

theorem FirstAt.unique {j : Nat} (hi : FirstAt f as i k) (hj : FirstAt f as j k) : i = j := by
  rcases Nat.lt_trichotomy i j with h | h | h
  · exact absurd hi.1 (hj.2 i h)
  · exact h
  · exact absurd hj.1 (hi.2 j h)

/-- The entry at the first place is the one that a search comes to. -/
theorem FirstAt.find? [DecidableEq κ] {key : α → κ} (h : FirstAt (fun a => some (key a)) as i k) :
    ∃ a, as[i]? = some a ∧ as.find? (key · == k) = some a := by
  obtain ⟨a, ha, same⟩ := Option.bind_eq_some_iff.mp h.1
  obtain ⟨hi, rfl⟩ := List.getElem?_eq_some_iff.mp ha
  refine ⟨as[i], ha, List.find?_eq_some_iff_getElem.mpr
    ⟨beq_iff_eq.mpr (Option.some.inj same), i, hi, rfl, fun j hj => ?_⟩⟩
  have other := h.2 j hj
  rw [List.getElem?_eq_getElem (hj.trans hi)] at other
  simpa using other

/-- What is new behind an entry is what is new once the key of the entry has been seen. -/
theorem newAt_cons_succ {seen' : List κ} (h : ∀ k, k ∈ seen' ↔ f a = some k ∨ k ∈ seen) :
    NewAt f seen (a :: as) (i + 1) k ↔ NewAt f seen' as i k := by
  rw [NewAt, NewAt, firstAt_cons_succ, h, not_or, and_assoc]

end

/-! ## What is selected and offered -/

namespace Documents

open ServiceDeclarations

/-- The service at a place is one of those that the user wants: the first of its name or, if one is
wanted, the first of that local name. -/
def Selects (ds : Documents) : Option String → Nat → Prop
  | none, i => ∃ name, FirstAt (some ·.1) ds.services i name
  | some wanted, i => FirstAt (some ·.1.localName) ds.services i wanted

/-- The port type that a port offers: that of its binding, if it is declared and one of SOAP. -/
def offer? (ds : Documents) (port : Port) : Option QName :=
  ((firstNamed ds.bindings port.binding).filter BindingContext.isSoap).map (·.portType)

/-- A service is to be bound at a place, that of the service and that of its port: the service is
selected, and the port is the first of it that offers some port type, which is declared. -/
def Serves (ds : Documents) (wanted : Option String) (place : Nat × Nat) : Prop :=
  ds.Selects wanted place.1 ∧ ∃ name s q, ds.services[place.1]? = some (name, s) ∧
    FirstAt ds.offer? s.ports place.2 q ∧ (firstNamed ds.portTypes q).isSome

end Documents

/-- The operation of a port type, bound with what a binding says of it. -/
structure Wsdl.Binding.Binds (binding : Binding) (op : Operation) (bound : BoundOperation) :
    Prop where
  name : bound.name = op.name
  documentation : bound.documentation = op.documentation
  pattern : bound.pattern = op.pattern
  soapAction : bound.soapAction =
    (binding.operations.find? (·.name == op.name)).bind (·.soapAction)

namespace Documents

open ServiceDeclarations

/-- A service as it is bound at one of its ports, but for the operations. -/
def serviceAt (name : QName) (s : Service) (port : Port) (binding : Binding) : BoundService where
  service := s.name
  port := port.name
  ns := name.ns
  portType := binding.portType
  binding := some port.binding
  protocol := some binding.protocol
  address := port.address
  documentation := s.documentation
  operations := []

/-- The service is bound at the port, with one operation for each of the port type. -/
def BoundAtPort (ds : Documents) (name : QName) (s : Service) (port : Port) (b : BoundService) :
    Prop :=
  ∃ binding p, firstNamed ds.bindings port.binding = some binding ∧
    firstNamed ds.portTypes binding.portType = some p ∧
    List.Forall₂ binding.Binds p.operations b.operations ∧
    b = { serviceAt name s port binding with operations := b.operations }

/-- The service and the port at the place are what is bound. -/
def BoundAt (ds : Documents) (place : Nat × Nat) (b : BoundService) : Prop :=
  ∃ name s port, ds.services[place.1]? = some (name, s) ∧ s.ports[place.2]? = some port ∧
    ds.BoundAtPort name s port b

/-- Where a port stands, as it is reported. -/
def portText (s : Service) (port : Port) : String :=
  "port " ++ port.name ++ " of service " ++ s.name

/-- What is missing at the ports of a service: the binding of a port, and a port type that is
offered, at the first port that offers it. -/
inductive Misses (ds : Documents) (s : Service) (seen : List QName) (ports : List Port) :
    Reference → Prop
  | binding {port : Port} : port ∈ ports → firstNamed ds.bindings port.binding = none →
      Misses ds s seen ports ⟨port.binding, .binding, portText s port⟩
  | portType {j : Nat} {port : Port} {q : QName} : ports[j]? = some port →
      NewAt ds.offer? seen ports j q → firstNamed ds.portTypes q = none →
      Misses ds s seen ports ⟨q, .portType, portText s port⟩

end Documents

/-! ## One port -/

section

open ServiceDeclarations BindingContext

variable {ds : Documents} {graph : TypeGraph} {seen : List QName} {port : Port}

theorem getElem?_bindings (ds : Documents) (graph : TypeGraph) (name : QName) :
    (BindingContext.of ds graph).declared.bindings[name]? = firstNamed ds.bindings name :=
  getElem?_firstOf ..

theorem getElem?_portTypes (ds : Documents) (graph : TypeGraph) (name : QName) :
    (BindingContext.of ds graph).declared.portTypes[name]? = firstNamed ds.portTypes name :=
  getElem?_firstOf ..

/-- A declared port type gives a service, and no other is missing but one that is not declared. -/
structure BoundPortType (ds : Documents) (binding : Binding) (context : String)
    (start : BoundService) (made : Bound (Option BoundService)) : Prop where
  absent : made.value = none → firstNamed ds.portTypes start.portType = none
  present : ∀ b, made.value = some b → ∃ p, firstNamed ds.portTypes start.portType = some p ∧
    List.Forall₂ binding.Binds p.operations b.operations ∧
    b = { start with operations := b.operations }
  missing : ∀ r, r.kind = .binding ∨ r.kind = .portType → (r ∈ made.missing ↔
    firstNamed ds.portTypes start.portType = none ∧ r = ⟨start.portType, .portType, context⟩)

theorem binds_bindOperation (c : BindingContext) (binding : Binding) (op : Operation) :
    binding.Binds op (c.bindOperation (some binding) op).value :=
  ⟨rfl, rfl, rfl, rfl⟩

theorem boundPortType_bindPortType (ds : Documents) (graph : TypeGraph) (binding : Binding)
    (context : String) (start : BoundService) : BoundPortType ds binding context start
      ((BindingContext.of ds graph).bindPortType (some binding) context start) := by
  rw [bindPortType, getElem?_portTypes]
  cases hp : firstNamed ds.portTypes start.portType with
  | none =>
    refine ⟨fun _ => hp, fun b hb => ?_, fun r _ => ?_⟩
    · cases hb
    · simp [hp]
  | some p =>
    refine ⟨fun h => ?_, fun b hb => ?_, fun r kind => iff_of_false ?_ fun h => ?_⟩
    · cases h
    · cases hb
      refine ⟨p, hp, ?_, rfl⟩
      rw [Bound.value_all]
      exact List.forall₂_map_right_iff.mpr (List.forall₂_same.mpr fun op _ =>
        binds_bindOperation _ binding op)
    · intro hr
      obtain ⟨op, _, hr⟩ := Bound.mem_missing_all.mp hr
      obtain ⟨noBinding, noPortType⟩ := kind_of_mem_missing_bindOperation hr
      exact kind.elim noBinding noPortType
    · rw [hp] at h
      cases h.1

theorem offer?_of_undeclared (hb : firstNamed ds.bindings port.binding = none) :
    ds.offer? port = none := by
  rw [Documents.offer?, hb]
  rfl

theorem offer?_of_declared {b : Binding} (hb : firstNamed ds.bindings port.binding = some b) :
    ds.offer? port = if isSoap b then some b.portType else none := by
  rw [Documents.offer?, hb, Option.filter_some]
  split
  · rfl
  · rfl

/-- The port offers a port type that has not been come to. -/
def Documents.OffersNew (ds : Documents) (seen : List QName) (port : Port) (q : QName) : Prop :=
  ds.offer? port = some q ∧ q ∉ seen

/-- What is missing at one port: its binding, or the port type that it is the first to offer. -/
def Documents.MissesAt (ds : Documents) (s : Service) (seen : List QName) (port : Port)
    (r : Reference) : Prop :=
  (firstNamed ds.bindings port.binding = none ∧
    r = ⟨port.binding, .binding, Documents.portText s port⟩) ∨
  ∃ q, ds.OffersNew seen port q ∧ firstNamed ds.portTypes q = none ∧
    r = ⟨q, .portType, Documents.portText s port⟩

/-- What binding does at a port before it goes on to the ports behind it. -/
structure PortStep (ds : Documents) (graph : TypeGraph) (name : QName) (s : Service)
    (seen : List QName) (port : Port) (ports : List Port) (here : Option BoundService)
    (lacking : List Reference) (seen' : List QName) : Prop where
  bound : (BindingContext.of ds graph).bindPorts name s seen (port :: ports) =
    ⟨here.toList ++ ((BindingContext.of ds graph).bindPorts name s seen' ports).value,
      lacking ++ ((BindingContext.of ds graph).bindPorts name s seen' ports).missing⟩
  next : ∀ q, q ∈ seen' ↔ ds.offer? port = some q ∨ q ∈ seen
  absent : here = none → ∀ q, ds.OffersNew seen port q → firstNamed ds.portTypes q = none
  present : ∀ b, here = some b → ds.BoundAtPort name s port b ∧
    ∃ q, ds.OffersNew seen port q ∧ (firstNamed ds.portTypes q).isSome
  missing : ∀ r, r.kind = .binding ∨ r.kind = .portType →
    (r ∈ lacking ↔ ds.MissesAt s seen port r)

variable {name : QName} {s : Service} {ports : List Port}

/-- A port that offers nothing new is passed over; all that it can lack is its binding. -/
theorem portStep_passed {lacking : List Reference}
    (nothing : ∀ q, ds.offer? port = some q → q ∈ seen)
    (missing : ∀ r, r ∈ lacking ↔ firstNamed ds.bindings port.binding = none ∧
      r = ⟨port.binding, .binding, Documents.portText s port⟩)
    (bound : (BindingContext.of ds graph).bindPorts name s seen (port :: ports) =
      ⟨((BindingContext.of ds graph).bindPorts name s seen ports).value,
        lacking ++ ((BindingContext.of ds graph).bindPorts name s seen ports).missing⟩) :
    PortStep ds graph name s seen port ports none lacking seen := by
  have noOffer (q : QName) : ¬ ds.OffersNew seen port q := fun h => h.2 (nothing q h.1)
  refine ⟨bound, fun q => ⟨Or.inr, fun h => h.elim (nothing q) id⟩, fun _ q h => ?_, nofun, ?_⟩
  · exact absurd h (noOffer q)
  · intro r _
    rw [missing, Documents.MissesAt, or_iff_left]
    rintro ⟨q, h, _⟩
    exact noOffer q h

/-- The port type that a port is the first to offer is bound or missing, and has been come to. -/
theorem portStep_offered {b : Binding} (hb : firstNamed ds.bindings port.binding = some b)
    (soap : isSoap b) (new : b.portType ∉ seen) :
    ∃ here lacking, PortStep ds graph name s seen port ports here lacking (b.portType :: seen) := by
  have found := getElem?_bindings ds graph port.binding
  have offer : ds.offer? port = some b.portType := by rw [offer?_of_declared hb, if_pos soap]
  have only (q : QName) : ds.OffersNew seen port q ↔ q = b.portType := by
    rw [Documents.OffersNew, offer, Option.some.injEq]
    exact ⟨fun h => h.1.symm, fun h => ⟨h.symm, h ▸ new⟩⟩
  have made := boundPortType_bindPortType ds graph b (Documents.portText s port)
    (Documents.serviceAt name s port b)
  generalize hgiven : (BindingContext.of ds graph).bindPortType _ _ _ = given at made
  refine ⟨given.value, given.missing, ?_, fun q => ?_, fun h q hq => ?_, fun bound h => ?_,
    fun r kind => ?_⟩
  · simp only [bindPorts, found, hb, soap, new, List.contains_eq_mem, decide_false, Bool.not_true,
      Bool.or_false, Bool.false_eq_true, if_false, ← hgiven]
    rfl
  · rw [offer, Option.some.injEq, List.mem_cons, eq_comm]
  · rw [(only q).mp hq]
    exact made.absent h
  · obtain ⟨p, hp, operations, same⟩ := made.present bound h
    exact ⟨⟨b, p, hb, hp, operations, same⟩, b.portType, (only _).mpr rfl, Option.isSome_of_mem hp⟩
  · rw [made.missing r kind]
    simp [Documents.MissesAt, only, hb, Documents.serviceAt]

theorem exists_portStep (ds : Documents) (graph : TypeGraph) (name : QName) (s : Service)
    (seen : List QName) (port : Port) (ports : List Port) :
    ∃ here lacking seen', PortStep ds graph name s seen port ports here lacking seen' := by
  have found := getElem?_bindings ds graph port.binding
  cases hb : firstNamed ds.bindings port.binding with
  | none =>
    refine ⟨none, [⟨port.binding, .binding, Documents.portText s port⟩], seen, ?_⟩
    refine portStep_passed (by simp [offer?_of_undeclared hb]) (by simp [hb]) ?_
    simp only [bindPorts, found, hb]
    rfl
  | some b =>
    have declared (r : Reference) : r ∈ [] ↔ firstNamed ds.bindings port.binding = none ∧
        r = ⟨port.binding, .binding, Documents.portText s port⟩ := by simp [hb]
    by_cases soap : isSoap b
    · by_cases old : b.portType ∈ seen
      · refine ⟨none, [], seen, portStep_passed ?_ declared ?_⟩
        · simp [offer?_of_declared hb, soap, old]
        · simp [bindPorts, found, hb, old]
      · obtain ⟨here, lacking, step⟩ := portStep_offered hb soap old
        exact ⟨here, lacking, _, step⟩
    · refine ⟨none, [], seen, portStep_passed ?_ declared ?_⟩
      · simp [offer?_of_declared hb, soap]
      · simp [bindPorts, found, hb, soap]

end

/-! ## All ports of a service -/

section

open ServiceDeclarations BindingContext

variable {ds : Documents} {graph : TypeGraph} {name : QName} {s : Service} {seen seen' : List QName}
  {port : Port} {ports : List Port} {r : Reference}

theorem oneForEach_bindPorts :
    OneForEach (· < ·)
      (fun j => ∃ q, NewAt ds.offer? seen ports j q ∧ (firstNamed ds.portTypes q).isSome)
      (fun j b => ∃ port, ports[j]? = some port ∧ ds.BoundAtPort name s port b)
      ((BindingContext.of ds graph).bindPorts name s seen ports).value := by
  -- What counts as new behind a port depends on what that port offers.
  induction ports generalizing seen with
  | nil => exact .nil fun j ⟨q, h, _⟩ => newAt_nil h
  | cons port ports ih =>
    obtain ⟨here, lacking, seen', step⟩ := exists_portStep ds graph name s seen port ports
    rw [step.bound]
    refine .step here (ih.congr fun j => ?_) ?_ ?_
    · simp only [newAt_cons_succ step.next]
    · rintro none ⟨q, new, declared⟩
      rw [step.absent none q (newAt_cons_zero.mp new)] at declared
      cases declared
    · rintro b hb
      obtain ⟨bound, q, new, declared⟩ := step.present b hb
      exact ⟨⟨q, newAt_cons_zero.mpr new, declared⟩, port, rfl, bound⟩

theorem misses_cons_iff (next : ∀ q, q ∈ seen' ↔ ds.offer? port = some q ∨ q ∈ seen) :
    ds.Misses s seen (port :: ports) r ↔ ds.MissesAt s seen port r ∨ ds.Misses s seen' ports r := by
  constructor
  · intro h
    cases h with
    | binding mem undeclared =>
      rcases List.mem_cons.mp mem with rfl | mem
      · exact Or.inl (Or.inl ⟨undeclared, rfl⟩)
      · exact Or.inr (.binding mem undeclared)
    | @portType j port' q hport new undeclared =>
      cases j with
      | zero =>
        cases hport
        exact Or.inl (Or.inr ⟨q, newAt_cons_zero.mp new, undeclared, rfl⟩)
      | succ j => exact Or.inr (.portType hport ((newAt_cons_succ next).mp new) undeclared)
  · rintro ((⟨undeclared, rfl⟩ | ⟨q, new, undeclared, rfl⟩) | h)
    · exact .binding List.mem_cons_self undeclared
    · exact .portType (j := 0) rfl (newAt_cons_zero.mpr new) undeclared
    · cases h with
      | binding mem undeclared => exact .binding (List.mem_cons_of_mem _ mem) undeclared
      | @portType j port' q hport new undeclared =>
        exact .portType (j := j + 1) hport ((newAt_cons_succ next).mpr new) undeclared

theorem mem_missing_bindPorts (kind : r.kind = .binding ∨ r.kind = .portType) :
    r ∈ ((BindingContext.of ds graph).bindPorts name s seen ports).missing ↔
      ds.Misses s seen ports r := by
  induction ports generalizing seen with
  | nil =>
    refine iff_of_false List.not_mem_nil fun h => ?_
    cases h with
    | binding mem _ => cases mem
    | portType hport _ _ => cases hport
  | cons port ports ih =>
    obtain ⟨here, lacking, seen', step⟩ := exists_portStep ds graph name s seen port ports
    rw [step.bound, List.mem_append, step.missing r kind, ih, misses_cons_iff step.next]

end

/-! ## The services that are selected -/

namespace ServiceDeclarations

variable {α : Type} {declared : List (QName × α)}

/-- What has been kept stays, and behind it is put what is the first of a name that is not kept. -/
theorem exists_foldl_distinct (kept declared : List (QName × α)) : ∃ new,
    declared.foldl (fun kept e => if kept.any (·.1 == e.1) then kept else kept ++ [(e.1, e.2)])
      kept = kept ++ new ∧
    OneForEach (· < ·) (fun i => ∃ name, NewAt (some ·.1) (kept.map (·.1)) declared i name)
      (fun i e => declared[i]? = some e) new := by
  induction declared generalizing kept with
  | nil => exact ⟨[], by simp, .nil fun i ⟨name, h⟩ => newAt_nil h⟩
  | cons e declared ih =>
    rw [List.foldl_cons]
    by_cases old : kept.any (·.1 == e.1)
    · have mem : e.1 ∈ kept.map (·.1) := by
        obtain ⟨e', he', same⟩ := List.any_eq_true.mp old
        exact List.mem_map.mpr ⟨e', he', eq_of_beq same⟩
      rw [if_pos old]
      obtain ⟨new, same, places⟩ := ih kept
      refine ⟨new, same, .step none (places.congr fun i => ?_) ?_ nofun⟩
      · refine exists_congr fun name => (newAt_cons_succ fun k => ?_).symm
        exact ⟨Or.inr, fun h => h.elim (fun same => Option.some.inj same ▸ mem) id⟩
      · rintro - ⟨name, h⟩
        obtain ⟨same, new⟩ := newAt_cons_zero.mp h
        exact new (Option.some.inj same ▸ mem)
    · have notMem : e.1 ∉ kept.map (·.1) := by
        intro mem
        obtain ⟨e', he', same⟩ := List.mem_map.mp mem
        exact old (List.any_eq_true.mpr ⟨e', he', beq_iff_eq.mpr same⟩)
      rw [if_neg old]
      obtain ⟨new, same, places⟩ := ih (kept ++ [(e.1, e.2)])
      refine ⟨e :: new, by simp [same],
        .step (some e) (places.congr fun i => ?_) nofun ?_⟩
      · refine exists_congr fun name => (newAt_cons_succ fun k => ?_).symm
        simp [or_comm, eq_comm]
      · rintro b hb
        cases hb
        exact ⟨⟨e.1, newAt_cons_zero.mpr ⟨rfl, notMem⟩⟩, rfl⟩

theorem oneForEach_distinct (declared : List (QName × α)) :
    OneForEach (· < ·) (fun i => ∃ name, FirstAt (some ·.1) declared i name)
      (fun i e => declared[i]? = some e) (distinct declared) := by
  obtain ⟨new, same, places⟩ := exists_foldl_distinct [] declared
  have all : distinct declared = new := same
  rw [all]
  exact places.congr fun i => by simp [NewAt]

theorem find?_foldl_distinct (p : QName → Bool) (kept declared : List (QName × α)) :
    (declared.foldl (fun kept e => if kept.any (·.1 == e.1) then kept else kept ++ [(e.1, e.2)])
      kept).find? (p ·.1) = (kept ++ declared).find? (p ·.1) := by
  induction declared generalizing kept with
  | nil => simp
  | cons e declared ih =>
    rw [List.foldl_cons, ih]
    split
    · next old =>
      obtain ⟨e', he', same⟩ := List.any_eq_true.mp old
      rw [List.find?_append, List.find?_append, List.find?_cons]
      cases hfirst : kept.find? (p ·.1) with
      | some first => rfl
      | none =>
        have other : p e.1 = false := by
          rw [← eq_of_beq same]
          exact Bool.eq_false_iff.mpr (List.find?_eq_none.mp hfirst e' he')
        rw [other]
    · simp

/-- Leaving out what has the name of an earlier one does not change what is found by its name. -/
theorem find?_distinct (p : QName → Bool) (declared : List (QName × α)) :
    (distinct declared).find? (p ·.1) = declared.find? (p ·.1) :=
  find?_foldl_distinct p [] declared

end ServiceDeclarations

namespace BindingContext

open ServiceDeclarations

variable {ds : Documents} {wanted : Option String}

/-- Some service is there that the user wants. -/
theorem exists_selects (h : ∃ e ∈ ds.services, ∀ name ∈ wanted, e.1.localName = name) :
    ∃ i, ds.Selects wanted i := by
  obtain ⟨e, he, same⟩ := h
  cases wanted with
  | none =>
    obtain ⟨i, first⟩ := exists_firstAt (f := (some ·.1)) ⟨e, he, rfl⟩
    exact ⟨i, e.1, first⟩
  | some name => exact exists_firstAt ⟨e, he, congrArg some (same name rfl)⟩

theorem oneForEach_selected (h : ∃ i, ds.Selects wanted i) :
    ∃ found, selected (.ofDocuments ds) wanted = .ok found ∧
      OneForEach (· < ·) (ds.Selects wanted) (fun i e => ds.services[i]? = some e) found := by
  cases wanted with
  | none => exact ⟨_, rfl, oneForEach_distinct ds.services⟩
  | some wanted =>
    obtain ⟨i, first⟩ := h
    obtain ⟨e, he, found⟩ := first.find?
    have listed : (ServiceDeclarations.ofDocuments ds).services.find? (·.1.localName == wanted) =
        some e := (find?_distinct (·.localName == wanted) ds.services).trans found
    refine ⟨[e], by rw [selected, listed], [i], List.pairwise_singleton _ _, fun j => ?_,
      .cons he .nil⟩
    rw [List.mem_singleton]
    exact ⟨fun same => same ▸ first, fun other => FirstAt.unique other first⟩

/-- The services that are selected are bound one after the other. -/
theorem exists_services (graph : TypeGraph) (h : ∃ i, ds.Selects wanted i) : ∃ found,
    (BindingContext.of ds graph).services wanted =
      .ok ⟨(Bound.all (BindingContext.of ds graph).bindService found).value.flatten,
        (Bound.all (BindingContext.of ds graph).bindService found).missing⟩ ∧
    OneForEach (· < ·) (ds.Selects wanted) (fun i e => ds.services[i]? = some e) found := by
  obtain ⟨found, hsel, places⟩ := oneForEach_selected h
  have nonempty : found.isEmpty = false := by
    obtain ⟨i, hi⟩ := h
    obtain ⟨e, he, _⟩ := places.exists_mem hi
    exact List.isEmpty_eq_false_iff.mpr (List.ne_nil_of_mem he)
  have declared : (BindingContext.of ds graph).declared = .ofDocuments ds := rfl
  refine ⟨found, ?_, places⟩
  rw [services, declared, hsel]
  simp only [bind, Except.bind, nonempty, Bool.false_eq_true, if_false]
  rfl

/-- If a service is declared that the user wants, binding succeeds. It gives one service for each
service that is selected and each declared port type that is offered at a port of it, in the order
of the services and of their ports. Each is bound at the first port that offers the port type, with
the operations of the port type in order. The bindings and port types that are reported are those
that ports of selected services name and that are not declared. -/
theorem services_of_selected (graph : TypeGraph)
    (h : ∃ e ∈ ds.services, ∀ name ∈ wanted, e.1.localName = name) :
    ∃ bound, (BindingContext.of ds graph).services wanted = .ok bound ∧
      OneForEach (Prod.Lex (· < ·) (· < ·)) (ds.Serves wanted) ds.BoundAt bound.value ∧
      ∀ r : Reference, r.kind = .binding ∨ r.kind = .portType → (r ∈ bound.missing ↔
        ∃ i name s, ds.Selects wanted i ∧ ds.services[i]? = some (name, s) ∧
          ds.Misses s [] s.ports r) := by
  obtain ⟨found, hbound, places⟩ := exists_services graph (exists_selects h)
  refine ⟨_, hbound, ?_, fun r kind => ?_⟩
  · have each (i : Nat) (e : QName × Service) (he : ds.services[i]? = some e) :
        OneForEach (· < ·)
          (fun j => ∃ name s q, ds.services[i]? = some (name, s) ∧ FirstAt ds.offer? s.ports j q ∧
            (firstNamed ds.portTypes q).isSome)
          (fun j => ds.BoundAt (i, j)) ((BindingContext.of ds graph).bindService e).value := by
      obtain ⟨name, s⟩ := e
      refine (oneForEach_bindPorts.congr fun j => ?_).imp fun j b ⟨port, hport, bound⟩ => ?_
      · simp [he, NewAt]
      · exact ⟨name, s, port, he, hport, bound⟩
    rw [Bound.value_all]
    exact (places.imp each).map.flatten
  · rw [Bound.mem_missing_all]
    constructor
    · rintro ⟨⟨name, s⟩, hs, hr⟩
      obtain ⟨i, selected, he⟩ := places.exists_place hs
      exact ⟨i, name, s, selected, he, (mem_missing_bindPorts kind).mp hr⟩
    · rintro ⟨i, name, s, selected, he, misses⟩
      obtain ⟨e, hmem, he'⟩ := places.exists_mem selected
      obtain rfl : e = (name, s) := Option.some.inj (he'.symm.trans he)
      exact ⟨_, hmem, (mem_missing_bindPorts kind).mpr misses⟩

/-! ## Ports of every kind -/

def stockName (name : String) : QName := ⟨"urn:stock", name⟩

def stockBinding (name : String) (protocol : Protocol) (portType : String) : Binding where
  name := name
  portType := stockName portType
  protocol := protocol
  style := none
  transport := none
  operations := []

/-- A service with a port whose binding is not declared, one that is not of SOAP, two through which
one port type is offered, and one whose port type is not declared. -/
def stockService : Service where
  name := "Stock"
  documentation := none
  ports := [⟨"lost", stockName "Lost", none⟩, ⟨"web", stockName "Web", none⟩,
    ⟨"new", stockName "New", none⟩, ⟨"old", stockName "Old", none⟩,
    ⟨"bare", stockName "Bare", none⟩]

def stockDocuments : Documents := ⟨[{
  locator := default
  kind := .wsdl
  targetNamespace := "urn:stock"
  imports := []
  schemas := []
  messages := []
  portTypes := [⟨"Prices", []⟩]
  bindings := [stockBinding "Web" (.other "urn:http") "Prices", stockBinding "Old" .soap11 "Prices",
    stockBinding "New" .soap12 "Prices", stockBinding "Bare" .soap11 "Nothing"]
  services := [⟨"Other", none, []⟩, stockService]
  skipped := [] }]⟩

/-- The service is bound at the first port that offers its only declared port type, and the binding
and the port type that are not declared are reported. -/
theorem services_of_selected_stock : ∃ bound,
    (BindingContext.of stockDocuments ⟨∅, ∅⟩).services (some "Stock") = .ok bound ∧
      (∃ b ∈ bound.value, stockDocuments.BoundAt (1, 2) b) ∧
      ⟨stockName "Lost", .binding, "port lost of service Stock"⟩ ∈ bound.missing ∧
      ⟨stockName "Nothing", .portType, "port bare of service Stock"⟩ ∈ bound.missing := by
  have selected : stockDocuments.Selects (some "Stock") 1 := ⟨rfl, by decide⟩
  have bare : FirstAt stockDocuments.offer? stockService.ports 4 (stockName "Nothing") :=
    ⟨rfl, by decide⟩
  have declared : (stockName "Stock", stockService) ∈ stockDocuments.services :=
    List.mem_of_getElem? (i := 1) rfl
  obtain ⟨bound, hbound, places, missing⟩ := services_of_selected ⟨∅, ∅⟩
    ⟨_, declared, fun name h => Option.some.inj h⟩
  refine ⟨bound, hbound, places.exists_mem ⟨selected, ?_⟩, ?_, ?_⟩
  · exact ⟨_, stockService, stockName "Prices", rfl, ⟨rfl, by decide⟩, rfl⟩
  · exact (missing _ (Or.inl rfl)).mpr ⟨1, _, stockService, selected, rfl,
      .binding List.mem_cons_self rfl⟩
  · exact (missing _ (Or.inr rfl)).mpr ⟨1, _, stockService, selected, rfl,
      .portType rfl ⟨bare, List.not_mem_nil⟩ rfl⟩

end BindingContext

end SoapBindings
