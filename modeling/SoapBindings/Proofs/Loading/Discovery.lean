import SoapBindings.Proofs.Document.Adoption
import SoapBindings.Proofs.Loading.Closure

/-!
# What a start document leads to

If every document has one content, the documents that a start document leads to are a matter of
locators alone (`Loader.Reachable`): for whom a schema is read changes neither what it asks for nor
whether it can be read (`exists_readAt_eq_map`). Breadth first they come in rounds
(`Loading.within`), each of which continues the one before it (`within_extends`). If there are
finitely many, some round finds nothing new (`exists_within_stable`), and then all are found
(`Loader.Finds`).
-/

set_option autoImplicit false

namespace SoapBindings

open Files Schema Relation

/-! ## Rounds -/

namespace Loading

section

variable (asks : Wanted → List Wanted) (start : Wanted)

/-- The start, and then what some documents ask for, each document as it is asked for first. -/
def nextRound (ms : List Wanted) : List Wanted := firsts (start :: ms.flatMap asks)

/-- The documents that are fewer than so many steps away from the start, breadth first: what the
nearer ones ask for, one after the other. -/
def within : Nat → List Wanted
  | 0 => []
  | n + 1 => nextRound asks start (within n)

variable {asks start} {ms ms' order : List Wanted} {m : Wanted} {n : Nat}

variable (asks start) in
/-- From more documents a round finds more, after what it found before. -/
theorem nextRound_extends (h : ms <+: ms') :
    nextRound asks start ms <+: nextRound asks start ms' := by
  obtain ⟨more, rfl⟩ := h
  rw [nextRound, nextRound, List.flatMap_append, ← List.cons_append, firsts_append]
  exact List.prefix_append _ _

variable (asks start) in
theorem within_extends (n : Nat) : within asks start n <+: within asks start (n + 1) := by
  induction n with
  | zero => exact List.nil_prefix
  | succ n ih => exact nextRound_extends asks start ih

/-- What a round adds nothing to, no later round adds to. -/
theorem within_of_stable (stable : within asks start (n + 1) = within asks start n) {k : Nat}
    (h : n ≤ k) : within asks start k = within asks start n := by
  induction k, h using Nat.le_induction with
  | base => rfl
  | succ k _ ih =>
    rw [within, ih]
    exact stable

/-- A list that a round adds nothing to has all documents in it. -/
theorem within_extends_to (closed : nextRound asks start ms = ms) (n : Nat) :
    within asks start n <+: ms := by
  induction n with
  | zero => exact List.nil_prefix
  | succ n ih =>
    have next := nextRound_extends asks start ih
    rw [closed] at next
    exact next

theorem nodup_texts_within (n : Nat) : (texts (within asks start n)).Nodup := by
  cases n with
  | zero => exact List.nodup_nil
  | succ n => exact nodup_texts_firsts _

variable (asks start) in
/-- If there are finitely many documents, some round finds nothing new. -/
theorem exists_within_stable {found : Set String} (finite : found.Finite)
    (within_found : ∀ n, ∀ t ∈ texts (within asks start n), t ∈ found) :
    ∃ n, within asks start (n + 1) = within asks start n := by
  by_contra growing
  -- Every round would then find something, more in the end than there are.
  have grows (n : Nat) : n ≤ (within asks start n).length := by
    induction n with
    | zero => exact Nat.zero_le _
    | succ n ih =>
      have longer := (within_extends asks start n).length_le
      refine Nat.lt_of_le_of_lt ih (Nat.lt_of_le_of_ne longer fun same => ?_)
      exact growing ⟨n, ((within_extends asks start n).eq_of_length same).symm⟩
  have bounded (n : Nat) : (within asks start n).length ≤ finite.toFinset.card := by
    have sub : (texts (within asks start n)).toFinset ⊆ finite.toFinset := by
      intro t ht
      exact finite.mem_toFinset.mpr (within_found n t (List.mem_toFinset.mp ht))
    have counted := Finset.card_le_card sub
    rw [List.toFinset_card_of_nodup (nodup_texts_within n), texts, List.length_map] at counted
    exact counted
  have h := (grows (finite.toFinset.card + 1)).trans (bounded _)
  omega

theorem mem_of_mem_firsts (h : m ∈ firsts ms) : m ∈ ms := by
  induction ms with
  | nil => exact h
  | cons first ms ih =>
    rw [firsts] at h
    rcases List.mem_cons.mp h with rfl | h
    · exact List.mem_cons_self
    · exact List.mem_cons_of_mem _ (ih (List.mem_filter.mp h).1)

/-- No document is lost by that only the first asking for it is kept. -/
theorem text_mem_firsts (h : m ∈ ms) : m.locator.toText ∈ texts (firsts ms) := by
  have found : (ms.find? (·.locator.toText == m.locator.toText)).isSome :=
    List.find?_isSome.mpr ⟨m, h, beq_self_eq_true _⟩
  rw [← find?_firsts] at found
  obtain ⟨first, hfirst, same⟩ := List.find?_isSome.mp found
  exact List.mem_map.mpr ⟨first, hfirst, beq_iff_eq.mp same⟩

end

/-! ## Imports -/

/-- The locations that imports ask for. -/
def locations (imports : List Import) : List String := imports.filterMap location?

/-- The documents at locations, as far as these can be understood. -/
def targets (w : Workspace) (l : Locator) (locations : List String) : List Locator :=
  locations.filterMap fun location => (l.join w location).toOption

theorem locators_asking (w : Workspace) (l : Locator) (imports : List Import) :
    (asking w l imports).map (·.locator) = targets w l (locations imports) := by
  rw [asking, List.map_filterMap, targets, locations, List.filterMap_filterMap]
  congr 1
  funext i
  rw [ask?]
  cases location? i with
  | none => rfl
  | some location =>
    rw [Option.bind_some, Option.bind_some, Option.map_map]
    exact Option.map_id'

theorem location?_adopt (ns : String) (i : Import) : location? (i.adopt ns) = location? i := by
  obtain ⟨kind, own, location, importer⟩ := i
  cases kind with
  | imported | included | redefined | wsdlImported => rfl

/-- A schema asks for the same, whichever namespace it is in. -/
theorem locations_adopt (ns : String) (d : Document) :
    locations (d.adopt ns).allImports = locations d.allImports := by
  have each (s : Declarations) :
      (s.adopt ns).imports.filterMap location? = s.imports.filterMap location? := by
    rw [Declarations.adopt, List.filterMap_map]
    exact List.filterMap_congr fun i _ => location?_adopt ns i
  simp only [locations, Document.allImports, Document.adopt, List.filterMap_append,
    List.filterMap_flatMap, List.flatMap_map, each]

end Loading

/-! ## One content for every document -/

namespace Loader

open Loading

variable {σ ε : Type} (c : Loader σ ε) (answer : Locator → Except ε ByteArray)

/-- The content of a document, if the source of remote documents has one answer for each. -/
def contentAt (l : Locator) : Except (FetchError ε) ByteArray :=
  match (Store.find c.policy c.workspace l : Store.Finding ε) with
  | .found content => .ok content
  | .refused fault => .error ⟨l, fault⟩
  | .toBeFetched => (answer l).mapError fun error => ⟨l, .remote error⟩

/-- What a document is read as. -/
def readAt (m : Wanted) : Except (LoadError ε) Document :=
  match c.contentAt answer m.locator with
  | .error error => .error (.fetch error)
  | .ok content => (Document.read m.locator m.adoptedNamespace content).mapError .syntaxError

/-- What a document asks for. -/
def asks (m : Wanted) : List Wanted :=
  match c.readAt answer m with
  | .error _ => []
  | .ok d => asking c.workspace m.locator d.allImports

/-- An import in the document at `l` asks for another document. -/
def LeadsTo (l target : Locator) : Prop :=
  ∃ d, c.readAt answer ⟨l, none⟩ = .ok d ∧
    target ∈ targets c.workspace l (locations d.allImports)

/-- Imports lead from the start to the document. -/
def Reachable (start : Locator) : Locator → Prop := ReflTransGen (c.LeadsTo answer) start

variable {c answer} {start l target : Locator} {m : Wanted} {order : List Wanted}

theorem readAt_eq_ok {ns : Option String} {content : ByteArray} {d : Document}
    (obtained : c.contentAt answer l = .ok content) (read : Document.read l ns content = .ok d) :
    c.readAt answer ⟨l, ns⟩ = .ok d := by
  simp only [readAt, obtained, read]
  rfl

variable (c answer) in
/-- For whom a document is read matters neither to whether it can be read nor to what it asks for. -/
theorem exists_readAt_eq_map (l : Locator) (ns : Option String) : ∃ f : Document → Document,
    (∀ d, locations (f d).allImports = locations d.allImports) ∧
      c.readAt answer ⟨l, ns⟩ = (c.readAt answer ⟨l, none⟩).map f := by
  rw [readAt, readAt]
  cases c.contentAt answer l with
  | error error => exact ⟨id, fun _ => rfl, rfl⟩
  | ok content =>
    rcases Document.read_eq_or_adopted l ns content with same | ⟨ns, adopted⟩
    · refine ⟨id, fun _ => rfl, ?_⟩
      simp only [same]
      cases Document.read l none content with
      | error error => rfl
      | ok d => rfl
    · refine ⟨Document.adopt ns, locations_adopt ns, ?_⟩
      simp only [adopted]
      cases Document.read l none content with
      | error error => rfl
      | ok d => rfl

theorem leadsTo_iff : c.LeadsTo answer m.locator target ↔
    ∃ m' ∈ c.asks answer m, m'.locator = target := by
  obtain ⟨l, ns⟩ := m
  obtain ⟨f, same, read⟩ := exists_readAt_eq_map c answer l ns
  rw [asks, read, LeadsTo]
  cases c.readAt answer ⟨l, none⟩ with
  | error error => simp [Except.map]
  | ok d =>
    simp only [Except.map, Except.ok.injEq, exists_eq_left']
    rw [← same d, ← locators_asking, List.mem_map]

/-! ## What is found -/

/-- The documents, in an order in which a breadth-first search finds them. -/
structure Finds (c : Loader σ ε) (answer : Locator → Except ε ByteArray) (start : Locator)
    (order : List Wanted) : Prop where
  /-- From some number of steps on these are the documents that are no further away. -/
  breadthFirst : ∃ n, ∀ k, n ≤ k → within (c.asks answer) ⟨start, none⟩ k = order
  first : order.head? = some ⟨start, none⟩
  once : (texts order).Nodup
  reached : ∀ m ∈ order, c.Reachable answer start m.locator
  closed : ∀ m ∈ order, ∀ target, c.LeadsTo answer m.locator target →
    target.toText ∈ texts order

theorem reachable_of_mem_within {n : Nat} (h : m ∈ within (c.asks answer) ⟨start, none⟩ n) :
    c.Reachable answer start m.locator := by
  induction n generalizing m with
  | zero => exact absurd h List.not_mem_nil
  | succ n ih =>
    rcases List.mem_cons.mp (mem_of_mem_firsts h) with rfl | h
    · exact .refl
    · obtain ⟨asking, hasking, hm⟩ := List.mem_flatMap.mp h
      exact (ih hasking).tail (leadsTo_iff.mpr ⟨m, hm, rfl⟩)

/-- If finitely many documents can be reached, a breadth-first search finds an end. -/
theorem exists_finds (finite : (Locator.toText '' {l | c.Reachable answer start l}).Finite) :
    ∃ order, c.Finds answer start order := by
  obtain ⟨n, stable⟩ := exists_within_stable (c.asks answer) ⟨start, none⟩
    finite fun n t ht => by
      obtain ⟨m, hm, rfl⟩ := List.mem_map.mp ht
      exact ⟨m.locator, reachable_of_mem_within hm, rfl⟩
  refine ⟨within (c.asks answer) ⟨start, none⟩ n, ⟨n, fun k hk => within_of_stable stable hk⟩, ?_,
    nodup_texts_within n, fun m hm => reachable_of_mem_within hm, fun m hm target leads => ?_⟩
  · rw [← stable]
    rfl
  · obtain ⟨m', hm', rfl⟩ := leadsTo_iff.mp leads
    rw [← stable]
    exact text_mem_firsts (List.mem_cons_of_mem _ (List.mem_flatMap.mpr ⟨m, hm, hm'⟩))

namespace Finds

variable (h : c.Finds answer start order)

include h

theorem nextRound_eq : nextRound (c.asks answer) ⟨start, none⟩ order = order := by
  obtain ⟨n, stable⟩ := h.breadthFirst
  have next := stable (n + 1) n.le_succ
  rw [within, stable n le_rfl] at next
  exact next

/-- All that can be reached is found, if the text of a locator tells it from the others. -/
theorem complete (canonical : ∀ l l', c.Reachable answer start l → c.Reachable answer start l' →
      l.toText = l'.toText → l = l') (reachable : c.Reachable answer start l) :
    ∃ m ∈ order, m.locator = l := by
  induction reachable with
  | refl =>
    refine ⟨⟨start, none⟩, ?_, rfl⟩
    exact List.mem_of_mem_head? h.first
  | tail before leads ih =>
    obtain ⟨m, hm, rfl⟩ := ih
    obtain ⟨m', hm', same⟩ := List.mem_map.mp (h.closed m hm _ leads)
    exact ⟨m', hm', canonical _ _ (h.reached m' hm') (before.tail leads) same⟩

end Finds

end Loader

end SoapBindings
