import SoapBindings.Proofs.Loading.Discovery
import SoapBindings.Proofs.Loading.Inclusion

/-!
# Loading is a breadth-first search

The loop of `loadAll` does no more than to read, one after the other, the documents that a
breadth-first search finds, up to the first that cannot be read or whose imports cannot be
understood (`Progress.loadAll_eq`). So it ends if finitely many documents can be reached
(`load_breadthFirst`).
-/

set_option autoImplicit false

namespace SoapBindings

open Files Relation Schema Xml

namespace Loading

variable {w : Workspace} {l : Locator} {known : Std.ExtTreeSet String} {imports : List Import}
  {ε : Type}

/-- The first location that cannot be understood, and why. -/
def misplaced? (w : Workspace) (l : Locator) (locations : List String) :
    Option (String × Locator.Error) :=
  locations.findSome? fun location =>
    match l.join w location with
    | .ok _ => none
    | .error error => some (location, error)

theorem discover_of_misplaced {location : String} {error : Locator.Error}
    (h : misplaced? w l (locations imports) = some (location, error)) :
    (discover w l known imports : Except (LoadError ε) (List Wanted × Std.ExtTreeSet String)) =
      .error (.invalidLocation l location error) := by
  induction imports generalizing known with
  | nil => cases h
  | cons i imports ih =>
    rw [discover]
    cases hlocation : location? i with
    | none =>
      rw [locations, List.filterMap_cons_none hlocation] at h
      exact ih h
    | some here =>
      rw [locations, List.filterMap_cons_some hlocation, misplaced?, List.findSome?_cons] at h
      cases hjoin : l.join w here with
      | error fault =>
        simp only [hjoin] at h ⊢
        cases h
        rfl
      | ok target =>
        simp only [hjoin] at h ⊢
        split
        · exact ih h
        · simp only [ih h]

theorem exists_discover (known : Std.ExtTreeSet String)
    (h : misplaced? w l (locations imports) = none) :
    ∃ wanted known', (discover w l known imports :
      Except (LoadError ε) (List Wanted × Std.ExtTreeSet String)) = .ok (wanted, known') := by
  induction imports generalizing known with
  | nil => exact ⟨[], known, rfl⟩
  | cons i imports ih =>
    rw [discover]
    cases hlocation : location? i with
    | none =>
      rw [locations, List.filterMap_cons_none hlocation] at h
      exact ih known h
    | some here =>
      rw [locations, List.filterMap_cons_some hlocation, misplaced?, List.findSome?_cons] at h
      cases hjoin : l.join w here with
      | error fault =>
        simp only [hjoin] at h
        cases h
      | ok target =>
        simp only [hjoin] at h ⊢
        split
        · exact ih known h
        · obtain ⟨wanted, known', found⟩ := ih (known.insert target.toText) h
          simp only [found]
          exact ⟨_, _, rfl⟩

end Loading

namespace Loader

open Loading

variable {σ ε : Type} (c : Loader σ ε) (answer : Locator → Except ε ByteArray)

/-- What comes of a document: it is read and its imports are understood, or not. -/
def outcome (m : Wanted) : Except (LoadError ε) Document :=
  match c.readAt answer m with
  | .error error => .error error
  | .ok d =>
    match misplaced? c.workspace m.locator (locations d.allImports) with
    | some (location, error) => .error (.invalidLocation m.locator location error)
    | none => .ok d

/-- The source of remote documents after a document that was not asked for before. -/
def afterOne (remote : σ) (m : Wanted) : σ :=
  (Store.empty.resolve c.fetch c.policy c.workspace m.locator remote).2.2

/-- Reads documents one after the other, up to the first of which nothing comes. -/
def settle : List Wanted → σ → Except (LoadError ε) (List Document) × σ
  | [], remote => (.ok [], remote)
  | m :: ms, remote =>
    match c.outcome answer m with
    | .error error => (.error error, c.afterOne remote m)
    | .ok d =>
      ((settle ms (c.afterOne remote m)).1.map (d :: ·), (settle ms (c.afterOne remote m)).2)

variable {c answer} {start l : Locator} {m : Wanted} {ms order remaining : List Wanted}
  {store : Store} {remote : σ} {content : ByteArray} {bound : Nat}

/-! ## One document -/

theorem content?_empty (l : Locator) : Store.empty.content? l = none :=
  Std.ExtTreeMap.getElem?_empty

section

variable (fixed : ∀ l remote, (c.fetch l remote).1 = answer l)

include fixed

/-- A document that is not in the store is resolved as if the store were empty. -/
theorem resolve_of_absent (remote : σ) (absent : store.content? m.locator = none) :
    store.resolve c.fetch c.policy c.workspace m.locator remote =
      match c.contentAt answer m.locator with
      | .ok content => (.ok content, store.keep m.locator content, c.afterOne remote m)
      | .error error => (.error error, store, c.afterOne remote m) := by
  rw [afterOne, Store.resolve, Store.resolve, absent, content?_empty, contentAt]
  cases hfind : (Store.find c.policy c.workspace m.locator : Store.Finding ε) with
  | found content => rfl
  | refused fault => rfl
  | toBeFetched =>
    have answered := fixed m.locator remote
    simp only [← answered]
    cases c.fetch m.locator remote with
    | mk result remote' =>
      cases result with
      | error error => rfl
      | ok content => rfl

theorem contentAt_of_obtains (h : c.Obtains l content) : c.contentAt answer l = .ok content := by
  rw [contentAt]
  rcases h with found | ⟨away, remote, remote', fetched⟩
  · rw [found]
  · have answered := fixed l remote
    rw [fetched] at answered
    rw [away, ← answered]
    rfl

theorem asks_of_readOf {r : ReadDocument} (h : c.ReadOf r) : c.asks answer r.wanted =
    asking c.workspace r.document.locator r.document.allImports := by
  have read : c.readAt answer r.wanted = .ok r.document := by
    rw [readAt, contentAt_of_obtains fixed h.obtained]
    simp only [h.read]
    rfl
  rw [asks, read, Document.locator_of_read h.read]

/-- What is asked for so far is the next round. -/
theorem nextRound_of_each {reads : List ReadDocument} (each : ∀ r ∈ reads, c.ReadOf r) :
    nextRound (c.asks answer) ⟨start, none⟩ (reads.map (·.wanted)) =
      firsts (asked c.workspace start (reads.map (·.document))) := by
  rw [nextRound, asked, List.flatMap_map, List.flatMap_map]
  congr 2
  exact List.flatMap_congr fun r hr => asks_of_readOf fixed (each r hr)

/-! ## The loop -/

namespace Progress

variable {reads : List ReadDocument} {queue : List Wanted} {known : Std.ExtTreeSet String}
  (finds : c.Finds answer start order) (h : c.Progress start reads queue known store)
  (split : order = reads.map (·.wanted) ++ remaining)

include finds h split

/-- What waits is what a breadth-first search finds next. -/
theorem queue_extends : queue <+: remaining := by
  have next : reads.map (·.wanted) ++ queue =
      nextRound (c.asks answer) ⟨start, none⟩ (reads.map (·.wanted)) := by
    rw [h.order, nextRound_of_each fixed h.each]
  have done : reads.map (·.wanted) <+: order := by
    rw [split]
    exact List.prefix_append _ _
  have more := nextRound_extends (c.asks answer) ⟨start, none⟩ done
  rw [finds.nextRound_eq, ← next, split] at more
  exact (List.prefix_append_right_inj _).mp more

/-- If nothing waits, all is found. -/
theorem remaining_eq_nil (idle : queue = []) : remaining = [] := by
  have next : nextRound (c.asks answer) ⟨start, none⟩ (reads.map (·.wanted)) =
      reads.map (·.wanted) := by
    rw [nextRound_of_each fixed h.each, ← h.order, idle, List.append_nil]
  obtain ⟨n, stable⟩ := finds.breadthFirst
  have all := within_extends_to next n
  rw [stable n le_rfl, split] at all
  have short := all.length_le
  rw [List.length_append] at short
  exact List.eq_nil_of_length_eq_zero (by omega)

end Progress

/-- From any state, the loop settles what a breadth-first search has still to find. -/
theorem Progress.loadAll_eq {reads : List ReadDocument} {queue : List Wanted}
    {known : Std.ExtTreeSet String} (finds : c.Finds answer start order)
    (h : c.Progress start reads queue known store)
    (split : order = reads.map (·.wanted) ++ remaining) (enough : remaining.length ≤ bound) :
    c.loadAll bound queue known (reads.map (·.document)) store remote =
      some ((c.settle answer remaining remote).1.map fun ds => ⟨reads.map (·.document) ++ ds⟩,
        (c.settle answer remaining remote).2) := by
  have waiting := h.queue_extends fixed finds split
  induction remaining generalizing bound reads queue known store remote with
  | nil =>
    obtain rfl := List.prefix_nil.mp waiting
    rw [settle, loadAll]
    simp [Except.map]
  | cons m remaining ih =>
    cases queue with
    | nil => exact absurd (h.remaining_eq_nil fixed finds split rfl) (List.cons_ne_nil _ _)
    | cons first queue =>
      obtain ⟨rfl, waiting⟩ := List.cons_prefix_cons.mp waiting
      obtain ⟨bound, rfl⟩ : ∃ b, bound = b + 1 := ⟨bound - 1, by simp at enough; omega⟩
      have resolved := resolve_of_absent fixed remote h.content?_head
      rw [loadAll, settle, outcome, readAt, resolved]
      cases hcontent : c.contentAt answer first.locator with
      | error error => rfl
      | ok content =>
        rw [hcontent] at resolved
        dsimp only at resolved ⊢
        cases hread : Document.read first.locator first.adoptedNamespace content with
        | error error => rfl
        | ok d =>
          simp only [Except.mapError]
          cases hjoined : misplaced? c.workspace first.locator (locations d.allImports) with
          | some fault =>
            obtain ⟨location, error⟩ := fault
            simp only [discover_of_misplaced hjoined]
            rfl
          | none =>
            obtain ⟨wanted, known', discovered⟩ :=
              exists_discover (ε := ε) known hjoined
            have next := h.step resolved hread discovered
            have documents : reads.map (·.document) ++ [d] =
                (reads ++ [⟨first, content, d⟩] : List ReadDocument).map (·.document) := by
              rw [List.map_append, List.map_singleton]
            have further : order =
                (reads ++ [⟨first, content, d⟩] : List ReadDocument).map (·.wanted) ++ remaining := by
              rw [split, List.map_append, List.map_singleton, List.append_assoc]
              rfl
            have fewer : remaining.length ≤ bound := by
              rw [List.length_cons] at enough
              omega
            simp only [discovered, documents]
            rw [ih next further fewer (next.queue_extends fixed finds further)]
            rw [← documents]
            cases (c.settle answer remaining (c.afterOne remote first)).1 with
            | error error => rfl
            | ok rest =>
              simp only [Except.map, List.append_assoc, List.singleton_append]

/-- A run with a sufficient bound reads what a breadth-first search finds. -/
theorem load_eq_settle (finds : c.Finds answer start order) (enough : order.length ≤ bound) :
    c.load bound start remote = some ((c.settle answer order remote).1.map Documents.mk,
      (c.settle answer order remote).2) :=
  (Progress.initial c start).loadAll_eq fixed finds rfl enough

end

/-! ## What comes of it -/

theorem outcome_eq_ok {ns : Option String} {d : Document}
    (read : c.readAt answer ⟨l, ns⟩ = .ok d)
    (placed : misplaced? c.workspace l (locations d.allImports) = none) :
    c.outcome answer ⟨l, ns⟩ = .ok d := by
  simp only [outcome, read, placed]

variable (c answer) in
/-- For whom a document is read does not matter to whether something comes of it. -/
theorem exists_outcome_eq_map (l : Locator) (ns : Option String) : ∃ f : Document → Document,
    c.outcome answer ⟨l, ns⟩ = (c.outcome answer ⟨l, none⟩).map f := by
  obtain ⟨f, same, read⟩ := exists_readAt_eq_map c answer l ns
  refine ⟨f, ?_⟩
  rw [outcome, outcome, read]
  cases c.readAt answer ⟨l, none⟩ with
  | error error => rfl
  | ok d =>
    simp only [Except.map, same]
    cases misplaced? c.workspace l (locations d.allImports) with
    | none => rfl
    | some fault => rfl

theorem settle_of_ok (each : ∀ m ∈ ms, ∃ d, c.outcome answer m = .ok d) (remote : σ) :
    ∃ ds, List.Forall₂ (fun m d => c.outcome answer m = .ok d) ms ds ∧
      c.settle answer ms remote = (.ok ds, ms.foldl c.afterOne remote) := by
  induction ms generalizing remote with
  | nil => exact ⟨[], .nil, rfl⟩
  | cons m ms ih =>
    obtain ⟨d, hd⟩ := each m List.mem_cons_self
    obtain ⟨ds, hds, settled⟩ :=
      ih (fun m hm => each m (List.mem_cons_of_mem _ hm)) (c.afterOne remote m)
    refine ⟨d :: ds, .cons hd hds, ?_⟩
    rw [settle, hd, settled]
    rfl

theorem settle_of_error {before after : List Wanted} {error : LoadError ε}
    (each : ∀ m ∈ before, ∃ d, c.outcome answer m = .ok d)
    (failed : c.outcome answer m = .error error) (remote : σ) :
    c.settle answer (before ++ m :: after) remote =
      (.error error, (before ++ [m]).foldl c.afterOne remote) := by
  induction before generalizing remote with
  | nil =>
    rw [List.nil_append, settle, failed]
    rfl
  | cons first before ih =>
    obtain ⟨d, hd⟩ := each first List.mem_cons_self
    have settled :=
      ih (fun m hm => each m (List.mem_cons_of_mem _ hm)) (c.afterOne remote first)
    rw [List.cons_append, settle, hd, settled]
    rfl

/-- Something comes of all, or there is a first of which nothing comes. -/
theorem exists_first_failure {m : Wanted} (hm : m ∈ ms) {error : LoadError ε}
    (failed : c.outcome answer m = .error error) : ∃ before m after error,
      ms = before ++ m :: after ∧ (∀ b ∈ before, ∃ d, c.outcome answer b = .ok d) ∧
        c.outcome answer m = .error error := by
  induction ms with
  | nil => exact absurd hm List.not_mem_nil
  | cons first ms ih =>
    cases hfirst : c.outcome answer first with
    | error error' =>
      exact ⟨[], first, ms, error', rfl, fun b hb => absurd hb List.not_mem_nil, hfirst⟩
    | ok d =>
      rcases List.mem_cons.mp hm with rfl | hm
      · rw [hfirst] at failed
        cases failed
      · obtain ⟨before, m', after, error', rfl, each, failed'⟩ := ih hm
        refine ⟨first :: before, m', after, error', rfl, fun b hb => ?_, failed'⟩
        rcases List.mem_cons.mp hb with rfl | hb
        · exact ⟨d, hfirst⟩
        · exact each b hb

/-- If every document has one content and finitely many can be reached, loading ends, and follows
the order in which a breadth-first search finds them; these are all, as locators are told apart by
their texts. If something comes of each of them, that is what is loaded. Otherwise the error is that
of the first of which nothing comes. Up to there each is resolved once. -/
theorem load_breadthFirst (fixed : ∀ l remote, (c.fetch l remote).1 = answer l)
    (finite : (Locator.toText '' {l | c.Reachable answer start l}).Finite) :
    ∃ order, c.Finds answer start order ∧
      ((∀ l l', c.Reachable answer start l → c.Reachable answer start l' →
          l.toText = l'.toText → l = l') →
        ∀ l, c.Reachable answer start l ↔ l ∈ order.map (·.locator)) ∧
      ∀ bound remote, order.length ≤ bound →
        ((∀ m ∈ order, ∃ d, c.outcome answer ⟨m.locator, none⟩ = .ok d) →
          ∃ ds, List.Forall₂ (fun m d => c.outcome answer m = .ok d) order ds.inOrder ∧
            c.load bound start remote = some (.ok ds, order.foldl c.afterOne remote)) ∧
        ((∃ m ∈ order, ∃ error, c.outcome answer ⟨m.locator, none⟩ = .error error) →
          ∃ before m after error, order = before ++ m :: after ∧
            (∀ b ∈ before, ∃ d, c.outcome answer b = .ok d) ∧
            c.outcome answer m = .error error ∧ c.load bound start remote =
              some (.error error, (before ++ [m]).foldl c.afterOne remote)) := by
  obtain ⟨order, finds⟩ := exists_finds finite
  refine ⟨order, finds, fun canonical l => ⟨fun reachable => ?_, fun found => ?_⟩,
    fun bound remote enough => ⟨fun sound => ?_, fun ⟨m, hm, error, failed⟩ => ?_⟩⟩
  · obtain ⟨m, hm, rfl⟩ := finds.complete canonical reachable
    exact List.mem_map_of_mem hm
  · obtain ⟨m, hm, rfl⟩ := List.mem_map.mp found
    exact finds.reached m hm
  · have each : ∀ m ∈ order, ∃ d, c.outcome answer m = .ok d := by
      intro m hm
      obtain ⟨d, hd⟩ := sound m hm
      obtain ⟨f, same⟩ := exists_outcome_eq_map c answer m.locator
        m.adoptedNamespace
      rw [hd] at same
      exact ⟨f d, same⟩
    obtain ⟨ds, hds, settled⟩ := settle_of_ok each remote
    refine ⟨⟨ds⟩, hds, ?_⟩
    rw [load_eq_settle fixed finds enough, settled]
    rfl
  · obtain ⟨f, same⟩ := exists_outcome_eq_map c answer m.locator
      m.adoptedNamespace
    rw [failed] at same
    obtain ⟨before, m', after, error', rfl, each, failed'⟩ := exists_first_failure hm same
    refine ⟨before, m', after, error', rfl, each, failed', ?_⟩
    rw [load_eq_settle fixed finds enough, settle_of_error each failed']
    rfl

/-! ## Two schemas that import each other -/

/-- The schema of `urn:p` imports that of `urn:q`. -/
def textP : String :=
  "<schema xmlns=\"http://www.w3.org/2001/XMLSchema\" targetNamespace=\"urn:p\">" ++
    "<import namespace=\"urn:q\" schemaLocation=\"q\"/></schema>"

/-- The schema of `urn:q` imports that of `urn:p`. -/
def textQ : String :=
  "<schema xmlns=\"http://www.w3.org/2001/XMLSchema\" targetNamespace=\"urn:q\">" ++
    "<import namespace=\"urn:p\" schemaLocation=\"p\"/></schema>"

def circularAnswer (l : Locator) : Except Unit ByteArray :=
  match [("p", textP), ("q", textQ)].lookup l.fileName with
  | some text => .ok text.toUTF8
  | none => .error ()

/-- The two documents, from a source that remembers what it was asked for. -/
def circular : Loader (List Locator) Unit where
  fetch l log := (circularAnswer l, log ++ [l])
  policy := ⟨[], false⟩
  workspace := ⟨Tree.empty, []⟩

def schemaP : Declarations := plainSchema "urn:p" [⟨.imported, some "urn:q", some "q", "urn:p"⟩] []

def schemaQ : Declarations := plainSchema "urn:q" [⟨.imported, some "urn:p", some "p", "urn:q"⟩] []

def rootP : Element := schemaElement "schema" [⟨none, "targetNamespace", "urn:p"⟩]
  [schemaElement "import" [⟨none, "namespace", "urn:q"⟩, ⟨none, "schemaLocation", "q"⟩] [] 73] 0

def rootQ : Element := schemaElement "schema" [⟨none, "targetNamespace", "urn:q"⟩]
  [schemaElement "import" [⟨none, "namespace", "urn:p"⟩, ⟨none, "schemaLocation", "p"⟩] [] 73] 0

theorem parse_textP : Element.ofText textP = .ok rootP := by cbv

theorem parse_textQ : Element.ofText textQ = .ok rootQ := by cbv

theorem readAt_circular :
    circular.readAt circularAnswer ⟨page "p", none⟩ = .ok (schemaDocument "p" schemaP) ∧
      circular.readAt circularAnswer ⟨page "q", none⟩ = .ok (schemaDocument "q" schemaQ) := by
  have readP : Document.read (page "p") none textP.toUTF8 = .ok (schemaDocument "p" schemaP) :=
    Document.read_eq_ok_iff.mpr ⟨textP, rootP, Text.Utf8.decode?_toUTF8 _, parse_textP, rfl⟩
  have readQ : Document.read (page "q") none textQ.toUTF8 = .ok (schemaDocument "q" schemaQ) :=
    Document.read_eq_ok_iff.mpr ⟨textQ, rootQ, Text.Utf8.decode?_toUTF8 _, parse_textQ, rfl⟩
  exact ⟨readAt_eq_ok rfl readP, readAt_eq_ok rfl readQ⟩

theorem locations_circular : locations (schemaDocument "p" schemaP).allImports = ["q"] ∧
    locations (schemaDocument "q" schemaQ).allImports = ["p"] :=
  ⟨rfl, rfl⟩

theorem join_circular : (page "p").join circular.workspace "q" = .ok (page "q") ∧
    (page "q").join circular.workspace "p" = .ok (page "p") :=
  ⟨by cbv, by cbv⟩

theorem leadsTo_circular : (∀ target, circular.LeadsTo circularAnswer (page "p") target ↔
      target = page "q") ∧
    ∀ target, circular.LeadsTo circularAnswer (page "q") target ↔ target = page "p" := by
  obtain ⟨readP, readQ⟩ := readAt_circular
  obtain ⟨locationsP, locationsQ⟩ := locations_circular
  obtain ⟨joinP, joinQ⟩ := join_circular
  constructor
  · intro target
    simp [LeadsTo, readP, locationsP, targets, joinP, Except.toOption, eq_comm]
  · intro target
    simp [LeadsTo, readQ, locationsQ, targets, joinQ, Except.toOption, eq_comm]

theorem reachable_circular {l : Locator} :
    circular.Reachable circularAnswer (page "p") l ↔ l = page "p" ∨ l = page "q" := by
  obtain ⟨fromP, fromQ⟩ := leadsTo_circular
  constructor
  · intro reachable
    induction reachable with
    | refl => exact Or.inl rfl
    | tail _ leads ih =>
      rcases ih with rfl | rfl
      · exact Or.inr ((fromP _).mp leads)
      · exact Or.inl ((fromQ _).mp leads)
  · rintro (rfl | rfl)
    · exact .refl
    · exact .single ((fromP _).mpr rfl)

theorem outcome_circular (l : Locator) (h : circular.Reachable circularAnswer (page "p") l) :
    ∃ d, circular.outcome circularAnswer ⟨l, none⟩ = .ok d := by
  obtain ⟨readP, readQ⟩ := readAt_circular
  obtain ⟨locationsP, locationsQ⟩ := locations_circular
  obtain ⟨joinP, joinQ⟩ := join_circular
  rcases reachable_circular.mp h with rfl | rfl
  · exact ⟨_, outcome_eq_ok readP (by rw [locationsP]; simp [misplaced?, joinP])⟩
  · exact ⟨_, outcome_eq_ok readQ (by rw [locationsQ]; simp [misplaced?, joinQ])⟩

theorem canonical_circular {l l' : Locator}
    (hl : circular.Reachable circularAnswer (page "p") l)
    (hl' : circular.Reachable circularAnswer (page "p") l') (same : l.toText = l'.toText) :
    l = l' := by
  have textP : (page "p").toText = "http://h/p" := by cbv
  have textQ : (page "q").toText = "http://h/q" := by cbv
  have differ : (page "p").toText ≠ (page "q").toText := by
    rw [textP, textQ]
    decide
  rcases reachable_circular.mp hl with rfl | rfl
  · rcases reachable_circular.mp hl' with rfl | rfl
    · rfl
    · exact absurd same differ
  · rcases reachable_circular.mp hl' with rfl | rfl
    · exact absurd same.symm differ
    · rfl

/-- Every document is remote. -/
theorem afterOne_circular {m : Wanted}
    (h : circular.Reachable circularAnswer (page "p") m.locator) (log : List Locator) :
    circular.afterOne log m = log ++ [m.locator] := by
  have away (name : String) :
      (Store.find circular.policy circular.workspace (page name) : Store.Finding Unit) =
        .toBeFetched := rfl
  have fetched (name : String) : circular.afterOne log ⟨page name, m.adoptedNamespace⟩ =
      log ++ [page name] := by
    rw [afterOne, Store.resolve, content?_empty, away]
    cases h : circularAnswer (page name) with
    | error error => simp only [circular, h]
    | ok content => simp only [circular, h]
  obtain ⟨l, ns⟩ := m
  rcases reachable_circular.mp h with rfl | rfl
  · exact fetched "p"
  · exact fetched "q"

theorem foldl_afterOne_circular {ms : List Wanted}
    (reached : ∀ m ∈ ms, circular.Reachable circularAnswer (page "p") m.locator)
    (log : List Locator) : ms.foldl circular.afterOne log = log ++ ms.map (·.locator) := by
  induction ms generalizing log with
  | nil => exact (List.append_nil log).symm
  | cons m ms ih =>
    rw [List.foldl_cons, afterOne_circular (reached m List.mem_cons_self),
      ih fun m hm => reached m (List.mem_cons_of_mem _ hm), List.append_assoc]
    rfl

/-- Loading ends with both schemas, each of them fetched once. -/
theorem load_breadthFirst_circular :
    (∀ l log, (circular.fetch l log).1 = circularAnswer l) ∧
    (Locator.toText '' {l | circular.Reachable circularAnswer (page "p") l}).Finite ∧
    ∃ order, circular.Finds circularAnswer (page "p") order ∧
      (∀ l, l ∈ order.map (·.locator) ↔ l = page "p" ∨ l = page "q") ∧
      ∀ bound, order.length ≤ bound → ∃ ds : Documents, ds.inOrder.length = order.length ∧
        circular.load bound (page "p") [] = some (.ok ds, order.map (·.locator)) := by
  have fixed : ∀ l log, (circular.fetch l log).1 = circularAnswer l := fun _ _ => rfl
  have finite : (Locator.toText '' {l | circular.Reachable circularAnswer (page "p") l}).Finite := by
    have pages : {l | circular.Reachable circularAnswer (page "p") l} = {page "p", page "q"} :=
      Set.ext fun l => reachable_circular
    rw [pages]
    exact (Set.toFinite _).image _
  obtain ⟨order, finds, all, runs⟩ := load_breadthFirst fixed finite
  have found := all fun l l' hl hl' => canonical_circular hl hl'
  refine ⟨fixed, finite, order, finds, fun l => ?_, fun bound enough => ?_⟩
  · rw [← found, reachable_circular]
  · obtain ⟨ds, each, loaded⟩ :=
      (runs bound [] enough).1 fun m hm => outcome_circular _ (finds.reached m hm)
    rw [foldl_afterOne_circular finds.reached, List.nil_append] at loaded
    exact ⟨ds, each.length_eq.symm, loaded⟩

end Loader

end SoapBindings
