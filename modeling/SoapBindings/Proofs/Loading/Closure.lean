import Mathlib
import SoapBindings.Loading
import SoapBindings.Proofs.Document.Importers
import SoapBindings.Proofs.Tables

/-!
# What is loaded

The start document is asked for, and each document that is loaded asks for others. A document may be
asked for more than once; it is loaded as it is asked for first (`firsts`), and in the order of
these first askings (`Loads.order`).

The loop of `loadAll` keeps a queue and the set of all that is known. `Progress` ties them to the
documents read so far: what has been read, and then the queue, are the first askings of all that
these documents ask for. A step keeps that (`Progress.step`), so it holds where the queue is empty.
-/

set_option autoImplicit false

namespace SoapBindings

open Files Schema

/-! ## Askings -/

namespace Loading

/-- The texts of locators, which tell documents apart. -/
def texts (ms : List Wanted) : List String := ms.map (·.locator.toText)

/-- The first asking for each document. -/
def firsts : List Wanted → List Wanted
  | [] => []
  | m :: ms => m :: (firsts ms).filter (·.locator.toText != m.locator.toText)

/-- The first asking for each document that is not known. -/
def unknown (known : String → Bool) (ms : List Wanted) : List Wanted :=
  (firsts ms).filter (!known ·.locator.toText)

/-- What an import in the document at `l` asks for, if it asks for anything. -/
def ask? (w : Workspace) (l : Locator) (i : Import) : Option Wanted :=
  (location? i).bind fun location =>
    (l.join w location).toOption.map fun target => ⟨target, adoptedNamespace? i⟩

/-- What some imports ask for. -/
def asking (w : Workspace) (l : Locator) (imports : List Import) : List Wanted :=
  imports.filterMap (ask? w l)

/-- The locations of all imports can be understood. -/
def Joined (w : Workspace) (l : Locator) (imports : List Import) : Prop :=
  ∀ i ∈ imports, ∀ location, location? i = some location → ∃ target, l.join w location = .ok target

/-- All that is asked for: the start, and then what documents ask for. -/
def asked (w : Workspace) (start : Locator) (ds : List Document) : List Wanted :=
  ⟨start, none⟩ :: ds.flatMap fun d => asking w d.locator d.allImports

section

variable {w : Workspace} {l start : Locator} {known known' : Std.ExtTreeSet String}
  {imports : List Import} {ms ms' wanted : List Wanted} {m : Wanted} {i : Import} {t : String}

theorem texts_append (ms ms' : List Wanted) : texts (ms ++ ms') = texts ms ++ texts ms' :=
  List.map_append

theorem asked_append (w : Workspace) (start : Locator) (ds : List Document) (d : Document) :
    asked w start (ds ++ [d]) = asked w start ds ++ asking w d.locator d.allImports := by
  rw [asked, asked, List.flatMap_append, List.flatMap_singleton, List.cons_append]

theorem texts_cons : texts (m :: ms) = m.locator.toText :: texts ms := rfl

theorem firsts_append : firsts (ms ++ ms') = firsts ms ++ unknown (texts ms).contains ms' := by
  induction ms with
  | nil => simp [firsts, texts, unknown]
  | cons first ms ih =>
    rw [List.cons_append, firsts, ih, List.filter_append, firsts, List.cons_append, unknown,
      List.filter_filter]
    congr 2
    apply List.filter_congr
    intro m _
    rw [texts_cons, List.contains_cons, Bool.not_or]
    rfl

theorem find?_firsts (t : String) :
    (firsts ms).find? (·.locator.toText == t) = ms.find? (·.locator.toText == t) := by
  induction ms with
  | nil => rfl
  | cons first ms ih =>
    rw [firsts, List.find?_cons, List.find?_cons]
    cases hfirst : first.locator.toText == t with
    | true => rfl
    | false =>
      -- The askings that are dropped are for the same document as `first`, which is another.
      simp only [← ih, List.find?_filter]
      congr 1
      funext m
      have hne := ne_of_beq_false hfirst
      by_cases hm : m.locator.toText = t
      · simp [hm, Ne.symm hne]
      · simp [hm]

/-- No document is asked for first twice. -/
theorem nodup_texts_firsts (ms : List Wanted) : (texts (firsts ms)).Nodup := by
  induction ms with
  | nil => exact List.nodup_nil
  | cons first ms ih =>
    refine List.nodup_cons.mpr ⟨?_, ih.sublist (List.filter_sublist.map _)⟩
    intro h
    obtain ⟨m, hm, same⟩ := List.mem_map.mp h
    simp [same] at hm

theorem unknown_cons_of_known (h : known.contains m.locator.toText = true) :
    unknown known.contains (m :: ms) = unknown known.contains ms := by
  rw [unknown, firsts, List.filter_cons_of_neg (by simpa using h), List.filter_filter, unknown]
  apply List.filter_congr
  intro m' _
  by_cases same : m'.locator.toText = m.locator.toText
  · rw [same, h]
    rfl
  · simp [same]

theorem mem_insert_text {u : String} : u ∈ known.insert t ↔ u = t ∨ u ∈ known := by
  rw [Std.ExtTreeSet.mem_insert, Std.LawfulEqCmp.compare_eq_iff_eq]
  exact or_congr_left ⟨Eq.symm, Eq.symm⟩

theorem contains_insert_text {u : String} :
    (known.insert t).contains u = (u == t || known.contains u) := by
  rw [Bool.eq_iff_iff, Std.ExtTreeSet.contains_iff_mem, mem_insert_text, Bool.or_eq_true,
    Std.ExtTreeSet.contains_iff_mem, beq_iff_eq]

theorem unknown_cons_of_unknown (h : known.contains m.locator.toText = false) :
    unknown known.contains (m :: ms) =
      m :: unknown (known.insert m.locator.toText).contains ms := by
  rw [unknown, firsts, List.filter_cons_of_pos (by simp [h]), List.filter_filter, unknown]
  congr 1
  apply List.filter_congr
  intro m' _
  rw [contains_insert_text, Bool.not_or, Bool.and_comm]
  rfl

/-! ## One document -/

theorem asking_cons_of_none (h : location? i = none) :
    asking w l (i :: imports) = asking w l imports := by
  rw [asking, List.filterMap_cons_none, asking]
  rw [ask?, h, Option.bind_none]

theorem asking_cons_of_join {location : String} {target : Locator} (h : location? i = some location)
    (hjoin : l.join w location = .ok target) :
    asking w l (i :: imports) = ⟨target, adoptedNamespace? i⟩ :: asking w l imports := by
  rw [asking, List.filterMap_cons_some, asking]
  rw [ask?, h, Option.bind_some, hjoin]
  rfl

theorem Joined.cons (here : ∀ location, location? i = some location →
    ∃ target, l.join w location = .ok target) (rest : Joined w l imports) :
    Joined w l (i :: imports) := by
  intro j hj
  rcases List.mem_cons.mp hj with rfl | hj
  · exact here
  · exact rest j hj

/-- What `discover` finds are the first askings for documents that are not known. -/
theorem discover_eq_ok {ε : Type} (h : discover w l known imports =
    (.ok (wanted, known') : Except (LoadError ε) (List Wanted × Std.ExtTreeSet String))) :
    Joined w l imports ∧ wanted = unknown known.contains (asking w l imports) ∧
      ∀ t, t ∈ known' ↔ t ∈ known ∨ t ∈ texts (asking w l imports) := by
  induction imports generalizing known known' wanted with
  | nil =>
    cases h
    exact ⟨fun i hi => absurd hi List.not_mem_nil, rfl, fun t => by simp [asking, texts]⟩
  | cons i imports ih =>
    rw [discover] at h
    split at h
    · next nowhere =>
      obtain ⟨joined, rfl, all⟩ := ih h
      rw [asking_cons_of_none nowhere]
      refine ⟨joined.cons fun location hlocation => ?_, rfl, all⟩
      rw [nowhere] at hlocation
      cases hlocation
    · next location hlocation =>
      split at h
      · cases h
      · next target htarget =>
        have here : ∀ other, location? i = some other → ∃ target, l.join w other = .ok target := by
          intro other hother
          rw [hlocation] at hother
          cases hother
          exact ⟨target, htarget⟩
        rw [asking_cons_of_join hlocation htarget]
        split at h
        · next hknown =>
          obtain ⟨joined, rfl, all⟩ := ih h
          refine ⟨joined.cons here, ?_, fun t => ?_⟩
          · rw [unknown_cons_of_known]
            exact hknown
          · rw [all, texts_cons, List.mem_cons, ← or_assoc]
            refine or_congr_left (or_iff_left_of_imp fun same => ?_).symm
            rw [same]
            exact Std.ExtTreeSet.contains_iff_mem.mp hknown
        · next hunknown =>
          split at h
          · cases h
          · next hrest =>
            cases h
            obtain ⟨joined, rfl, all⟩ := ih hrest
            refine ⟨joined.cons here, ?_, fun t => ?_⟩
            · rw [unknown_cons_of_unknown]
              exact Bool.eq_false_of_not_eq_true hunknown
            · rw [all, mem_insert_text, texts_cons, List.mem_cons, ← or_assoc]
              exact or_congr_left or_comm

end

end Loading

/-! ## The loop -/

/-- A document that was read: as what it was wanted, and from which content it was read. -/
structure ReadDocument where
  wanted : Wanted
  content : ByteArray
  document : Document

namespace Loader

open Loading

variable {σ ε : Type} {c : Loader σ ε} {start : Locator} {reads : List ReadDocument}
  {queue wanted : List Wanted} {known known' : Std.ExtTreeSet String} {store store' : Store}
  {remote remote' : σ} {content : ByteArray} {m : Wanted} {d : Document} {ds : Documents}
  {bound : Nat}

/-- A file or the source of remote documents gives the content of a document. -/
def Obtains (c : Loader σ ε) (l : Locator) (content : ByteArray) : Prop :=
  (Store.find c.policy c.workspace l : Store.Finding ε) = .found content ∨
    (Store.find c.policy c.workspace l : Store.Finding ε) = .toBeFetched ∧
      ∃ remote remote', c.fetch l remote = (.ok content, remote')

/-- A document that is not in the store is obtained, and kept there. -/
theorem resolve_eq_ok (absent : store.content? m.locator = none)
    (h : store.resolve c.fetch c.policy c.workspace m.locator remote =
      (.ok content, store', remote')) :
    c.Obtains m.locator content ∧ store' = store.keep m.locator content := by
  rw [Store.resolve, absent] at h
  cases hfind : (Store.find c.policy c.workspace m.locator : Store.Finding ε) with
  | found found =>
    rw [hfind] at h
    cases h
    exact ⟨Or.inl hfind, rfl⟩
  | refused fault =>
    rw [hfind] at h
    cases h
  | toBeFetched =>
    simp only [hfind] at h
    split at h
    · next hfetch =>
      cases h
      exact ⟨Or.inr ⟨hfind, _, _, hfetch⟩, rfl⟩
    · cases h

theorem resolve_of_fetch {l : Locator} (absent : store.content? l = none)
    (away : (Store.find c.policy c.workspace l : Store.Finding ε) = .toBeFetched)
    (fetched : c.fetch l remote = (.ok content, remote')) :
    store.resolve c.fetch c.policy c.workspace l remote =
      (.ok content, store.keep l content, remote') := by
  simp only [Store.resolve, absent, away, fetched]

theorem content?_keep_of_ne {l other : Locator} (h : l.toText ≠ other.toText) :
    (store.keep l content).content? other = store.content? other :=
  getElem?_insert_of_ne h

/-- One round of the loop: a document is resolved, read and asked for others. -/
theorem loadAll_cons {loaded : List Document}
    (resolved : store.resolve c.fetch c.policy c.workspace m.locator remote =
      (.ok content, store', remote'))
    (read : Document.read m.locator m.adoptedNamespace content = .ok d)
    (discovered : discover c.workspace m.locator known d.allImports =
      (.ok (wanted, known') : Except (LoadError ε) (List Wanted × Std.ExtTreeSet String))) :
    c.loadAll (bound + 1) (m :: queue) known loaded store remote =
      c.loadAll bound (queue ++ wanted) known' (loaded ++ [d]) store' remote' := by
  simp only [loadAll, resolved, read, discovered]

/-- The document was read from what it was wanted as, and its imports can be understood. -/
structure ReadOf (c : Loader σ ε) (r : ReadDocument) : Prop where
  obtained : c.Obtains r.wanted.locator r.content
  read : Document.read r.wanted.locator r.wanted.adoptedNamespace r.content = .ok r.document
  joined : Joined c.workspace r.document.locator r.document.allImports

/-- The documents are those that the start leads to: each that is asked for was read, as it is asked
for first and in the order of the first askings. -/
structure Loads (c : Loader σ ε) (start : Locator) (reads : List ReadDocument) : Prop where
  order : reads.map (·.wanted) = firsts (asked c.workspace start (reads.map (·.document)))
  each : ∀ r ∈ reads, c.ReadOf r

/-- The documents that were read so far, with the state of the loop that read them. -/
structure Progress (c : Loader σ ε) (start : Locator) (reads : List ReadDocument)
    (queue : List Wanted) (known : Std.ExtTreeSet String) (store : Store) : Prop where
  order : reads.map (·.wanted) ++ queue =
    firsts (asked c.workspace start (reads.map (·.document)))
  known : ∀ t, t ∈ known ↔ t ∈ texts (asked c.workspace start (reads.map (·.document)))
  stored : ∀ t ∈ store.contents, t ∈ texts (reads.map (·.wanted))
  each : ∀ r ∈ reads, c.ReadOf r

theorem Progress.initial (c : Loader σ ε) (start : Locator) :
    c.Progress start [] [⟨start, none⟩] (Std.ExtTreeSet.ofList [start.toText]) .empty where
  order := rfl
  known t := by
    rw [Std.ExtTreeSet.mem_ofList, List.contains_iff_mem]
    rfl
  stored t ht := absurd ht Std.ExtTreeMap.not_mem_empty
  each r hr := absurd hr List.not_mem_nil

namespace Progress

/-- What is at the head of the queue has not been resolved before. -/
theorem content?_head (h : c.Progress start reads (m :: queue) known store) :
    store.content? m.locator = none := by
  refine Std.ExtTreeMap.getElem?_eq_none fun hstored => ?_
  have nodup := nodup_texts_firsts (asked c.workspace start (reads.map (·.document)))
  rw [← h.order, texts_append] at nodup
  exact List.disjoint_of_nodup_append nodup (h.stored _ hstored) List.mem_cons_self

/-- One document is read, and what it asks for and was not known comes to the end of the queue. -/
theorem step (h : c.Progress start reads (m :: queue) known store)
    (resolved : store.resolve c.fetch c.policy c.workspace m.locator remote =
      (.ok content, store', remote'))
    (read : Document.read m.locator m.adoptedNamespace content = .ok d)
    (discovered : discover c.workspace m.locator known d.allImports =
      (.ok (wanted, known') : Except (LoadError ε) (List Wanted × Std.ExtTreeSet String))) :
    c.Progress start (reads ++ [⟨m, content, d⟩]) (queue ++ wanted) known' store' := by
  have locator := Document.locator_of_read read
  obtain ⟨obtained, rfl⟩ := resolve_eq_ok h.content?_head resolved
  obtain ⟨joined, rfl, all⟩ := discover_eq_ok discovered
  rw [← locator] at joined all
  have asks := asked_append c.workspace start (reads.map (·.document)) d
  have same : known.contains =
      (texts (asked c.workspace start (reads.map (·.document)))).contains := by
    funext t
    rw [Bool.eq_iff_iff, Std.ExtTreeSet.contains_iff_mem, h.known, List.contains_iff_mem]
  refine ⟨?_, fun t => ?_, fun t ht => ?_, fun r hr => ?_⟩
  · rw [List.map_append, List.map_append, List.map_singleton, List.map_singleton, asks,
      firsts_append, ← h.order, ← same, locator, List.append_assoc, List.append_assoc]
    rfl
  · rw [all, h.known, List.map_append, List.map_singleton, asks, texts_append, List.mem_append]
  · rw [List.map_append, texts_append, List.mem_append]
    rcases mem_insert_iff.mp ht with same | ht
    · exact Or.inr (List.mem_singleton.mpr same.symm)
    · exact Or.inl (h.stored t ht)
  · rcases List.mem_append.mp hr with hr | hr
    · exact h.each r hr
    · rw [List.mem_singleton.mp hr]
      exact ⟨obtained, read, joined⟩

/-- From any state, a run that succeeds ends with the documents that the start leads to. -/
theorem run (h : c.Progress start reads queue known store)
    (run : c.loadAll bound queue known (reads.map (·.document)) store remote =
      some (.ok ds, remote')) :
    ∃ reads', c.Loads start reads' ∧ ds.inOrder = reads'.map (·.document) := by
  induction bound generalizing reads queue known store remote with
  | zero =>
    cases queue with
    | nil =>
      cases run
      exact ⟨reads, ⟨by simpa using h.order, h.each⟩, rfl⟩
    | cons m queue => cases run
  | succ bound ih =>
    cases queue with
    | nil =>
      cases run
      exact ⟨reads, ⟨by simpa using h.order, h.each⟩, rfl⟩
    | cons m queue =>
      rw [loadAll] at run
      split at run
      · cases run
      · next content _ _ resolved =>
        split at run
        · cases run
        · next d read =>
          split at run
          · cases run
          · next discovered =>
            have next := h.step resolved read discovered
            have documents : reads.map (·.document) ++ [d] =
                (reads ++ [⟨m, content, d⟩] : List ReadDocument).map (·.document) := by
              rw [List.map_append, List.map_singleton]
            rw [documents] at run
            exact ih next run

end Progress

/-- What a successful run loads are the documents that the start leads to. -/
theorem loads_of_load (h : c.load bound start remote = some (.ok ds, remote')) :
    ∃ reads, c.Loads start reads ∧ ds.inOrder = reads.map (·.document) :=
  (Progress.initial c start).run h

end Loader

end SoapBindings
