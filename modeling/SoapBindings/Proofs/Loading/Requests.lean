import Mathlib.Data.List.Basic
import SoapBindings.Proofs.Files.Writing
import SoapBindings.Store

/-!
# What a store answers over time

A store is asked again and again, and between two requests files may come and go and the source of
remote documents may change its mind. `Store.turns` is such a course of events, every request with
the workspace and the source as they are at its time. Whatever these do, a document stays what it
was when it was first got (`turns_settled`), and each single turn goes by the same rules
(`Turn.Lawful`): a failure leaves no trace, the first copy of a remote document is used, and the
source is only asked when there is no copy and downloads are wanted.

That the source is not asked is said in the way in which it can be observed: with any other source
the turn would have been the same, and would have left that source in the state that it was in.
-/

set_option autoImplicit false

namespace SoapBindings

open Files

/-! ## Copies -/

namespace Files

variable {w : Workspace} {path : String} {content : ByteArray}

/-- A path with a slash at its end is not that of a file. -/
theorem Tree.not_read_of_endsInSlash {t : Tree} (slash : path.toList.getLast? = some '/') :
    t.read path ≠ .ok content := by
  intro h
  obtain ⟨place, located, file⟩ := Tree.read_eq_ok_iff.mp h
  have walked := Tree.walk_of_locate located
  obtain ⟨front, ends⟩ := List.getLast?_eq_some_iff.mp slash
  unfold Tree.locate at located
  by_cases nul : path.contains '\x00' = true
  · rw [if_pos nul] at located
    cases located
  · rw [if_neg nul] at located
    simp only [walked, bind, Except.bind] at located
    split at located
    · rw [file] at located
      cases located
    · next asksNot =>
      refine asksNot ?_
      have reversed : path.toList.reverse = '/' :: front.reverse := by simp [ends]
      conv_lhs => whnf
      rw [reversed]
      rfl

/-- The empty path stands for the directory itself. -/
theorem Workspace.absolute_empty_endsInSlash (w : Workspace) :
    (w.absolute "").toList.getLast? = some '/' := by
  have relative : isAbsolute "" = false := rfl
  have rooted : w.directory.toPath.isEmpty = false := by
    rw [Place.toPath]
    simp
  rw [absolute, relative, if_neg Bool.false_ne_true, joinPath, relative, rooted]
  by_cases slash : (w.directory.toPath.toList.getLast? == some '/') = true
  · simp [eq_of_beq slash]
  · simp [slash]

/-- There is a file at a path if and only if something can be read there. -/
theorem Workspace.isFile_absolute_iff :
    w.tree.isFile (w.absolute path) = true ↔ ∃ content, w.read path = .ok content := by
  have isFile : w.tree.isFile (w.absolute path) = true ↔
      ∃ content, w.tree.read (w.absolute path) = .ok content := by
    rw [Tree.isFile]
    cases w.tree.read (w.absolute path) with
    | error refusal => simp [Except.toBool]
    | ok content => simp [Except.toBool]
  rw [isFile]
  by_cases empty : path = ""
  · subst empty
    constructor
    · rintro ⟨content, h⟩
      exact absurd h (Tree.not_read_of_endsInSlash w.absolute_empty_endsInSlash)
    · rintro ⟨content, h⟩
      cases h
  · rw [read_eq_of_nonempty (by simpa using empty)]

end Files

namespace Store

variable {σ ε : Type} {p : StorePolicy} {w : Workspace} {l : Locator} {s : Store}
  {paths : List String} {content : ByteArray}

/-- The content is that of the first of some places where there is a file. -/
def FirstCopy (w : Workspace) (paths : List String) (content : ByteArray) : Prop :=
  ∃ before place after, paths = before ++ place :: after ∧ w.read place = .ok content ∧
    ∀ earlier ∈ before, ∀ other, w.read earlier ≠ .ok other

/-- There is a file at none of the places. -/
def NoCopy (w : Workspace) (paths : List String) : Prop :=
  ∀ place ∈ paths, ∀ content, w.read place ≠ .ok content

theorem not_isFile_iff {place : String} : w.tree.isFile (w.absolute place) = false ↔
    ∀ content, w.read place ≠ .ok content := by
  rw [← Bool.not_eq_true, Workspace.isFile_absolute_iff, not_exists]

theorem find?_isFile_eq_none_iff :
    (paths.find? fun place => w.tree.isFile (w.absolute place)) = none ↔ NoCopy w paths := by
  simp [NoCopy, not_isFile_iff]

theorem find_of_firstCopy (remote : l.source = .remote)
    (copy : FirstCopy w (copyPlaces p l) content) :
    (find p w l : Finding ε) = .found content := by
  obtain ⟨before, place, after, listed, here, notBefore⟩ := copy
  have first : ((copyPlaces p l).find? fun place => w.tree.isFile (w.absolute place)) =
      some place := by
    rw [listed, List.find?_eq_some_iff_append]
    refine ⟨Workspace.isFile_absolute_iff.mpr ⟨_, here⟩, before, after, rfl, fun earlier h => ?_⟩
    rw [not_isFile_iff.mpr (notBefore earlier h)]
    rfl
  simp only [find, remote, first, readFile, here]

theorem find_of_noCopy (remote : l.source = .remote)
    (noCopy : NoCopy w (copyPlaces p l)) : (find p w l : Finding ε) =
      if p.localOnly then .refused (.noCopy (copyPlaces p l)) else .toBeFetched := by
  simp only [find, remote, find?_isFile_eq_none_iff.mpr noCopy]

/-- A document is asked for at a distance only if it is remote, has no copy, and may be. -/
theorem find_eq_toBeFetched_iff : (find p w l : Finding ε) = .toBeFetched ↔
    l.source = .remote ∧ NoCopy w (copyPlaces p l) ∧ p.localOnly = false := by
  have notFetched (path : String) : (readFile w path : Finding ε) ≠ .toBeFetched := by
    rw [readFile]
    split <;> simp
  cases remote : l.source with
  | onDisk path => simp [find, remote, notFetched]
  | unsupported scheme => simp [find, remote]
  | remote =>
    cases found : (copyPlaces p l).find? fun place => w.tree.isFile (w.absolute place) with
    | some place =>
      have copied : ¬ NoCopy w (copyPlaces p l) := by
        rw [← find?_isFile_eq_none_iff]
        exact fun nowhere => Option.some_ne_none place (found.symm.trans nowhere)
      simp [find, remote, found, notFetched, copied]
    | none =>
      have noCopy := find?_isFile_eq_none_iff.mp found
      rw [find_of_noCopy remote noCopy]
      simp [noCopy]

/-! ## Turns -/

/-- A document is asked for. The workspace, and what a source of remote documents would answer, are
those of the time of the request. -/
structure Request (σ ε : Type) where
  locator : Locator
  workspace : Workspace
  fetch : Fetcher σ ε

/-- A request, with the store and the state of the source before it and after it. -/
structure Turn (σ ε : Type) where
  request : Request σ ε
  before : Store
  remote : σ
  answer : Except (FetchError ε) ByteArray
  after : Store
  remoteAfter : σ

def turn (p : StorePolicy) (r : Request σ ε) (s : Store) (remote : σ) : Turn σ ε :=
  let result := resolve r.fetch p r.workspace r.locator s remote
  ⟨r, s, remote, result.1, result.2.1, result.2.2⟩

/-- One request after the other is put to a store. -/
def turns (p : StorePolicy) : List (Request σ ε) → Store → σ → List (Turn σ ε)
  | [], _, _ => []
  | r :: requests, s, remote =>
    let now := turn p r s remote
    now :: turns p requests now.after now.remoteAfter

namespace Turn

/-- The source is not asked: any other would be left as it was, and the answer would be the same. -/
def Unasked (p : StorePolicy) (t : Turn σ ε) : Prop :=
  ∀ fetch, resolve fetch p t.request.workspace t.request.locator t.before t.remote =
    (t.answer, t.after, t.remote)

/-- Neither files nor the source are looked at, and the store remains as it is. -/
def Remembered (p : StorePolicy) (t : Turn σ ε) : Prop :=
  ∀ fetch w, resolve fetch p w t.request.locator t.before t.remote = (t.answer, t.before, t.remote)

/-- Where the document may have copies, in the order in which they are looked for. -/
def places (p : StorePolicy) (t : Turn σ ε) : List String :=
  p.copies.filterMap t.request.locator.copyPath?

/-- The document is remote and has to be found now. -/
def IsNew (t : Turn σ ε) : Prop :=
  t.request.locator.source = .remote ∧ t.before.content? t.request.locator = none

/-- The rules that each turn goes by. -/
structure Lawful (p : StorePolicy) (t : Turn σ ε) : Prop where
  failed : ∀ error, t.answer = .error error → t.after = t.before
  /-- Whatever the failure, it is told of which document. -/
  named : ∀ error, t.answer = .error error → error.locator = t.request.locator ∧
    ∀ [HasMessage ε], t.request.locator.toText.toList <:+: error.message.toList
  copied : t.IsNew → ∀ content, FirstCopy t.request.workspace (t.places p) content →
    t.answer = .ok content
  fetched : t.IsNew → NoCopy t.request.workspace (t.places p) → p.localOnly = false →
    t.answer = (t.request.fetch t.request.locator t.remote).1.mapError
        (⟨t.request.locator, .remote ·⟩) ∧
      t.remoteAfter = (t.request.fetch t.request.locator t.remote).2
  /-- In all other cases the source is left alone. -/
  unasked : ¬ (t.IsNew ∧ NoCopy t.request.workspace (t.places p) ∧ p.localOnly = false) →
    t.Unasked p
  /-- All places are listed, in the message as well. -/
  refused : t.IsNew → NoCopy t.request.workspace (t.places p) → p.localOnly = true →
    ∃ error, t.answer = .error error ∧ error.fault = .noCopy (t.places p) ∧
      ∀ [HasMessage ε], (String.join ((t.places p).map (" " ++ ·))).toList <:+ error.message.toList

/-- The turn is what the store makes of its request. -/
def Taken (p : StorePolicy) (t : Turn σ ε) : Prop :=
  resolve t.request.fetch p t.request.workspace t.request.locator t.before t.remote =
    (t.answer, t.after, t.remoteAfter)

end Turn

/-! ## One turn -/

section

variable {fetch : Fetcher σ ε} {remote remote' : σ} {answer : Except (FetchError ε) ByteArray}
  {s' : Store}

theorem resolve_of_kept (kept : s.content? l = some content) :
    resolve fetch p w l s remote = (.ok content, s, remote) := by
  simp only [resolve, kept]

theorem resolve_of_found (absent : s.content? l = none)
    (found : (find p w l : Finding ε) = .found content) :
    resolve fetch p w l s remote = (.ok content, s.keep l content, remote) := by
  simp only [resolve, absent, found]

theorem resolve_of_refused {fault : FetchFault ε} (absent : s.content? l = none)
    (refused : find p w l = .refused fault) :
    resolve fetch p w l s remote = (.error ⟨l, fault⟩, s, remote) := by
  simp only [resolve, absent, refused]

theorem resolve_of_toBeFetched (fetch : Fetcher σ ε) (remote : σ) (absent : s.content? l = none)
    (away : (find p w l : Finding ε) = .toBeFetched) :
    (resolve fetch p w l s remote).1 = (fetch l remote).1.mapError (⟨l, .remote ·⟩) ∧
      (resolve fetch p w l s remote).2.2 = (fetch l remote).2 := by
  simp only [resolve, absent, away]
  obtain ⟨result, state⟩ := fetch l remote
  cases result with
  | error error => exact ⟨rfl, rfl⟩
  | ok content => exact ⟨rfl, rfl⟩

/-- Unless a document is to be fetched, the source is not asked. -/
theorem exists_resolve_eq (s : Store) (remote : σ)
    (unfetched : s.content? l = none → (find p w l : Finding ε) ≠ .toBeFetched) :
    ∃ answer s', ∀ fetch : Fetcher σ ε, resolve fetch p w l s remote = (answer, s', remote) := by
  cases kept : s.content? l with
  | some content => exact ⟨_, _, fun fetch => resolve_of_kept kept⟩
  | none =>
    cases found : (find p w l : Finding ε) with
    | found content => exact ⟨_, _, fun fetch => resolve_of_found kept found⟩
    | refused fault => exact ⟨_, _, fun fetch => resolve_of_refused kept found⟩
    | toBeFetched => exact absurd found (unfetched kept)

/-- A document is got now, or it was got before, or it is not got; in the first case alone does the
store change. -/
theorem resolve_cases (h : resolve fetch p w l s remote = (answer, s', remote')) :
    (∃ content, answer = .ok content ∧ s.content? l = none ∧ s' = s.keep l content) ∨
      (∃ content, answer = .ok content ∧ s.content? l = some content ∧ s' = s) ∨
      ∃ fault, answer = .error ⟨l, fault⟩ ∧ s' = s := by
  rw [resolve] at h
  cases kept : s.content? l with
  | some content =>
    simp only [kept] at h
    cases h
    exact Or.inr (Or.inl ⟨content, rfl, rfl, rfl⟩)
  | none =>
    simp only [kept] at h
    split at h
    · cases h
      exact Or.inl ⟨_, rfl, rfl, rfl⟩
    · cases h
      exact Or.inr (Or.inr ⟨_, rfl, rfl⟩)
    · split at h
      · cases h
        exact Or.inl ⟨_, rfl, rfl, rfl⟩
      · cases h
        exact Or.inr (Or.inr ⟨_, rfl, rfl⟩)

end

namespace Turn

variable {t : Turn σ ε}

theorem Taken.failed (h : t.Taken p) {error : FetchError ε} (failed : t.answer = .error error) :
    t.after = t.before ∧ error.locator = t.request.locator := by
  rcases resolve_cases h with ⟨_, got, _⟩ | ⟨_, got, _⟩ | ⟨fault, failed', same⟩
  · rw [failed] at got
    cases got
  · rw [failed] at got
    cases got
  · rw [failed] at failed'
    cases failed'
    exact ⟨same, rfl⟩

/-- What was got is kept. -/
theorem Taken.content?_after (h : t.Taken p) (got : t.answer = .ok content) :
    t.after.content? t.request.locator = some content := by
  rcases resolve_cases h with ⟨_, got', _, after⟩ | ⟨_, got', kept, same⟩ | ⟨_, failed, _⟩
  · rw [got] at got'
    cases got'
    rw [after]
    exact Std.ExtTreeMap.getElem?_insert_self
  · rw [got] at got'
    cases got'
    rw [same, kept]
  · rw [got] at failed
    cases failed

/-- What was kept remains so. -/
theorem Taken.keeps (h : t.Taken p) (kept : t.before.content? l = some content) :
    t.after.content? l = some content := by
  rcases resolve_cases h with ⟨_, _, absent, after⟩ | ⟨_, _, _, same⟩ | ⟨_, _, same⟩
  · have other : t.request.locator.toText ≠ l.toText := by
      intro sameText
      rw [content?, sameText] at absent
      rw [content?, absent] at kept
      cases kept
    rw [after]
    exact (getElem?_insert_of_ne other).trans kept
  · rwa [same]
  · rwa [same]

theorem Taken.unasked (h : t.Taken p)
    (noNeed : ¬ (t.IsNew ∧ NoCopy t.request.workspace (t.places p) ∧ p.localOnly = false)) :
    t.Unasked p := by
  have unfetched : t.before.content? t.request.locator = none →
      (find p t.request.workspace t.request.locator : Finding ε) ≠ .toBeFetched := by
    intro absent found
    obtain ⟨remote, noCopy, fetches⟩ := find_eq_toBeFetched_iff.mp found
    exact noNeed ⟨⟨remote, absent⟩, noCopy, fetches⟩
  obtain ⟨answer, after, same⟩ := exists_resolve_eq t.before t.remote unfetched
  intro fetch
  rw [Taken, same] at h
  obtain ⟨sameAnswer, rest⟩ := Prod.mk.inj h
  rw [same, sameAnswer, (Prod.mk.inj rest).1]

theorem infix_message [HasMessage ε] (error : FetchError ε) :
    error.locator.toText.toList <:+: error.message.toList := by
  simp only [FetchError.message, String.toList_append, List.append_assoc]
  exact ⟨_, _, List.append_assoc ..⟩

theorem suffix_message [HasMessage ε] (l : Locator) (paths : List String) :
    (String.join (paths.map (" " ++ ·))).toList <:+
      (⟨l, .noCopy paths⟩ : FetchError ε).message.toList := by
  cases paths with
  | nil =>
    rw [List.map_nil, String.join_nil, String.toList_empty]
    exact List.nil_suffix
  | cons place paths =>
    have text : (.noCopy (place :: paths) : FetchFault ε).message =
        "remote fetch disabled and document is not found in:" ++
          String.join ((place :: paths).map (" " ++ ·)) := rfl
    rw [FetchError.message, text]
    simp only [String.toList_append]
    exact (List.suffix_append _ _).trans (List.suffix_append _ _)

theorem Taken.lawful (h : t.Taken p) : t.Lawful p where
  failed _ failed := (h.failed failed).1
  named error failed := by
    obtain ⟨_, named⟩ := h.failed failed
    exact ⟨named, named ▸ infix_message error⟩
  unasked := h.unasked
  copied new content copy := by
    rw [Taken, resolve_of_found new.2 (find_of_firstCopy new.1 copy)] at h
    exact (congrArg Prod.fst h).symm
  fetched new noCopy fetches := by
    have away : (find p t.request.workspace t.request.locator : Finding ε) = .toBeFetched :=
      find_eq_toBeFetched_iff.mpr ⟨new.1, noCopy, fetches⟩
    obtain ⟨answer, state⟩ :=
      resolve_of_toBeFetched t.request.fetch t.remote new.2 away
    rw [h] at answer state
    exact ⟨answer, state⟩
  refused new noCopy localOnly := by
    have none : find p t.request.workspace t.request.locator =
        .refused (.noCopy (t.places p) : FetchFault ε) := by
      rw [find_of_noCopy new.1 noCopy, if_pos localOnly]
      rfl
    rw [Taken, resolve_of_refused new.2 none] at h
    exact ⟨_, (congrArg Prod.fst h).symm, rfl, suffix_message _ _⟩

end Turn

/-! ## One turn after the other -/

variable {requests : List (Request σ ε)} {remote : σ} {t : Turn σ ε}

theorem taken_turn (r : Request σ ε) : (turn p r s remote).Taken p := rfl

theorem taken_of_mem_turns (h : t ∈ turns p requests s remote) : t.Taken p := by
  induction requests generalizing s remote with
  | nil => cases h
  | cons r requests ih =>
    rcases List.mem_cons.mp h with rfl | h
    · exact taken_turn r
    · exact ih h

/-- What is kept at first is kept before each turn. -/
theorem content?_before (h : t ∈ turns p requests s remote) (kept : s.content? l = some content) :
    t.before.content? l = some content := by
  induction requests generalizing s remote with
  | nil => cases h
  | cons r requests ih =>
    rcases List.mem_cons.mp h with rfl | later
    · exact kept
    · exact ih later ((taken_turn r).keeps kept)

/-- What is got in one turn is kept before all later ones. -/
theorem content?_before_later {first later : Turn σ ε}
    (h : [first, later].Sublist (turns p requests s remote)) (got : first.answer = .ok content) :
    later.before.content? first.request.locator = some content := by
  induction requests generalizing s remote with
  | nil => cases h
  | cons r requests ih =>
    rcases List.sublist_cons_iff.mp h with h | ⟨rest, same, h⟩
    · exact ih h
    · obtain ⟨rfl, rfl⟩ := List.cons.inj same
      exact content?_before (List.singleton_sublist.mp h) ((taken_turn r).content?_after got)

/-- Once a document was got, all later requests for it have that answer, without a look at files or
at the source, and change nothing; whatever is asked for, and whatever files and source are like at
the time, each turn goes by the rules; and if nothing may be fetched, the source is never asked. -/
theorem turns_settled (p : StorePolicy) (requests : List (Request σ ε)) (s : Store) (remote : σ) :
    (∀ first later content, [first, later].Sublist (turns p requests s remote) →
      first.answer = .ok content →
        later.request.locator.toText = first.request.locator.toText →
          later.answer = .ok content ∧ later.Remembered p) ∧
    (∀ t ∈ turns p requests s remote, t.Lawful p) ∧
    (p.localOnly = true → ∀ t ∈ turns p requests s remote, t.Unasked p) := by
  refine ⟨fun first later content sub got same => ?_, fun t ht => (taken_of_mem_turns ht).lawful,
    fun localOnly t ht => (taken_of_mem_turns ht).unasked fun ⟨_, _, fetches⟩ => ?_⟩
  · have kept : later.before.content? later.request.locator = some content := by
      rw [content?, same]
      exact content?_before_later sub got
    have taken : later.Taken p := taken_of_mem_turns (sub.subset (by simp))
    rw [Turn.Taken, resolve_of_kept kept] at taken
    obtain ⟨answer, _⟩ := Prod.mk.inj taken
    refine ⟨answer.symm, fun fetch w => ?_⟩
    rw [resolve_of_kept kept, answer]
  · rw [localOnly] at fetches
    cases fetches

/-! ## A source that changes its mind -/

def farAway : Locator := ⟨⟨"http", some ⟨"", .name "h", none⟩, .segments ["a"], none⟩⟩

/-- A request for a remote document of which there is no copy, to a source that logs what it is
asked for. -/
def requestFor (answer : Except Unit ByteArray) : Request (List Locator) Unit :=
  ⟨farAway, ⟨Tree.empty, []⟩, fun l log => (answer, log ++ [l])⟩

def fetching : StorePolicy := ⟨["copies"], false⟩

/-- The source fails, then has the document, then fails again. -/
def changing : List (Request (List Locator) Unit) :=
  [requestFor (.error ()), requestFor (.ok "x".toUTF8), requestFor (.error ())]

theorem noCopy_of_empty (directory : Place) : NoCopy ⟨Tree.empty, directory⟩ paths := by
  intro path _ content h
  rw [Workspace.read] at h
  split at h
  · cases h
  · obtain ⟨place, _, file⟩ := Tree.read_eq_ok_iff.mp h
    rw [Tree.entry?] at file
    split at file
    · cases file
    · simp [Tree.empty] at file

theorem answer_farAway {answer : Except Unit ByteArray} {log : List Locator}
    (absent : s.content? farAway = none) : (turn fetching (requestFor answer) s log).answer =
      answer.mapError (⟨farAway, .remote ·⟩) :=
  (resolve_of_toBeFetched _ _ absent (find_eq_toBeFetched_iff.mpr ⟨rfl, noCopy_of_empty [], rfl⟩)).1

/-- The first failure is forgotten, and the second one does not come about. -/
theorem turns_settled_changing : ∃ first second third,
    turns fetching changing empty [] = [first, second, third] ∧
      first.answer = .error ⟨farAway, .remote ()⟩ ∧ first.after = first.before ∧
      second.answer = .ok "x".toUTF8 ∧ third.answer = .ok "x".toUTF8 ∧
      third.Remembered fetching := by
  obtain ⟨settled, lawful, _⟩ := turns_settled fetching changing empty []
  let first := turn fetching (requestFor (.error ())) empty []
  let second := turn fetching (requestFor (.ok "x".toUTF8)) first.after first.remoteAfter
  let third := turn fetching (requestFor (.error ())) second.after second.remoteAfter
  have absent : empty.content? farAway = none := Std.ExtTreeMap.getElem?_empty
  have failed : first.answer = .error ⟨farAway, .remote ()⟩ := answer_farAway absent
  have unchanged : first.after = empty := (lawful first List.mem_cons_self).failed _ failed
  have got : second.answer = .ok "x".toUTF8 := answer_farAway (by rw [unchanged, absent])
  have later : [second, third].Sublist (turns fetching changing empty []) :=
    List.sublist_cons_self ..
  obtain ⟨again, remembered⟩ := settled second third _ later got rfl
  exact ⟨first, second, third, rfl, failed, unchanged, got, again, remembered⟩

end Store

end SoapBindings
