import Mathlib.Data.List.Forall2
import Mathlib.Data.List.Induction
import SoapBindings.FetchScript

/-!
# What becomes of expectations

A script is filled and fetched from in any order. Of the expectations for one locator those that
were added first are used first, each of them by one fetch and in the order of the fetches, and the
others are pending in the order in which they were added (`Accounts.inTurn`). So the number of
fetches that were answered tells which expectation the next fetch uses, or that there is none; a
fetch without one fails and uses nothing (`run_accounts`).

One call is looked at first: a fetch takes the first expectation for its locator out of the list, or
there is none (`fetch_cases`). What holds of a whole run follows call by call, from the first to the
last.
-/

set_option autoImplicit false

namespace SoapBindings.FetchScript

/-! ## Runs -/

/-- What is done with a script. -/
inductive Call where
  | expect (e : Expectation)
  | fetch (l : Locator)

/-- The expectation that a call adds. -/
def Call.added? : Call → Option Expectation
  | expect e => some e
  | fetch _ => none

/-- The locator that a call fetches. -/
def Call.fetched? : Call → Option Locator
  | expect _ => none
  | fetch l => some l

/-- A fetch and its result. -/
structure Fetch where
  locator : Locator
  result : Except Error ByteArray

/-- What an expectation answers. -/
def answer (e : Expectation) : Except Error ByteArray := e.response.mapError .failure

/-- What a fetch fails with that no expectation is for. -/
def refusal (l : Locator) (s : FetchScript) : Error :=
  if s.pending.isEmpty then .nothingExpected l else .unexpected l (s.pending.map (·.locator))

/-- The result of the fetch is what an expectation answered, content or a failure. -/
def Fetch.isAnswered (f : Fetch) : Bool :=
  match f.result with
  | .ok _ | .error (.failure _) => true
  | .error (.nothingExpected _) | .error (.unexpected ..) => false

/-- The fetches so far, and the script that they left. -/
structure Run where
  fetches : List Fetch
  script : FetchScript

namespace Run

def perform (r : Run) : Call → Run
  | .expect e => ⟨r.fetches, r.script.expect e⟩
  | .fetch l => ⟨r.fetches ++ [⟨l, (r.script.fetch l).1⟩], (r.script.fetch l).2⟩

/-- The calls in their order, on a script without expectations. -/
def of (calls : List Call) : Run := calls.foldl perform ⟨[], [], []⟩

theorem of_append (calls : List Call) (c : Call) : of (calls ++ [c]) = (of calls).perform c := by
  rw [of, List.foldl_append]
  rfl

/-- The fetches of a locator that were answered. -/
def answeredFor (r : Run) (l : Locator) : List Fetch :=
  r.fetches.filter fun f => f.locator.toText == l.toText && f.isAnswered

end Run

/-- The expectations that calls add. -/
def added (calls : List Call) : List Expectation := calls.filterMap Call.added?

/-- The expectations that calls add for a locator. -/
def addedFor (calls : List Call) (l : Locator) : List Expectation :=
  (added calls).filter (Expectation.answers l)

/-- The expectations for a locator that are pending. -/
def pendingFor (s : FetchScript) (l : Locator) : List Expectation :=
  s.pending.filter (Expectation.answers l)

/-! ## One fetch -/

variable {l : Locator} {s : FetchScript}

theorem answers_iff {e : Expectation} :
    Expectation.answers l e ↔ e.locator.toText = l.toText := beq_iff_eq

theorem isAnswered_answer (l : Locator) (e : Expectation) : (Fetch.mk l (answer e)).isAnswered := by
  obtain ⟨_, response⟩ := e
  cases response with
  | ok content => rfl
  | error message => rfl

theorem not_isAnswered_refusal (l : Locator) (s : FetchScript) :
    ¬ (Fetch.mk l (.error (refusal l s))).isAnswered := by
  unfold refusal
  split
  · exact Bool.false_ne_true
  · exact Bool.false_ne_true

/-- The first expectation for the locator is taken out of the list, and all others stay. -/
theorem takeAnswer_cases (l : Locator) (es : List Expectation) :
    (∃ front e back, es = front ++ e :: back ∧ (∀ x ∈ front, ¬ Expectation.answers l x) ∧
      Expectation.answers l e ∧ takeAnswer l es = some (e, front ++ back)) ∨
    ((∀ x ∈ es, ¬ Expectation.answers l x) ∧ takeAnswer l es = none) := by
  induction es with
  | nil => exact Or.inr ⟨nofun, rfl⟩
  | cons e es ih =>
    by_cases own : Expectation.answers l e
    · refine Or.inl ⟨[], e, es, rfl, nofun, own, ?_⟩
      rw [takeAnswer, if_pos own]
      rfl
    · rcases ih with ⟨front, taken, back, rfl, none, mine, same⟩ | ⟨none, same⟩
      · refine Or.inl ⟨e :: front, taken, back, rfl, ?_, mine, ?_⟩
        · exact List.forall_mem_cons.mpr ⟨own, none⟩
        · rw [takeAnswer, if_neg own, same]
          rfl
      · refine Or.inr ⟨List.forall_mem_cons.mpr ⟨own, none⟩, ?_⟩
        rw [takeAnswer, if_neg own, same]
        rfl

/-- A fetch is answered by the first expectation for its locator, which is used up; or there is none
that is pending, and the fetch fails and uses none. It is recorded in both cases. -/
theorem fetch_cases (l : Locator) (s : FetchScript) :
    (∃ front e back, s.pending = front ++ e :: back ∧ (∀ x ∈ front, ¬ Expectation.answers l x) ∧
      Expectation.answers l e ∧ s.fetch l = (answer e, ⟨front ++ back, s.history ++ [l]⟩)) ∨
    ((∀ x ∈ s.pending, ¬ Expectation.answers l x) ∧
      s.fetch l = (.error (refusal l s), ⟨s.pending, s.history ++ [l]⟩)) := by
  rcases takeAnswer_cases l s.pending with ⟨front, e, back, whole, none, own, taken⟩ | ⟨none, taken⟩
  · refine Or.inl ⟨front, e, back, whole, none, own, ?_⟩
    rw [fetch, taken]
    rfl
  · refine Or.inr ⟨none, ?_⟩
    rw [fetch, taken]
    rfl

/-- What is taken for one locator is no loss for another. -/
theorem filter_taken {front back : List Expectation} {e : Expectation} (l' : Locator)
    (none : ∀ x ∈ front, ¬ Expectation.answers l x) (own : Expectation.answers l e) :
    (front ++ e :: back).filter (Expectation.answers l') =
      (if l.toText = l'.toText then [e] else []) ++
        (front ++ back).filter (Expectation.answers l') := by
  rw [answers_iff] at own
  split
  · next same =>
    have others : front.filter (Expectation.answers l') = [] := by
      rw [List.filter_eq_nil_iff]
      intro x hx
      rw [answers_iff, ← same, ← answers_iff]
      exact none x hx
    have this : Expectation.answers l' e := answers_iff.mpr (own.trans same)
    rw [List.filter_append, List.filter_append, others, List.filter_cons_of_pos this]
    rfl
  · next apart =>
    have other : ¬ Expectation.answers l' e := by
      rw [answers_iff, own]
      exact apart
    rw [List.filter_append, List.filter_append, List.filter_cons_of_neg other]
    rfl

/-! ## Whole runs -/

/-- What was added is accounted for: it was used by one fetch or is pending. -/
structure Accounts (calls : List Call) (r : Run) : Prop where
  /-- The record has all fetches, answered or not. -/
  history : r.script.history = calls.filterMap Call.fetched?
  fetches : r.fetches.map (·.locator) = calls.filterMap Call.fetched?
  /-- The fetches of a locator that were answered used the expectations for it one after the other;
  those that come next are pending. -/
  inTurn : ∀ l, ∃ used, List.Forall₂ (fun f e => f.result = answer e) (r.answeredFor l) used ∧
    used ++ pendingFor r.script l = addedFor calls l
  /-- No expectation was used twice, and none that was used is pending. -/
  once : ∃ used, List.Forall₂ (fun f e => f.locator.toText = e.locator.toText ∧ f.result = answer e)
    (r.fetches.filter (·.isAnswered)) used ∧ (used ++ r.script.pending).Perm (added calls)
  /-- What is pending is in the order in which it was added. -/
  order : r.script.pending.Sublist (added calls)

namespace Accounts

variable {calls : List Call} {r : Run}

theorem start : Accounts [] (Run.of []) where
  history := rfl
  fetches := rfl
  inTurn := fun _ => ⟨[], .nil, rfl⟩
  once := ⟨[], .nil, .refl _⟩
  order := .refl _

theorem expect (h : Accounts calls r) (e : Expectation) :
    Accounts (calls ++ [Call.expect e]) (r.perform (.expect e)) := by
  have all : added (calls ++ [Call.expect e]) = added calls ++ [e] := List.filterMap_append
  have same : (calls ++ [Call.expect e]).filterMap Call.fetched? =
      calls.filterMap Call.fetched? := by
    rw [List.filterMap_append]
    exact List.append_nil _
  constructor
  case history => exact same ▸ h.history
  case fetches => exact same ▸ h.fetches
  case inTurn =>
    intro l
    obtain ⟨used, answered, whole⟩ := h.inTurn l
    refine ⟨used, answered, ?_⟩
    have pending : pendingFor (r.perform (.expect e)).script l =
        pendingFor r.script l ++ [e].filter (Expectation.answers l) := List.filter_append ..
    rw [addedFor, all, List.filter_append, ← addedFor, ← whole, pending, List.append_assoc]
  case once =>
    obtain ⟨used, answered, whole⟩ := h.once
    refine ⟨used, answered, ?_⟩
    have last := whole.append_right [e]
    rw [List.append_assoc] at last
    rwa [all]
  case order =>
    rw [all]
    exact h.order.append (.refl [e])

/-- A fetch is recorded, adds no expectation, and is the last of those that were answered if it
is. -/
theorem fetch_of {script : FetchScript} {result : Except Error ByteArray} (h : Accounts calls r)
    (fetched : r.script.fetch l = (result, script))
    (recorded : script.history = r.script.history ++ [l])
    (inTurn : ∀ l', ∃ used, List.Forall₂ (fun f e => f.result = answer e)
      (r.answeredFor l' ++ [⟨l, result⟩].filter
        fun f => f.locator.toText == l'.toText && f.isAnswered) used ∧
      used ++ pendingFor script l' = addedFor calls l')
    (once : ∃ used, List.Forall₂
      (fun f e => f.locator.toText = e.locator.toText ∧ f.result = answer e)
      (r.fetches.filter (·.isAnswered) ++ [⟨l, result⟩].filter (·.isAnswered)) used ∧
      (used ++ script.pending).Perm (added calls))
    (order : script.pending.Sublist r.script.pending) :
    Accounts (calls ++ [Call.fetch l]) (r.perform (.fetch l)) := by
  have all : added (calls ++ [Call.fetch l]) = added calls := by
    rw [added, List.filterMap_append]
    exact List.append_nil _
  have longer : (calls ++ [Call.fetch l]).filterMap Call.fetched? =
      calls.filterMap Call.fetched? ++ [l] := List.filterMap_append
  have performed : r.perform (.fetch l) = ⟨r.fetches ++ [⟨l, result⟩], script⟩ := by
    rw [Run.perform, fetched]
  rw [performed]
  constructor
  case history => rw [longer, ← h.history, recorded]
  case fetches => rw [longer, ← h.fetches, List.map_append, List.map_singleton]
  case inTurn =>
    intro l'
    rw [Run.answeredFor, List.filter_append, addedFor, all]
    exact inTurn l'
  case once =>
    rw [List.filter_append, all]
    exact once
  case order =>
    rw [all]
    exact order.trans h.order

theorem fetch (h : Accounts calls r) (l : Locator) :
    Accounts (calls ++ [Call.fetch l]) (r.perform (.fetch l)) := by
  rcases fetch_cases l r.script with
    ⟨front, e, back, whole, none, own, fetched⟩ | ⟨none, fetched⟩
  · have answered := isAnswered_answer l e
    refine h.fetch_of fetched rfl (fun l' => ?_) ?_ ?_
    · obtain ⟨used, turns, all⟩ := h.inTurn l'
      rw [pendingFor, whole, filter_taken l' none own, ← List.append_assoc] at all
      refine ⟨_, List.rel_append turns ?_, all⟩
      by_cases same : l.toText = l'.toText
      · simp [same, answered]
      · simp [same]
    · obtain ⟨used, turns, all⟩ := h.once
      refine ⟨used ++ [e], List.rel_append turns ?_, ?_⟩
      · simp [answered, (answers_iff.mp own).symm]
      · rw [whole] at all
        refine List.Perm.trans ?_ all
        rw [List.append_assoc]
        show (used ++ e :: (front ++ back)).Perm (used ++ (front ++ e :: back))
        exact List.perm_middle.symm.append_left used
    · rw [whole]
      exact (List.Sublist.refl front).append (List.sublist_cons_self e back)
  · have failed := not_isAnswered_refusal l r.script
    refine h.fetch_of fetched rfl (fun l' => ?_) ?_ (.refl _)
    · simpa [failed, pendingFor] using h.inTurn l'
    · simpa [failed] using h.once

theorem of (calls : List Call) : Accounts calls (Run.of calls) := by
  induction calls using List.reverseRecOn with
  | nil => exact start
  | append_singleton calls c ih =>
    rw [Run.of_append]
    cases c with
    | expect e => exact ih.expect e
    | fetch l => exact ih.fetch l

/-- What is pending for a locator is all that was added for it but as many expectations as fetches
were answered. -/
theorem getElem?_addedFor (h : Accounts calls r) (l : Locator) :
    (addedFor calls l)[(r.answeredFor l).length]? = (pendingFor r.script l)[0]? := by
  obtain ⟨used, turns, whole⟩ := h.inTurn l
  rw [← whole, turns.length_eq, List.getElem?_append_right (Nat.le_refl _), Nat.sub_self]

theorem length_pending (h : Accounts calls r) :
    r.script.pending.length + (r.fetches.filter (·.isAnswered)).length = (added calls).length := by
  obtain ⟨used, turns, whole⟩ := h.once
  rw [← whole.length_eq, List.length_append, turns.length_eq, Nat.add_comm]

end Accounts

/-- After any calls, all that was added is accounted for, so what was added and not used is pending.
The next fetch of a locator, the `n`-th that can be answered, is answered by the `n`-th expectation
that was added for it; if there are not as many, it fails and everything stays pending. -/
theorem run_accounts (calls : List Call) :
    Accounts calls (Run.of calls) ∧
    (Run.of calls).script.pending.length + ((Run.of calls).fetches.filter (·.isAnswered)).length =
      (added calls).length ∧
    ∀ l, match (addedFor calls l)[((Run.of calls).answeredFor l).length]? with
      | some e => ((Run.of calls).script.fetch l).1 = answer e
      | none => ((Run.of calls).script.fetch l).1 = .error (refusal l (Run.of calls).script) ∧
        ((Run.of calls).script.fetch l).2.pending = (Run.of calls).script.pending := by
  have accounts := Accounts.of calls
  refine ⟨accounts, accounts.length_pending, fun l => ?_⟩
  rw [accounts.getElem?_addedFor, pendingFor]
  rcases fetch_cases l (Run.of calls).script with
    ⟨front, e, back, whole, none, own, fetched⟩ | ⟨none, fetched⟩
  · rw [whole, filter_taken l none own, if_pos rfl, fetched]
    rfl
  · rw [List.filter_eq_nil_iff.mpr none, fetched]
    exact ⟨rfl, rfl⟩

end SoapBindings.FetchScript
