import SoapBindings.Store

/-!
# Fetch scripts

A scripted source of remote documents: a list of answers, each for one locator and for one fetch. A
fetch takes the first answer for its locator, so answers for one locator are given in the order in
which they were added. All fetches are recorded, answered or not.
-/

set_option autoImplicit false

namespace SoapBindings

/-- An answer that is expected to be fetched. -/
structure Expectation where
  locator : Locator
  /-- The content, or what a failing fetch says. -/
  response : Except String ByteArray

structure FetchScript where
  pending : List Expectation
  /-- The locators of all fetches in their order. -/
  history : List Locator

namespace FetchScript

inductive Error where
  /-- The answer is a failure. -/
  | failure (message : String)
  | nothingExpected (locator : Locator)
  | unexpected (locator : Locator) (expected : List Locator)
  deriving DecidableEq, Repr

def Error.message : Error → String
  | failure message => "response: " ++ message
  | nothingExpected locator => "nothing is expected but " ++ locator.toText ++ " was fetched"
  | unexpected locator expected =>
    "unexpected fetch: " ++ locator.toText ++ "; expected one of: " ++
      ", ".intercalate (expected.map (·.toText))

instance : HasMessage Error := ⟨Error.message⟩

/-- Adds an answer behind those that are there. -/
def expect (s : FetchScript) (e : Expectation) : FetchScript :=
  { s with pending := s.pending ++ [e] }

/-- The answer is for the locator. -/
def Expectation.answers (locator : Locator) (e : Expectation) : Bool :=
  e.locator.toText == locator.toText

/-- Takes the first answer for a locator out of a list. -/
def takeAnswer (locator : Locator) : List Expectation → Option (Expectation × List Expectation)
  | [] => none
  | e :: rest =>
    if Expectation.answers locator e then some (e, rest)
    else (takeAnswer locator rest).map fun (taken, others) => (taken, e :: others)

def fetch (locator : Locator) (s : FetchScript) : Except Error ByteArray × FetchScript :=
  let history := s.history ++ [locator]
  match takeAnswer locator s.pending with
  | some (e, others) => (e.response.mapError .failure, ⟨others, history⟩)
  | none =>
    let error := if s.pending.isEmpty then .nothingExpected locator
      else .unexpected locator (s.pending.map (·.locator))
    (.error error, ⟨s.pending, history⟩)

end FetchScript

end SoapBindings
