/-!
# Cutting text

The few ways in which names, addresses and lines are cut: at every separator, at the first, at the
last. Each is total and keeps every character that is not a separator.
-/

set_option autoImplicit false

namespace SoapBindings.Text

/-- The parts between separators; there is one more part than there are separators. -/
def splitWhere (separates : Char → Bool) : List Char → List (List Char)
  | [] => [[]]
  | c :: cs =>
    if separates c then [] :: splitWhere separates cs
    else
      match splitWhere separates cs with
      | [] => [[c]]
      | part :: parts => (c :: part) :: parts

/-- What stands before and after the first separator. -/
def splitFirst (separator : Char) : List Char → Option (List Char × List Char)
  | [] => none
  | c :: cs =>
    if c == separator then some ([], cs)
    else (splitFirst separator cs).map fun (before, after) => (c :: before, after)

/-- What stands before and after the last separator. -/
def splitLast (separator : Char) (cs : List Char) : Option (List Char × List Char) :=
  (splitFirst separator cs.reverse).map fun (after, before) => (before.reverse, after.reverse)

/-- What follows a fixed opening. -/
def after? : List Char → List Char → Option (List Char)
  | [], cs => some cs
  | _ :: _, [] => none
  | o :: opening, c :: cs => if o = c then after? opening cs else none

theorem append_of_after? {opening cs rest : List Char} (h : after? opening cs = some rest) :
    opening ++ rest = cs := by
  induction opening generalizing cs with
  | nil => simpa [after?] using h.symm
  | cons o opening ih =>
    cases cs with
    | nil => simp [after?] at h
    | cons c cs =>
      simp only [after?] at h
      split at h
      next same => simpa [same] using ih h
      next => simp at h

/-- A text cut in two at a mark. -/
structure Cut (mark cs : List Char) where
  before : List Char
  after : List Char
  whole : before ++ mark ++ after = cs

/-- The cut at the first place where `mark` is found. -/
def cut? (mark : List Char) : (cs : List Char) → Option (Cut mark cs)
  | [] =>
    match h : after? mark [] with
    | some rest => some ⟨[], rest, append_of_after? h⟩
    | none => none
  | c :: cs =>
    match h : after? mark (c :: cs) with
    | some rest => some ⟨[], rest, append_of_after? h⟩
    | none =>
      (cut? mark cs).map fun cut =>
        ⟨c :: cut.before, cut.after, congrArg (c :: ·) cut.whole⟩

/-- The lines of a text. A line ends with a line feed, which a carriage return may precede; a text
that ends with a line feed has no empty line after it. -/
def lines (cs : List Char) : List (List Char) :=
  let parts := splitWhere (· == '\n') cs
  let last := parts.getLast?.getD []
  let closed := parts.dropLast.map fun line =>
    if line.getLast? == some '\r' then line.dropLast else line
  if last.isEmpty then closed else closed ++ [last]

end SoapBindings.Text
