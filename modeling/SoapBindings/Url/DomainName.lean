import SoapBindings.Text.Composition
import SoapBindings.Text.Direction
import SoapBindings.Text.Joining
import SoapBindings.Text.Split
import SoapBindings.Url.DomainLetter
import SoapBindings.Url.Punycode

/-!
# Domain names

A domain name is a row of labels with dots between them. It may hold letters of all scripts, but is
known by a form in ASCII, in which a label with other letters is written as `xn--` and its
punycode. The name is folded first and composed, so names that differ only in case or spelling have
one form. A label that comes as punycode has to tell a label that folding would not change.
-/

set_option autoImplicit false

namespace SoapBindings.Url

open Text

/-- Characters that no domain name can hold. -/
def isDeniedInDomain (c : Char) : Bool :=
  c ≤ ' ' || ['%', '#', '/', ':', '<', '>', '?', '@', '[', '\\', ']', '^', '|', '\x7f'].contains c

structure Label where
  /-- The label with letters of all scripts. -/
  shown : List Char
  /-- Its form in ASCII. -/
  ascii : List Char
  deriving DecidableEq, Repr

namespace Label

def codeMarker : List Char := ['x', 'n', '-', '-']

/-- A label can be shown like this. -/
def isShowable (shown : List Char) : Bool :=
  !(shown.head?.map isMark).getD false && joinersFit shown

/-- The label is what folding makes of it. -/
def isSettled (shown : List Char) : Bool := shown.all isFolded && compose shown == shown

/-- The label of an ASCII form after its marker. -/
def ofCode? (code : List Char) : Option Label := do
  let shown ← Punycode.decode? code
  if !shown.all isAscii && isSettled shown && isShowable shown then
    some ⟨shown, codeMarker ++ code⟩
  else none

/-- The label of a text that is folded and composed. -/
def ofFolded? (text : List Char) : Option Label :=
  match after? codeMarker text with
  | some code => ofCode? code
  | none =>
    if text.all isAscii then some ⟨text, text⟩
    else if isShowable text then some ⟨text, codeMarker ++ Punycode.encode text⟩
    else none

end Label

/-- The labels can stand beside one another: if one of them runs from right to left, each keeps its
direction. -/
def keepDirections (labels : List (List Char)) : Bool :=
  !(labels.any (·.any turnsDirection)) ||
    labels.all fun label => label.isEmpty || keepsDirection label

/-- The ASCII form of a domain name. -/
def asciiDomain? (name : List Char) : Option (List Char) := do
  let folded ← name.mapM foldLetter?
  let labels ← (splitWhere (· == '.') (compose folded.flatten)).mapM Label.ofFolded?
  let ascii := List.intercalate ['.'] (labels.map (·.ascii))
  if keepDirections (labels.map (·.shown)) && !ascii.any isDeniedInDomain then some ascii else none

end SoapBindings.Url
