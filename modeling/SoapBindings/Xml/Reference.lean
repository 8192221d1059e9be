import SoapBindings.Text.Digits
import SoapBindings.Text.Split

/-!
# References

A reference names a character: one of the five predefined names, or a code point in decimal or,
after `x`, in hexadecimal. Content is cut at its references and each is resolved alone, while an
attribute value is resolved as a whole (`resolveAll?`): there a single reference that names no
character leaves every reference of the value as it is written.
-/

set_option autoImplicit false

namespace SoapBindings.Xml

open Text

/-- The character with a number, if there is one and it is not NUL. -/
def character? (n : Nat) : Option Char :=
  if n = 0 then none
  else if n.isValidChar then some (Char.ofNat n)
  else none

def predefined : List (List Char × Char) := [
  (['l', 't'], '<'), (['g', 't'], '>'), (['a', 'm', 'p'], '&'), (['a', 'p', 'o', 's'], '\''),
  (['q', 'u', 'o', 't'], '"')]

/-- The character that a reference names. -/
def resolve? : List Char → Option Char
  | '#' :: 'x' :: digits => (number? 16 digits).bind character?
  | '#' :: digits => (number? 10 digits).bind character?
  | name => predefined.lookup name

/-- A character that ends or breaks off a reference inside a value. -/
private def isMark (c : Char) : Bool := c == ';' || c == '&'

/-- A value with all of its references resolved, if each of them names a character. -/
def resolveAll? (cs : List Char) : Option (List Char) :=
  match cs with
  | [] => some []
  | '&' :: rest =>
    match h : rest.dropWhile (!isMark ·) with
    | ';' :: after =>
      have : after.length ≤ rest.length := by
        have shorter := (List.dropWhile_suffix (l := rest) (!isMark ·)).length_le
        rw [h] at shorter
        exact Nat.le_of_succ_le shorter
      match resolve? (rest.takeWhile (!isMark ·)), resolveAll? after with
      | some c, some more => some (c :: more)
      | _, _ => none
    | _ => none
  | c :: rest => (resolveAll? rest).map (c :: ·)
termination_by cs.length

theorem resolveAll?_of_ne {c : Char} (h : c ≠ '&') (rest : List Char) :
    resolveAll? (c :: rest) = (resolveAll? rest).map (c :: ·) := by
  rw [resolveAll?]
  exact fun same => h same

/-- A reference in front of a value stands for its character. -/
theorem resolveAll?_reference {name : List Char} {c : Char} (solid : ';' ∉ name) (sole : '&' ∉ name)
    (found : resolve? name = some c) (after : List Char) :
    resolveAll? ('&' :: (name ++ ';' :: after)) = (resolveAll? after).map (c :: ·) := by
  have inside : ∀ d ∈ name, (!isMark d) = true := by
    intro d hd
    have semicolon : d ≠ ';' := fun same => solid (same ▸ hd)
    have ampersand : d ≠ '&' := fun same => sole (same ▸ hd)
    simp [isMark, semicolon, ampersand]
  have dropped : (name ++ ';' :: after).dropWhile (!isMark ·) = ';' :: after := by
    rw [List.dropWhile_append_of_pos inside]
    rfl
  have taken : (name ++ ';' :: after).takeWhile (!isMark ·) = name := by
    rw [List.takeWhile_append_of_pos inside]
    exact List.append_nil _
  rw [resolveAll?]
  split
  · next rest whole =>
    rw [dropped] at whole
    obtain rfl := (List.cons.inj whole).2
    rw [taken, found]
    cases resolveAll? after <;> rfl
  · next other => exact absurd dropped (other _)

/-- The value that a raw attribute value stands for. -/
def attributeValue (raw : List Char) : List Char := (resolveAll? raw).getD raw

end SoapBindings.Xml
