import SoapBindings.QName

/-!
# References

A reference asks for a declaration of some kind by its name. What is referenced need not exist: a
reference that finds nothing is reported together with the place where it stands, and the
compilation goes on.
-/

set_option autoImplicit false

namespace SoapBindings

/-- What can be declared and asked for by name. -/
inductive DeclarationKind where
  | type
  | element
  | attr
  | group
  | attributeGroup
  | message
  | binding
  | portType
  deriving DecidableEq, Repr

namespace DeclarationKind

/-- The order in which references to one name are reported. -/
def rank : DeclarationKind → Nat
  | type => 0
  | element => 1
  | attr => 2
  | group => 3
  | attributeGroup => 4
  | message => 5
  | binding => 6
  | portType => 7

theorem rank_injective {a b : DeclarationKind} (h : a.rank = b.rank) : a = b := by
  cases a <;> cases b <;> simp_all [rank]

def label : DeclarationKind → String
  | type => "type"
  | element => "element"
  | attr => "attribute"
  | group => "group"
  | attributeGroup => "attribute group"
  | message => "message"
  | binding => "binding"
  | portType => "port type"

end DeclarationKind

structure Reference where
  name : QName
  kind : DeclarationKind
  /-- The declaration in which the reference stands. -/
  context : String
  deriving DecidableEq, Repr

namespace Reference

/-- References are listed by name, then by kind, then by context. -/
instance : Ord Reference where
  compare := compareLex (compareOn Reference.name)
    (compareLex (compareOn (·.kind.rank)) (compareOn Reference.context))

instance : Std.TransOrd Reference :=
  inferInstanceAs (Std.TransCmp (compareLex (compareOn Reference.name)
    (compareLex (compareOn (·.kind.rank)) (compareOn Reference.context))))

instance : Std.LawfulEqOrd Reference where
  compare_self := Std.ReflCmp.compare_self
  eq_of_compare := by
    intro a b h
    obtain ⟨name, h⟩ := compareLex_eq_eq.mp h
    obtain ⟨kind, context⟩ := compareLex_eq_eq.mp h
    have name : a.name = b.name := Std.LawfulEqCmp.eq_of_compare name
    have kind : a.kind = b.kind :=
      DeclarationKind.rank_injective (Std.LawfulEqCmp.eq_of_compare kind)
    have context : a.context = b.context := Std.LawfulEqCmp.eq_of_compare context
    cases a
    cases b
    simp_all

def toText (r : Reference) : String :=
  "unresolved " ++ r.kind.label ++ " " ++ r.name.toText ++ " referenced from " ++ r.context

end Reference

/-- References in the order in which they are reported, each once. -/
abbrev References := Std.ExtTreeSet Reference

end SoapBindings
