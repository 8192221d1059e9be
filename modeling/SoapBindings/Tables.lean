import Std.Data.ExtTreeMap
import Std.Data.ExtTreeSet

/-!
# Tables

Tables and sets are ordered by their keys, so a listing of one does not depend on how it was filled.
The measure of most loops over a table is its size.
-/

set_option autoImplicit false

namespace SoapBindings

/-- A table becomes smaller by a key that it holds. -/
theorem size_erase_lt_of_getElem? {κ α : Type} [Ord κ] [Std.TransOrd κ]
    {table : Std.ExtTreeMap κ α} {key : κ} {a : α} (h : table[key]? = some a) :
    (table.erase key).size < table.size := by
  have member : key ∈ table := Std.ExtTreeMap.mem_iff_isSome_getElem?.mpr (by simp [h])
  have positive : table.size ≠ 0 := fun zero =>
    Std.ExtTreeMap.not_mem_empty (Std.ExtTreeMap.eq_empty_iff_size_eq_zero.mpr zero ▸ member)
  rw [Std.ExtTreeMap.size_erase, if_pos (by simpa using member)]
  omega

end SoapBindings
