import SoapBindings.Options.Basic
import SoapBindings.Proofs.Tables

/-!
# Layers of options

What layers say together does not depend on how they are grouped: laying one over another is
associative, and a layer that says nothing changes nothing on either side. For single options, for
joined lists and for joined tables this is so one by one. The outputs are taken as a group, by
whether any of them is named; of three layers the uppermost that names one decides in either
grouping, as two layers together name an output exactly if one of them does (`isGiven_overlay`).

So a stack of layers means what its layers mean when they are laid down one by one, from the lowest
to the uppermost, however the stack is put together (`Stack.options_eq_foldl`).
-/

set_option autoImplicit false

namespace SoapBindings

/-! ## Outputs -/

namespace OutputOptions

/-- The outputs of a layer that lies over another. -/
def overlay (below above : OutputOptions) : OutputOptions := if above.isGiven then above else below

theorem isGiven_overlay (below above : OutputOptions) :
    (below.overlay above).isGiven = (below.isGiven || above.isGiven) := by
  unfold overlay
  cases given : above.isGiven with
  | true => rw [if_pos rfl, given, Bool.or_true]
  | false => rw [if_neg Bool.false_ne_true, Bool.or_false]

theorem overlay_overlay (below middle above : OutputOptions) :
    (below.overlay middle).overlay above = below.overlay (middle.overlay above) := by
  rw [overlay, overlay, overlay, isGiven_overlay, overlay]
  by_cases given : above.isGiven
  · simp [given]
  · simp [given]

/-- Outputs of which none is named are those of the empty layer. -/
theorem eq_of_isGiven_eq_false {o : OutputOptions} (h : o.isGiven = false) : o = {} := by
  obtain ⟨output, header, both⟩ := o
  simp [isGiven] at h
  obtain ⟨⟨rfl, rfl⟩, rfl⟩ := h
  rfl

theorem overlay_empty (o : OutputOptions) : o.overlay {} = o := rfl

theorem empty_overlay (o : OutputOptions) : overlay {} o = o := by
  cases h : o.isGiven with
  | true => rw [overlay, if_pos h]
  | false => rw [eq_of_isGiven_eq_false h]; rfl

end OutputOptions

/-! ## Options -/

namespace Options

attribute [ext] Options

/-- Of three layers the lower two or the upper two can be laid over each other first. -/
theorem overlay_overlay (bottom middle top : Options) :
    (bottom.overlay middle).overlay top = bottom.overlay (middle.overlay top) := by
  apply Options.ext
  case outputs => exact OutputOptions.overlay_overlay _ _ _
  case codes => exact union_union _ _ _
  case copies => exact (List.append_assoc _ _ _).symm
  all_goals exact Option.or_assoc.symm

theorem overlay_empty (o : Options) : o.overlay {} = o := by
  apply Options.ext
  case codes => exact union_empty _
  all_goals rfl

theorem empty_overlay (o : Options) : overlay {} o = o := by
  apply Options.ext
  case outputs => exact OutputOptions.empty_overlay _
  case codes => exact empty_union _
  case copies => exact List.append_nil _
  all_goals exact Option.or_none

/-! ## Stacks -/

/-- Layers that are laid over each other, some of them before others are. -/
inductive Stack where
  | empty
  | layer (o : Options)
  | lay (below above : Stack)

namespace Stack

/-- The layers of a stack, from the lowest to the uppermost. -/
def layers : Stack → List Options
  | empty => []
  | layer o => [o]
  | lay below above => below.layers ++ above.layers

/-- What a stack says, put together the way that the stack is. -/
def options : Stack → Options
  | empty => {}
  | layer o => o
  | lay below above => below.options.overlay above.options

/-- Layers that are laid over a lowest one could be put together before. -/
theorem foldl_overlay (bottom : Options) (layers : List Options) :
    layers.foldl overlay bottom = bottom.overlay (layers.foldl overlay {}) := by
  induction layers generalizing bottom with
  | nil => exact (overlay_empty bottom).symm
  | cons o layers ih =>
    calc (o :: layers).foldl overlay bottom
      _ = (bottom.overlay o).overlay (layers.foldl overlay {}) := ih (bottom.overlay o)
      _ = bottom.overlay (o.overlay (layers.foldl overlay {})) := overlay_overlay ..
      _ = bottom.overlay ((o :: layers).foldl overlay {}) := by
        rw [List.foldl_cons, empty_overlay, ih o]

theorem options_eq_foldl (s : Stack) : s.options = s.layers.foldl overlay {} := by
  induction s with
  | empty => rfl
  | layer o => exact (empty_overlay o).symm
  | lay below above ihBelow ihAbove =>
    rw [options, layers, List.foldl_append, foldl_overlay, ← ihBelow, ← ihAbove]

end Stack

/-- Layers form a monoid, so what a stack of them says is what its layers say one by one, whichever
of them were put together first. -/
theorem overlay_monoid :
    (∀ bottom middle top : Options,
      (bottom.overlay middle).overlay top = bottom.overlay (middle.overlay top)) ∧
    (∀ o : Options, o.overlay {} = o ∧ overlay {} o = o) ∧
    ∀ s : Stack, s.options = s.layers.foldl overlay {} :=
  ⟨overlay_overlay, fun o => ⟨overlay_empty o, empty_overlay o⟩, Stack.options_eq_foldl⟩

end Options

end SoapBindings
