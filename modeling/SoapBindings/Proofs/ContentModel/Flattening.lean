import SoapBindings.Graph.Building
import SoapBindings.Proofs.ContentModel.Instances
import SoapBindings.Proofs.Tables

/-!
# Flattened groups

`Symbols.groupPieces` lists the leaves of a group with the bounds that all groups around them allow
together. Here it is compared with the tree that the group stands for: the pieces are the leaves of
that tree, one for each and in order, and the bounds of each piece cover the exact range of its leaf
(`Occurs.Covers`), although counts are cut off at the largest one and a leaf of a choice loses its
least count.

The induction is the recursion of `Symbols.itemPieces`. Groups come to are taken out of those that
may still be expanded; what keeps the induction going is that every group that can still be reached
is among them, and that is where references must not lead in a circle (`Expandable.of_ref`).
-/

set_option autoImplicit false

namespace SoapBindings.Schema

open Relation

/-! ## Bounds that cover a range -/

theorem timesCount_le (a b : Nat) : timesCount a b ≤ a * b := Nat.min_le_left ..

theorem timesCount_eq {a b : Nat} (h : timesCount a b < maxCount) : timesCount a b = a * b := by
  rw [timesCount] at h ⊢
  omega

/-- The bounds `o` of a leaf cover what it can occur within the rounds of `around`, each with as
many as `range` allows. A bound that has reached the largest count says nothing. -/
structure Occurs.Covers (around : Occurs) (optional : Bool) (range o : Occurs) : Prop where
  min : o.min ≤ if optional then 0 else around.min * range.min
  max : ∀ b, o.max = .bounded b → b < maxCount →
    ∃ a c, around.max = .bounded a ∧ range.max = .bounded c ∧ a * c ≤ b

namespace Occurs

theorem within_max_eq_bounded {member group : Occurs} {optional : Bool} {b : Nat}
    (h : (member.within group optional).max = .bounded b) :
    ∃ a c, group.max = .bounded a ∧ member.max = .bounded c ∧ b = timesCount a c := by
  simp only [within] at h
  split at h
  · next a c ha hc =>
    cases h
    exact ⟨a, c, ha, hc, rfl⟩
  · cases h

theorem covers_within (around : Occurs) (optional : Bool) (own : Occurs) :
    Covers around optional own (own.within around optional) where
  min := by
    cases optional with
    | false => exact timesCount_le ..
    | true => exact Nat.le_refl 0
  max b hb small := by
    obtain ⟨a, c, ha, hc, rfl⟩ := within_max_eq_bounded hb
    exact ⟨a, c, ha, hc, (timesCount_eq small).ge⟩

/-- What covers a range within a member covers it within the group. -/
theorem Covers.out {around own range o : Occurs} {optional choice : Bool}
    (h : Covers (own.within around optional) (optional || choice) range o) :
    Covers around optional (own.times (if choice then range.orNone else range)) o where
  min := by
    have least := h.min
    cases optional with
    | true => simpa using least
    | false =>
      cases choice with
      | true => simpa [orNone, times] using least
      | false =>
        have least : o.min ≤ timesCount around.min own.min * range.min := least
        calc o.min ≤ timesCount around.min own.min * range.min := least
          _ ≤ around.min * own.min * range.min := Nat.mul_le_mul_right _ (timesCount_le ..)
          _ = around.min * (own.min * range.min) := Nat.mul_assoc ..
  max b hb small := by
    obtain ⟨e, c, he, hc, hle⟩ := h.max b hb small
    obtain ⟨a, d, ha, hd, rfl⟩ := within_max_eq_bounded he
    refine ⟨a, d * c, ha, ?_, ?_⟩
    · cases choice <;> simp [times, orNone, hd, hc]
    · by_cases hc : c = 0
      · simp [hc]
      · -- The inner bound is below the largest count, so it was not cut off.
        have : timesCount a d ≤ timesCount a d * c := Nat.le_mul_of_pos_right _ (by omega)
        rw [timesCount_eq (by omega), Nat.mul_assoc] at hle
        exact hle

/-- What covers a range at the top of a type is kept by everything in the range. -/
theorem Covers.allows {range o : Occurs} {n : Nat} (h : Covers .once false range o)
    (allowed : range.Allows n) : o.min ≤ n ∧ (o.isRepeated = false → n ≤ 1) := by
  constructor
  · calc o.min ≤ 1 * range.min := h.min
      _ = range.min := Nat.one_mul _
      _ ≤ n := allowed.1
  · intro single
    cases hmax : o.max with
    | unbounded => simp [isRepeated, hmax] at single
    | bounded b =>
      have hb : b ≤ 1 := by simpa [isRepeated, hmax] using single
      have small : b < maxCount := Nat.lt_of_le_of_lt hb (by decide)
      obtain ⟨a, c, ha, hc, hle⟩ := h.max b hmax small
      cases ha
      have := allowed.2 c hc
      omega

end Occurs

/-! ## Pieces -/

/-- The leaf of a declaration that stands at `place` and has the bounds `occurs`. -/
def LeafDecl.leaf (s : Symbols) (context : String) (place : Enclosure) (occurs : Occurs) :
    LeafDecl → Leaf
  | .element d =>
    ⟨d.name, d.ns, .element, .ofTypeUse .anyType place context d.type, occurs, d.nillable,
      d.documentation⟩
  | .elementRef name => s.elementLeaf context name occurs
  | .any => ⟨"any", none, .element, .builtin .anyType, occurs, false, none⟩

theorem LeafDecl.occurs_leaf (s : Symbols) (context : String) (place : Enclosure) (occurs : Occurs)
    (decl : LeafDecl) : (decl.leaf s context place occurs).occurs = occurs := by
  cases decl with
  | element d => rfl
  | elementRef name =>
    simp only [leaf, Symbols.elementLeaf]
    split <;> rfl
  | any => rfl

namespace Symbols

/-- The pieces are the leaves of the models, and their bounds cover the ranges of these. -/
structure Flattens (s : Symbols) (context : String) (around : Occurs) (optional : Bool)
    (models : List ContentModel) (pieces : List Piece) : Prop where
  leaves : List.Forall₂ (fun decl piece => ∃ place occurs,
    piece = .leaf (LeafDecl.leaf s context place occurs decl)) (leavesOfAll models) pieces
  ranges : List.Forall₂ (fun range piece => ∃ l, piece = .leaf l ∧
    Occurs.Covers around optional range l.occurs) (rangesOfAll models) pieces

variable {s : Symbols} {context : String} {around : Occurs} {optional : Bool}
  {models : List ContentModel} {pieces : List Piece}

theorem Flattens.nil : Flattens s context around optional [] [] := ⟨.nil, .nil⟩

theorem Flattens.leaf (decl : LeafDecl) (place : Enclosure) {own : Occurs}
    (h : Flattens s context around optional models pieces) :
    Flattens s context around optional (.leaf decl own :: models)
      (.leaf (decl.leaf s context place (own.within around optional)) :: pieces) where
  leaves := .cons ⟨place, _, rfl⟩ h.leaves
  ranges := by
    refine .cons ⟨_, rfl, ?_⟩ h.ranges
    rw [LeafDecl.occurs_leaf]
    exact Occurs.covers_within ..

/-- A group is flattened by its members, whose bounds are counted with those of the group. -/
theorem Flattens.group {compositor : Compositor} {own : Occurs} {members : List ContentModel}
    {inner : List Piece}
    (hinner : Flattens s context (own.within around optional)
      (optional || compositor == .choice) members inner)
    (h : Flattens s context around optional models pieces) :
    Flattens s context around optional (.group compositor own members :: models)
      (inner ++ pieces) where
  leaves := by
    rw [leavesOfAll, ContentModel.leaves]
    exact List.rel_append hinner.leaves h.leaves
  ranges := by
    rw [rangesOfAll, ContentModel.ranges]
    refine List.rel_append (List.forall₂_map_left_iff.mpr (hinner.ranges.imp ?_)) h.ranges
    rintro range piece ⟨l, rfl, covers⟩
    refine ⟨l, rfl, ?_⟩
    simpa using covers.out

theorem itemPieces_groupRef {available : Groups} {place : Enclosure} {i : Nat} {name : QName}
    {own : Occurs} {rest : List GroupItem} {d : Declared GroupDecl}
    (h : available[name]? = some d) :
    s.itemPieces context available around optional place i (.groupRef name own :: rest) =
      s.itemPieces context (available.erase name)
        (d.decl.group.occurs.within (own.within around optional) optional)
        (optional || d.decl.group.compositor == .choice) ⟨.top .group name, d.decl.name⟩ 0
        d.decl.group.items ++
      s.itemPieces context available around optional place (i + 1) rest := by
  rw [itemPieces_cons_groupRef, h]

/-- Items that can be expanded stand for models, and their pieces are what these flatten to. -/
theorem exists_flattens (s : Symbols) (context : String) (available : Groups) (around : Occurs)
    (optional : Bool) (place : Enclosure) (i : Nat) (items : List GroupItem)
    (expandable : s.Expandable (groupRefsOf items))
    (left : ∀ b, s.ReachesGroup (groupRefsOf items) b → available[b]? = s.groups[b]?) :
    ∃ models, s.Expands items models ∧ Flattens s context around optional models
      (s.itemPieces context available around optional place i items) := by
  induction available, around, optional, place, i, items using itemPieces.induct with
  | case1 available around optional place i =>
    refine ⟨[], .nil, ?_⟩
    rw [itemPieces]
    exact .nil
  | case2 available around optional place i d own rest ih =>
    obtain ⟨models, expands, flattens⟩ := ih expandable left
    refine ⟨_, .element expands, ?_⟩
    rw [itemPieces]
    exact .leaf (.element d) (place.child i d.name) flattens
  | case3 available around optional place i name own rest ih =>
    obtain ⟨models, expands, flattens⟩ := ih expandable left
    refine ⟨_, .elementRef expands, ?_⟩
    rw [itemPieces]
    exact .leaf (.elementRef name) place flattens
  | case4 available around optional place i compositor own items rest inner ih =>
    have refs : groupRefsOf (.group ⟨compositor, own, items⟩ :: rest) =
        groupRefsOf items ++ groupRefsOf rest := rfl
    rw [refs] at expandable left
    obtain ⟨members, hmembers, hinner⟩ :=
      inner (expandable.mono fun _ => List.mem_append_left _)
        fun b hb => left b (hb.mono fun _ => List.mem_append_left _)
    obtain ⟨models, expands, flattens⟩ :=
      ih (expandable.mono fun _ => List.mem_append_right _)
        fun b hb => left b (hb.mono fun _ => List.mem_append_right _)
    refine ⟨_, .group hmembers expands, ?_⟩
    rw [itemPieces]
    exact hinner.group flattens
  | case5 available around optional place i name own rest inner ih =>
    have hname : name ∈ groupRefsOf (.groupRef name own :: rest) := List.mem_cons_self
    have here : s.ReachesGroup (groupRefsOf (.groupRef name own :: rest)) name :=
      ⟨name, hname, .refl⟩
    obtain ⟨d, hd⟩ := exists_getElem?_of_mem (expandable.declared name here)
    obtain ⟨expandable', further⟩ := expandable.of_ref hname hd
    -- Within the group `name` is not available, but nothing in it leads back to `name`.
    have left' : ∀ b, s.ReachesGroup d.decl.group.groupRefs b →
        (available.erase name)[b]? = s.groups[b]? := by
      intro b hb
      obtain ⟨reached, hne⟩ := further b hb
      rw [getElem?_erase_of_ne hne.symm]
      exact left b reached
    have havailable : available[name]? = some d := by rw [left name here, hd]
    rw [ModelGroup.groupRefs_eq] at expandable' left'
    obtain ⟨members, hmembers, hinner⟩ := inner d havailable expandable' left'
    obtain ⟨models, expands, flattens⟩ :=
      ih (expandable.mono fun _ => List.mem_cons_of_mem _)
        fun b hb => left b (hb.mono fun _ => List.mem_cons_of_mem _)
    refine ⟨_, .groupRef hd hmembers expands, ?_⟩
    rw [itemPieces_groupRef havailable]
    -- The reference is a sequence of one group, and a sequence makes nothing optional.
    have once := Flattens.group hinner .nil
    rw [List.append_nil] at once
    refine Flattens.group ?_ flattens
    rw [show (Compositor.sequence == .choice) = false from rfl, Bool.or_false]
    exact once
  | case6 available around optional place i own rest ih =>
    obtain ⟨models, expands, flattens⟩ := ih expandable left
    refine ⟨_, .any expands, ?_⟩
    rw [itemPieces]
    exact .leaf .any place flattens

end Symbols

end SoapBindings.Schema

namespace SoapBindings.TypeGraph

open Schema

/-- Where all pieces are leaves, there is one particle for each. -/
theorem forall₂_particles (s : Symbols) (paths : AnonymousPaths) {α : Type} {R : α → Leaf → Prop}
    {as : List α} {pieces : List Piece}
    (h : List.Forall₂ (fun a piece => ∃ l, piece = .leaf l ∧ R a l) as pieces) :
    List.Forall₂ (fun a p => ∃ l, p = particle s paths l ∧ R a l) as
      (particles s paths pieces) := by
  induction h with
  | nil => exact .nil
  | cons hl _ ih =>
    obtain ⟨l, rfl, hr⟩ := hl
    exact .cons ⟨l, rfl, hr⟩ ih

/-- The group stands for a model; what is made of the group is one particle for each leaf of the
model, in order, and each particle can hold what any word of the model has of its leaf. -/
theorem particles_hold_admitted (s : Symbols) (paths : AnonymousPaths) (context : String)
    (place : Enclosure) (g : ModelGroup) (expandable : s.Expandable g.groupRefs) :
    (∃ model, s.ExpandsTo g model) ∧ ∀ model, s.ExpandsTo g model →
      List.Forall₂ (fun decl p => ∃ place occurs,
          p = particle s paths (LeafDecl.leaf s context place occurs decl))
        model.leaves (particles s paths (s.groupPieces context place g)) ∧
      ∀ word, model.Admits 0 word → ∀ i p,
        (particles s paths (s.groupPieces context place g))[i]? = some p →
        p.occurs.min ≤ word.count i ∧ (p.isRepeated = false → word.count i ≤ 1) := by
  rw [ModelGroup.groupRefs_eq] at expandable
  obtain ⟨members, expands, inner⟩ := Symbols.exists_flattens s context s.groups
    (g.occurs.within .once false) (g.compositor == .choice) place 0 g.items expandable
    fun _ _ => rfl
  refine ⟨⟨_, members, expands, rfl⟩, ?_⟩
  rintro model ⟨others, expands', rfl⟩
  -- The group stands for one model only, so it is the one that the pieces were compared with.
  obtain rfl := expands.unique expands'
  -- The group itself is the one member of a sequence that occurs once.
  have whole : s.Flattens context .once false [.group g.compositor g.occurs members]
      (s.groupPieces context place g) := by
    have once : s.Flattens context .once false [.group g.compositor g.occurs members]
        (s.groupPieces context place g ++ []) := .group inner .nil
    rwa [List.append_nil] at once
  have leaves := whole.leaves
  have ranges := whole.ranges
  rw [leavesOfAll, leavesOfAll, List.append_nil] at leaves
  rw [rangesOfAll, rangesOfAll, List.append_nil] at ranges
  constructor
  · refine (forall₂_particles s paths (R := fun decl l => ∃ place occurs,
      l = LeafDecl.leaf s context place occurs decl) ?_).imp ?_
    · exact leaves.imp fun decl piece ⟨place, occurs, hpiece⟩ => ⟨_, hpiece, place, occurs, rfl⟩
    · rintro decl p ⟨l, rfl, place, occurs, rfl⟩
      exact ⟨place, occurs, rfl⟩
  · intro word admitted i p hp
    have covered := forall₂_particles s paths ranges
    obtain ⟨hi, rfl⟩ := List.getElem?_eq_some_iff.mp hp
    have hi' := covered.length_eq ▸ hi
    obtain ⟨l, hl, covers⟩ := covered.get hi' hi
    have allowed := ContentModel.allows_count _ admitted (List.getElem?_eq_getElem hi')
    rw [Nat.zero_add] at allowed
    have holds := covers.allows allowed
    rw [List.get_eq_getElem] at hl
    rw [hl]
    exact holds

/-! ## A reference to a choice -/

/-- An element of free content. -/
def freeElement (name : String) : ElementDecl where
  name := name
  ns := none
  type := none
  nillable := false
  isAbstract := false
  substitutionGroup := none
  default := none
  fixed := none
  documentation := none

/-- Either an element or anything. -/
def elementOrAny : ModelGroup := ⟨.choice, .once, [.element (freeElement "y") .once, .any .once]⟩

def choiceName : QName := ⟨"", "C"⟩

/-- The table that declares one group, the choice. -/
def choiceSymbols : Symbols := { Symbols.empty with
  groups := Symbols.empty.groups.insert choiceName ⟨⟨"C", elementOrAny⟩, "", default⟩ }

/-- An element, and up to two of the choice. -/
def elementThenChoices : ModelGroup :=
  ⟨.sequence, .once, [.element (freeElement "x") .once, .groupRef choiceName ⟨0, .bounded 2⟩]⟩

theorem expandable_elementThenChoices : choiceSymbols.Expandable elementThenChoices.groupRefs := by
  have stuck : ∀ a b, ¬ choiceSymbols.GroupLeads a b := by
    rintro a b ⟨d, hd, hb⟩
    simp only [choiceSymbols, Std.ExtTreeMap.getElem?_insert] at hd
    split at hd
    · cases hd
      simp [elementOrAny, ModelGroup.groupRefs, groupRefsOf] at hb
    · simp [Symbols.empty] at hd
  have only : ∀ b, choiceSymbols.ReachesGroup elementThenChoices.groupRefs b → b = choiceName := by
    rintro b ⟨a, ha, path⟩
    obtain rfl : a = choiceName := by
      simpa [elementThenChoices, ModelGroup.groupRefs, groupRefsOf] using ha
    rcases path.cases_head with rfl | ⟨c, hc, _⟩
    · rfl
    · exact absurd hc (stuck _ _)
  constructor
  · intro b hb
    rw [only b hb]
    simp [choiceSymbols]
  · intro b _ circle
    obtain ⟨c, hc, _⟩ := Relation.TransGen.head'_iff.mp circle
    exact stuck b c hc

/-- The element and then both members of the choice: each particle can hold its leaf. -/
theorem particles_hold_elementThenChoices : ∃ model,
    choiceSymbols.ExpandsTo elementThenChoices model ∧ model.Admits 0 [0, 1, 2] ∧
      ∀ i p, (particles choiceSymbols ∅
        (choiceSymbols.groupPieces "" (.top .type ⟨"", "T"⟩) elementThenChoices))[i]? = some p →
        p.occurs.min ≤ [0, 1, 2].count i ∧ (p.isRepeated = false → [0, 1, 2].count i ≤ 1) := by
  have holds := particles_hold_admitted choiceSymbols ∅ "" (.top .type ⟨"", "T"⟩) elementThenChoices
    expandable_elementThenChoices
  have declared : choiceSymbols.groups[choiceName]? = some ⟨⟨"C", elementOrAny⟩, "", default⟩ :=
    Std.ExtTreeMap.getElem?_insert_self
  have choices : choiceSymbols.Expands elementThenChoices.items
      [.leaf (.element (freeElement "x")) .once, .group .sequence ⟨0, .bounded 2⟩
        [.group .choice .once [.leaf (.element (freeElement "y")) .once, .leaf .any .once]]] :=
    .element (.groupRef declared (.element (.any .nil)) .nil)
  have once : Occurs.once.Allows 1 := ⟨Nat.le_refl 1, fun _ h => by cases h; exact Nat.le_refl 1⟩
  have twice : Occurs.Allows ⟨0, .bounded 2⟩ 2 :=
    ⟨Nat.zero_le 2, fun _ h => by cases h; exact Nat.le_refl 2⟩
  have admitted : ContentModel.Admits 0 (.group .sequence .once
      [.leaf (.element (freeElement "x")) .once, .group .sequence ⟨0, .bounded 2⟩
        [.group .choice .once [.leaf (.element (freeElement "y")) .once, .leaf .any .once]]])
      [0, 1, 2] := by
    refine ⟨[[0, 1, 2]], once, rfl, ?_⟩
    intro round hround
    obtain rfl := List.mem_singleton.mp hround
    refine ⟨[[0], [1, 2]], ⟨[0], [[1, 2]], ⟨1, once, rfl⟩, ⟨[1, 2], [], ?_, rfl, rfl⟩, rfl⟩, rfl⟩
    refine ⟨[[1], [2]], twice, rfl, ?_⟩
    intro choice hchoice
    refine ⟨[choice], ⟨choice, [], ⟨[choice], once, by simp, ?_⟩, rfl, rfl⟩, by simp⟩
    intro taken htaken
    obtain rfl := List.mem_singleton.mp htaken
    rcases List.mem_pair.mp hchoice with rfl | rfl
    · exact Or.inl ⟨1, once, rfl⟩
    · exact Or.inr (Or.inl ⟨1, once, rfl⟩)
  exact ⟨_, ⟨_, choices, rfl⟩, admitted, (holds.2 _ ⟨_, choices, rfl⟩).2 _ admitted⟩

end SoapBindings.TypeGraph
