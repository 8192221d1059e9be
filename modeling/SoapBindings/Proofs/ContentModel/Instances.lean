import Mathlib.Algebra.Order.BigOperators.Group.List
import Mathlib.Algebra.Order.Group.Nat
import Mathlib.Logic.Relation
import SoapBindings.Schema.Leaves

/-!
# Content models and what they admit

A content model whose references to groups have been replaced is a tree (`ContentModel`). Its leaves
are numbered in the order of the document, and an instance is a word of these numbers: each letter
is one occurrence of one leaf. `ContentModel.Admits` says which words a model admits, read off the
compositors and nothing else.

`ContentModel.ranges` gives each leaf the exact product of the bounds around it. Every admitted word
has every leaf as often as that range allows (`ContentModel.allows_count`); the induction is on the
tree, and a leaf number belongs to one member of a group only (`ContentModel.mem_word`), so what the
other members contribute does not count.

The tree that a group stands for: `Expands` replaces references to groups by what the groups hold,
as often as it takes. It says nothing about groups that are not declared or that refer to
themselves; `Expandable` rules both out, for all groups that some names lead to.
-/

set_option autoImplicit false

namespace SoapBindings.Schema

/-! ## Bounds -/

namespace Occurs

/-- So many times are within the bounds. -/
def Allows (o : Occurs) (n : Nat) : Prop :=
  o.min ≤ n ∧ ∀ most, o.max = .bounded most → n ≤ most

/-- The bounds of what occurs within `inner` in each of the rounds within `outer`. -/
def times (outer inner : Occurs) : Occurs where
  min := outer.min * inner.min
  max := match outer.max, inner.max with
    | .bounded a, .bounded b => .bounded (a * b)
    | _, _ => .unbounded

/-- The same bounds for what may be left out. -/
def orNone (o : Occurs) : Occurs := { o with min := 0 }

theorem Allows.orNone {o : Occurs} {n : Nat} (h : o.Allows n) : o.orNone.Allows n :=
  ⟨Nat.zero_le n, h.2⟩

theorem allows_orNone_zero (o : Occurs) : o.orNone.Allows 0 :=
  ⟨Nat.le_refl 0, fun _ _ => Nat.zero_le _⟩

theorem times_max_eq_bounded {outer inner : Occurs} {most : Nat}
    (h : (outer.times inner).max = .bounded most) :
    ∃ a b, outer.max = .bounded a ∧ inner.max = .bounded b ∧ most = a * b := by
  simp only [times] at h
  split at h
  · next a b ha hb =>
    cases h
    exact ⟨a, b, ha, hb, rfl⟩
  · cases h

/-- Rounds that each have a letter within `inner` have it within the product together. -/
theorem Allows.flatten {outer inner : Occurs} {rounds : List (List Nat)} {j : Nat}
    (number : outer.Allows rounds.length) (each : ∀ round ∈ rounds, inner.Allows (round.count j)) :
    (outer.times inner).Allows (rounds.flatten.count j) := by
  rw [List.count_flatten]
  constructor
  · have least : rounds.length * inner.min ≤ (rounds.map (List.count j)).sum := by
      have := List.card_nsmul_le_sum (rounds.map (List.count j)) inner.min
        (by simpa using fun round hround => (each round hround).1)
      simpa using this
    exact (Nat.mul_le_mul_right _ number.1).trans least
  · intro most hmost
    obtain ⟨a, b, ha, hb, rfl⟩ := times_max_eq_bounded hmost
    have greatest : (rounds.map (List.count j)).sum ≤ rounds.length * b := by
      have := List.sum_le_card_nsmul (rounds.map (List.count j)) b
        (by simpa using fun round hround => (each round hround).2 b hb)
      simpa using this
    exact greatest.trans (Nat.mul_le_mul_right _ (number.2 a ha))

end Occurs

/-! ## Models -/

/-- What is declared at a leaf of a content model. -/
inductive LeafDecl where
  | element (decl : ElementDecl)
  | elementRef (name : QName)
  | any

/-- A content model without references to groups. -/
inductive ContentModel where
  | leaf (decl : LeafDecl) (occurs : Occurs)
  | group (compositor : Compositor) (occurs : Occurs) (members : List ContentModel)

mutual

/-- The leaves in the order of the document. -/
def ContentModel.leaves : ContentModel → List LeafDecl
  | .leaf decl _ => [decl]
  | .group _ _ members => leavesOfAll members

def leavesOfAll : List ContentModel → List LeafDecl
  | [] => []
  | m :: ms => m.leaves ++ leavesOfAll ms

end

mutual

/-- The model admits a word of leaf numbers, its own leaves being numbered from `first` on. -/
def ContentModel.Admits (first : Nat) : ContentModel → List Nat → Prop
  | .leaf _ occurs, word => ∃ n, occurs.Allows n ∧ word = List.replicate n first
  | .group compositor occurs members, word => ∃ rounds : List (List Nat),
      occurs.Allows rounds.length ∧ word = rounds.flatten ∧ ∀ round ∈ rounds,
        match compositor with
        | .sequence => ∃ parts, AdmitsEach first members parts ∧ round = parts.flatten
        | .all => ∃ parts order : List (List Nat), AdmitsEach first members parts ∧
            order.Perm parts ∧ round = order.flatten
        | .choice => AdmitsOne first members round

/-- Each member admits the part at its place. -/
def AdmitsEach (first : Nat) : List ContentModel → List (List Nat) → Prop
  | [], parts => parts = []
  | m :: ms, parts => ∃ part rest, m.Admits first part ∧
      AdmitsEach (first + m.leaves.length) ms rest ∧ parts = part :: rest

/-- One of the members admits the word. -/
def AdmitsOne (first : Nat) : List ContentModel → List Nat → Prop
  | [], _ => False
  | m :: ms, word => m.Admits first word ∨ AdmitsOne (first + m.leaves.length) ms word

end

mutual

/-- How often each leaf can occur, by the bounds of the leaf and of all groups around it. -/
def ContentModel.ranges : ContentModel → List Occurs
  | .leaf _ occurs => [occurs]
  | .group compositor occurs members => (rangesOfAll members).map fun range =>
      occurs.times (if compositor = .choice then range.orNone else range)

def rangesOfAll : List ContentModel → List Occurs
  | [] => []
  | m :: ms => m.ranges ++ rangesOfAll ms

end

/-! ## Leaf numbers -/

mutual

theorem ContentModel.length_ranges : (m : ContentModel) → m.ranges.length = m.leaves.length
  | .leaf _ _ => rfl
  | .group _ _ members => by
    rw [ContentModel.ranges, ContentModel.leaves, List.length_map, length_rangesOfAll]

theorem length_rangesOfAll : (ms : List ContentModel) →
    (rangesOfAll ms).length = (leavesOfAll ms).length
  | [] => rfl
  | m :: ms => by
    rw [rangesOfAll, leavesOfAll, List.length_append, List.length_append,
      ContentModel.length_ranges m, length_rangesOfAll ms]

end

mutual

/-- A word has no numbers but those of the leaves of its model. -/
theorem ContentModel.mem_word {first j : Nat} : (m : ContentModel) → {word : List Nat} →
    m.Admits first word → j ∈ word → first ≤ j ∧ j < first + m.leaves.length
  | .leaf _ _, _, ⟨n, _, hword⟩, hj => by
    rw [hword] at hj
    rw [List.eq_of_mem_replicate hj]
    exact ⟨Nat.le_refl first, Nat.lt_succ_self first⟩
  | .group compositor _ members, _, ⟨rounds, _, hword, each⟩, hj => by
    rw [hword] at hj
    obtain ⟨round, hround, hj⟩ := List.mem_flatten.mp hj
    have admitted := each round hround
    cases compositor with
    | sequence =>
      obtain ⟨parts, hparts, rfl⟩ := admitted
      obtain ⟨part, hpart, hj⟩ := List.mem_flatten.mp hj
      exact mem_part members hparts hpart hj
    | all =>
      obtain ⟨parts, order, hparts, perm, rfl⟩ := admitted
      obtain ⟨part, hpart, hj⟩ := List.mem_flatten.mp hj
      exact mem_part members hparts (perm.mem_iff.mp hpart) hj
    | choice => exact mem_chosen members admitted hj

theorem mem_part {first j : Nat} : (ms : List ContentModel) → {parts : List (List Nat)} →
    AdmitsEach first ms parts → {part : List Nat} → part ∈ parts → j ∈ part →
    first ≤ j ∧ j < first + (leavesOfAll ms).length
  | [], _, hparts, _, hpart, _ => by
    rw [show _ = [] from hparts] at hpart
    cases hpart
  | m :: ms, _, ⟨head, rest, hhead, hrest, hparts⟩, part, hpart, hj => by
    rw [hparts] at hpart
    rw [leavesOfAll, List.length_append]
    rcases List.mem_cons.mp hpart with rfl | hpart
    · have := ContentModel.mem_word m hhead hj
      omega
    · have := mem_part ms hrest hpart hj
      omega

theorem mem_chosen {first j : Nat} : (ms : List ContentModel) → {word : List Nat} →
    AdmitsOne first ms word → j ∈ word → first ≤ j ∧ j < first + (leavesOfAll ms).length
  | [], _, h, _ => h.elim
  | m :: ms, _, h, hj => by
    rw [leavesOfAll, List.length_append]
    rcases h with h | h
    · have := ContentModel.mem_word m h hj
      omega
    · have := mem_chosen ms h hj
      omega

end

/-! ## Counting leaves -/

theorem ContentModel.count_eq_zero {m : ContentModel} {first j : Nat} {word : List Nat}
    (h : m.Admits first word) (outside : j < first ∨ first + m.leaves.length ≤ j) :
    word.count j = 0 := by
  refine List.count_eq_zero.mpr fun hj => ?_
  have := m.mem_word h hj
  omega

theorem count_parts_eq_zero {ms : List ContentModel} {first j : Nat} {parts : List (List Nat)}
    (h : AdmitsEach first ms parts) (before : j < first) : parts.flatten.count j = 0 := by
  refine List.count_eq_zero.mpr fun hj => ?_
  obtain ⟨part, hpart, hj⟩ := List.mem_flatten.mp hj
  have := mem_part ms h hpart hj
  omega

theorem count_chosen_eq_zero {ms : List ContentModel} {first j : Nat} {word : List Nat}
    (h : AdmitsOne first ms word) (before : j < first) : word.count j = 0 := by
  refine List.count_eq_zero.mpr fun hj => ?_
  have := mem_chosen ms h hj
  omega

/-- The range of a leaf of several models is one of the first model, or one of the others. -/
theorem getElem?_rangesOfAll_cons {m : ContentModel} {ms : List ContentModel} {k : Nat}
    {range : Occurs} (h : (rangesOfAll (m :: ms))[k]? = some range) :
    (k < m.leaves.length ∧ m.ranges[k]? = some range) ∨
      ∃ i, k = m.leaves.length + i ∧ (rangesOfAll ms)[i]? = some range := by
  rw [rangesOfAll] at h
  by_cases hk : k < m.leaves.length
  · rw [List.getElem?_append_left (by rwa [m.length_ranges])] at h
    exact Or.inl ⟨hk, h⟩
  · have hk := Nat.le_of_not_lt hk
    rw [List.getElem?_append_right (by rwa [m.length_ranges]), m.length_ranges] at h
    exact Or.inr ⟨k - m.leaves.length, (Nat.add_sub_cancel' hk).symm, h⟩

mutual

/-- An admitted word has each leaf as often as the range of the leaf allows. -/
theorem ContentModel.allows_count {first : Nat} : (m : ContentModel) → {word : List Nat} →
    m.Admits first word → {k : Nat} → {range : Occurs} → m.ranges[k]? = some range →
    range.Allows (word.count (first + k))
  | .leaf _ occurs, _, ⟨n, hn, hword⟩, k, _, hrange => by
    cases k with
    | zero =>
      cases hrange
      rw [hword, Nat.add_zero, List.count_replicate_self]
      exact hn
    | succ k => cases hrange
  | .group compositor occurs members, _, ⟨rounds, number, hword, each⟩, k, range, hrange => by
    rw [ContentModel.ranges, List.getElem?_map] at hrange
    obtain ⟨inner, hinner, rfl⟩ := Option.map_eq_some_iff.mp hrange
    rw [hword]
    -- The word is made of rounds, so it is enough to count the leaf in each of them.
    refine number.flatten fun round hround => ?_
    have admitted := each round hround
    cases compositor with
    | sequence =>
      obtain ⟨parts, hparts, rfl⟩ := admitted
      exact allows_count_parts members hparts hinner
    | all =>
      obtain ⟨parts, order, hparts, perm, rfl⟩ := admitted
      rw [perm.flatten.count_eq]
      exact allows_count_parts members hparts hinner
    | choice => exact allows_count_chosen members admitted hinner

theorem allows_count_parts {first : Nat} : (ms : List ContentModel) → {parts : List (List Nat)} →
    AdmitsEach first ms parts → {k : Nat} → {range : Occurs} →
    (rangesOfAll ms)[k]? = some range → range.Allows (parts.flatten.count (first + k))
  | [], _, _, _, _, hrange => by cases hrange
  | m :: ms, _, ⟨part, rest, hpart, hrest, hparts⟩, k, range, hrange => by
    rw [hparts, List.flatten_cons, List.count_append]
    -- A leaf belongs to one member; in the parts of the others it does not occur.
    rcases getElem?_rangesOfAll_cons hrange with ⟨hk, hown⟩ | ⟨i, rfl, hother⟩
    · rw [count_parts_eq_zero hrest (by omega), Nat.add_zero]
      exact m.allows_count hpart hown
    · rw [m.count_eq_zero hpart (by omega), Nat.zero_add, ← Nat.add_assoc]
      exact allows_count_parts ms hrest hother

theorem allows_count_chosen {first : Nat} : (ms : List ContentModel) → {word : List Nat} →
    AdmitsOne first ms word → {k : Nat} → {range : Occurs} →
    (rangesOfAll ms)[k]? = some range → range.orNone.Allows (word.count (first + k))
  | [], _, h, _, _, _ => h.elim
  | m :: ms, _, h, k, range, hrange => by
    rcases getElem?_rangesOfAll_cons hrange with ⟨hk, hown⟩ | ⟨i, rfl, hother⟩
    · rcases h with h | h
      · exact (m.allows_count h hown).orNone
      · rw [count_chosen_eq_zero h (by omega)]
        exact range.allows_orNone_zero
    · rcases h with h | h
      · rw [m.count_eq_zero h (by omega)]
        exact range.allows_orNone_zero
      · rw [← Nat.add_assoc]
        exact allows_count_chosen ms h hother

end

/-! ## References to groups -/

open Relation

mutual

/-- The groups that a group refers to. -/
def ModelGroup.groupRefs : ModelGroup → List QName
  | ⟨_, _, items⟩ => groupRefsOf items

def groupRefsOf : List GroupItem → List QName
  | [] => []
  | .group g :: rest => g.groupRefs ++ groupRefsOf rest
  | .groupRef name _ :: rest => name :: groupRefsOf rest
  | _ :: rest => groupRefsOf rest

end

theorem ModelGroup.groupRefs_eq (g : ModelGroup) : g.groupRefs = groupRefsOf g.items := by
  cases g
  rw [groupRefs]

namespace Symbols

/-- The declared group `a` refers to the group `b`. -/
def GroupLeads (s : Symbols) (a b : QName) : Prop :=
  ∃ d, s.groups[a]? = some d ∧ b ∈ d.decl.group.groupRefs

/-- Some of the names, or of the groups that they lead to, is `b`. -/
def ReachesGroup (s : Symbols) (names : List QName) (b : QName) : Prop :=
  ∃ a ∈ names, ReflTransGen s.GroupLeads a b

/-- All references to groups, there and in the groups that they lead to, find a group, and none of
these leads back to itself. -/
structure Expandable (s : Symbols) (names : List QName) : Prop where
  declared : ∀ b, s.ReachesGroup names b → b ∈ s.groups
  acyclic : ∀ b, s.ReachesGroup names b → ¬ TransGen s.GroupLeads b b

/-- The models that items stand for: a reference to a group stands for the group, as often as the
reference says. -/
inductive Expands (s : Symbols) : List GroupItem → List ContentModel → Prop
  | nil : Expands s [] []
  | element {d : ElementDecl} {own : Occurs} {rest : List GroupItem} {models : List ContentModel} :
      Expands s rest models → Expands s (.element d own :: rest) (.leaf (.element d) own :: models)
  | elementRef {name : QName} {own : Occurs} {rest : List GroupItem} {models : List ContentModel} :
      Expands s rest models →
      Expands s (.elementRef name own :: rest) (.leaf (.elementRef name) own :: models)
  | any {own : Occurs} {rest : List GroupItem} {models : List ContentModel} :
      Expands s rest models → Expands s (.any own :: rest) (.leaf .any own :: models)
  | group {compositor : Compositor} {own : Occurs} {items rest : List GroupItem}
      {members models : List ContentModel} :
      Expands s items members → Expands s rest models →
      Expands s (.group ⟨compositor, own, items⟩ :: rest) (.group compositor own members :: models)
  | groupRef {name : QName} {own : Occurs} {d : Declared GroupDecl} {rest : List GroupItem}
      {members models : List ContentModel} :
      s.groups[name]? = some d → Expands s d.decl.group.items members → Expands s rest models →
      Expands s (.groupRef name own :: rest)
        (.group .sequence own [.group d.decl.group.compositor d.decl.group.occurs members] ::
          models)

/-- The model that a group stands for. -/
def ExpandsTo (s : Symbols) (g : ModelGroup) (model : ContentModel) : Prop :=
  ∃ members, s.Expands g.items members ∧ model = .group g.compositor g.occurs members

/-- Items stand for one list of models. -/
theorem Expands.unique {s : Symbols} {items : List GroupItem} {models others : List ContentModel}
    (h : s.Expands items models) (h' : s.Expands items others) : models = others := by
  induction h generalizing others with
  | nil => cases h'; rfl
  | element _ ih => cases h' with | element rest => rw [ih rest]
  | elementRef _ ih => cases h' with | elementRef rest => rw [ih rest]
  | any _ ih => cases h' with | any rest => rw [ih rest]
  | group _ _ inner ih => cases h' with | group members rest => rw [inner members, ih rest]
  | groupRef hd _ _ inner ih =>
    cases h' with
    | groupRef hd' members rest =>
      rw [hd] at hd'
      cases hd'
      rw [inner members, ih rest]

variable {s : Symbols} {names : List QName}

theorem ReachesGroup.head {name b : QName} {d : Declared GroupDecl}
    (hd : s.groups[name]? = some d) (h : s.ReachesGroup d.decl.group.groupRefs b) :
    TransGen s.GroupLeads name b := by
  obtain ⟨a, ha, path⟩ := h
  exact TransGen.head' ⟨d, hd, ha⟩ path

theorem ReachesGroup.mono {others : List QName} {b : QName} (h : s.ReachesGroup names b)
    (sub : ∀ a ∈ names, a ∈ others) : s.ReachesGroup others b := by
  obtain ⟨a, ha, path⟩ := h
  exact ⟨a, sub a ha, path⟩

theorem Expandable.mono {others : List QName} (h : s.Expandable others)
    (sub : ∀ a ∈ names, a ∈ others) : s.Expandable names where
  declared b hb := h.declared b (hb.mono sub)
  acyclic b hb := h.acyclic b (hb.mono sub)

/-- What can be expanded from a declared group that can itself be come to. -/
theorem Expandable.of_ref {name : QName} {d : Declared GroupDecl} (h : s.Expandable names)
    (hname : name ∈ names) (hd : s.groups[name]? = some d) :
    s.Expandable d.decl.group.groupRefs ∧
      ∀ b, s.ReachesGroup d.decl.group.groupRefs b → s.ReachesGroup names b ∧ b ≠ name := by
  have reaches : ∀ b, s.ReachesGroup d.decl.group.groupRefs b → s.ReachesGroup names b :=
    fun b hb => ⟨name, hname, (ReachesGroup.head hd hb).to_reflTransGen⟩
  refine ⟨⟨fun b hb => h.declared b (reaches b hb), fun b hb => h.acyclic b (reaches b hb)⟩,
    fun b hb => ⟨reaches b hb, ?_⟩⟩
  rintro rfl
  exact h.acyclic b ⟨b, hname, .refl⟩ (ReachesGroup.head hd hb)

end Symbols

end SoapBindings.Schema
