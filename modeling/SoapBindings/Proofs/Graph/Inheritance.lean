import Mathlib.Data.List.Rotate
import SoapBindings.Proofs.Graph.References

/-!
# Cycles of bases

Declarations are refused for one reason only, that some type is among its own bases, and what is
told then is a whole cycle: the one of the smallest type that is on any (`ofSymbols_error_iff`).

A type has at most one base, so its bases form a line. The search follows that line and takes each
type out of the table as it comes by, which is why a line that runs into a cycle further on is left
after one turn. `LeadsBack` is the line that the search follows when it does come back to where it
started, and `cycleThrough_eq_some_iff` says that it finds that line and no other.
-/

set_option autoImplicit false

namespace SoapBindings

open Relation Schema

/-- The name of the type that a complex type extends or restricts. A restriction of the encoded
array only says what it is an array of. -/
def Schema.ComplexType.baseName? (t : ComplexType) : Option QName :=
  match t.content with
  | .empty | .group _ => none
  | .extension base _ | .simpleExtension base | .simpleRestriction base _ => some base
  | .restriction base _ => if Symbols.isEncodedArray base then none else some base

namespace TypeGraph

/-- A type, declared at the top of a schema or in place, has another declared type as its base. -/
def Derives (s : Symbols) (id base : TypeId) : Prop :=
  ∃ e ∈ allEntries s, ∃ t name, e.id = id ∧ e.decl = .complex t ∧ t.baseName? = some name ∧
    resolveType s name = .node base

/-- Each of the types has the next one as its base and the last one the first, which is the smallest
type that lies on any cycle of bases. -/
structure IsFirstCycle (s : Symbols) (types : List TypeId) : Prop where
  nodup : types.Nodup
  bases : List.Forall₂ (Derives s) types (types.rotate 1)
  first : ∃ first ∈ types.head?, ∀ id, TransGen (Derives s) id id → (compare first id).isLE

/-! ## Following bases -/

/-- In a table of types, a type has another as its base. -/
def HasBase (types : TypeTable) (id base : TypeId) : Prop := types[id]?.bind baseId? = some base

section

variable {types : TypeTable} {start id base other : TypeId} {ahead : List TypeId}

theorem HasBase.unique (h : HasBase types id base) (h' : HasBase types id other) : base = other :=
  Option.some.inj (h.symm.trans h')

theorem HasBase.mem (h : HasBase types id base) : id ∈ types := by
  obtain ⟨n, hn, _⟩ := Option.bind_eq_some_iff.mp h
  exact mem_of_getElem? hn

theorem hasBase_erase_iff :
    HasBase (types.erase other) id base ↔ other ≠ id ∧ HasBase types id base := by
  simp only [HasBase, Option.bind_eq_some_iff, getElem?_erase_eq_some_iff]
  constructor
  · rintro ⟨n, ⟨ne, hn⟩, hbase⟩
    exact ⟨ne, n, hn, hbase⟩
  · rintro ⟨ne, n, hn, hbase⟩
    exact ⟨n, ⟨ne, hn⟩, hbase⟩

/-- Bases lead from a type to `start`, past the types in the list and past none of them twice. -/
inductive LeadsBack (types : TypeTable) (start : TypeId) : TypeId → List TypeId → Prop
  | here : LeadsBack types start start []
  | step {id base : TypeId} {ahead : List TypeId} : HasBase types id base → id ≠ start →
      id ∉ ahead → LeadsBack types start base ahead → LeadsBack types start id (id :: ahead)

theorem LeadsBack.path (h : LeadsBack types start id ahead) :
    ReflTransGen (HasBase types) id start := by
  induction h with
  | here => exact .refl
  | step hbase _ _ _ ih => exact ih.head hbase

theorem LeadsBack.nodup (h : LeadsBack types start id ahead) : (start :: ahead).Nodup := by
  induction h with
  | here => exact List.nodup_singleton start
  | step _ ne fresh _ ih =>
    obtain ⟨apart, nodup⟩ := List.nodup_cons.mp ih
    refine List.nodup_cons.mpr ⟨?_, List.nodup_cons.mpr ⟨fresh, nodup⟩⟩
    exact List.not_mem_cons_of_ne_of_not_mem ne.symm apart

theorem LeadsBack.bases (h : LeadsBack types start id ahead) (before : HasBase types other id) :
    List.Forall₂ (HasBase types) (other :: ahead) (ahead ++ [start]) := by
  induction h generalizing other with
  | here => exact .cons before .nil
  | step hbase _ _ _ ih => exact .cons before (ih hbase)

theorem leadsBack_of_bases (nodup : (start :: ahead).Nodup)
    (bases : List.Forall₂ (HasBase types) (other :: ahead) (ahead ++ [start])) :
    ∃ id, HasBase types other id ∧ LeadsBack types start id ahead := by
  induction ahead generalizing other with
  | nil =>
    obtain ⟨hbase, _⟩ := List.forall₂_cons.mp bases
    exact ⟨start, hbase, .here⟩
  | cons id ahead ih =>
    obtain ⟨hbase, rest⟩ := List.forall₂_cons.mp bases
    simp only [List.nodup_cons, List.mem_cons, not_or] at nodup
    obtain ⟨⟨ne, apart⟩, fresh, unique⟩ := nodup
    obtain ⟨next, hnext, leads⟩ := ih (List.nodup_cons.mpr ⟨apart, unique⟩) rest
    exact ⟨id, hbase, .step hnext (Ne.symm ne) fresh leads⟩

/-- The line from a type that it goes past begins further on. -/
theorem LeadsBack.drop (h : LeadsBack types start id ahead) (mem : other ∈ ahead) :
    ∃ rest, LeadsBack types start other rest := by
  induction h with
  | here => cases mem
  | step hbase ne fresh leads ih =>
    rcases List.mem_cons.mp mem with rfl | mem
    · exact ⟨_, .step hbase ne fresh leads⟩
    · exact ih mem

/-- A path along bases, with its turns left out. -/
theorem exists_leadsBack (h : ReflTransGen (HasBase types) id start) :
    ∃ ahead, LeadsBack types start id ahead := by
  induction h using ReflTransGen.head_induction_on with
  | refl => exact ⟨[], .here⟩
  | @head id base hbase _ ih =>
    obtain ⟨ahead, leads⟩ := ih
    by_cases arrived : id = start
    · exact arrived ▸ ⟨[], .here⟩
    · by_cases again : id ∈ ahead
      · exact leads.drop again
      · exact ⟨_, .step hbase arrived again leads⟩

theorem leadsBack_erase_iff : LeadsBack (types.erase other) start id ahead ↔
    LeadsBack types start id ahead ∧ other ∉ ahead := by
  constructor
  · intro h
    induction h with
    | here => exact ⟨.here, List.not_mem_nil⟩
    | step hbase ne fresh _ ih =>
      obtain ⟨apart, hbase⟩ := hasBase_erase_iff.mp hbase
      exact ⟨.step hbase ne fresh ih.1, List.not_mem_cons_of_ne_of_not_mem apart ih.2⟩
  · rintro ⟨h, apart⟩
    induction h with
    | here => exact .here
    | step hbase ne fresh _ ih =>
      rw [List.mem_cons, not_or] at apart
      exact .step (hasBase_erase_iff.mpr ⟨apart.1, hbase⟩) ne fresh (ih apart.2)

/-- A line that is not yet back goes past the type it starts from, and on without it. -/
theorem leadsBack_iff_of_ne (ne : id ≠ start) : LeadsBack types start id ahead ↔
    ∃ base rest, HasBase types id base ∧ ahead = id :: rest ∧
      LeadsBack (types.erase id) start base rest := by
  constructor
  · intro h
    cases h with
    | here => exact absurd rfl ne
    | step hbase _ fresh leads =>
      exact ⟨_, _, hbase, rfl, leadsBack_erase_iff.mpr ⟨leads, fresh⟩⟩
  · rintro ⟨base, rest, hbase, rfl, leads⟩
    obtain ⟨leads, fresh⟩ := leadsBack_erase_iff.mp leads
    exact .step hbase ne fresh leads

/-! ## The search -/

/-- The search finds the line that leads back, if there is one. -/
theorem cycleThrough_eq_some_iff {chain : List TypeId} {cycle : InheritanceCycle} :
    cycleThrough start types chain id = some cycle ↔
      ∃ ahead, LeadsBack types start id ahead ∧ cycle.types = chain.reverse ++ ahead := by
  -- The search leaves out each type that it has come by, as does the line that leads on from it.
  fun_induction cycleThrough start types chain id with
  | case1 types chain =>
    constructor
    · rintro ⟨⟩
      exact ⟨[], .here, (List.append_nil _).symm⟩
    · rintro ⟨ahead, leads, told⟩
      cases leads with
      | here => rw [← List.append_nil chain.reverse, ← told]
      | step _ ne => exact absurd rfl ne
  | case2 types chain id ne absent =>
    simp only [leadsBack_iff_of_ne ne, HasBase, absent]
    simp
  | case3 types chain id ne n hn _ noBase =>
    simp only [leadsBack_iff_of_ne ne, HasBase, hn, Option.bind_some, noBase]
    simp
  | case4 types chain id ne n hn _ base hbase ih =>
    have found : HasBase types id base := by rw [HasBase, hn, Option.bind_some, hbase]
    rw [ih]
    constructor
    · rintro ⟨rest, leads, told⟩
      refine ⟨id :: rest, (leadsBack_iff_of_ne ne).mpr ⟨base, rest, found, rfl, leads⟩, ?_⟩
      rw [told, List.reverse_cons, List.append_assoc, List.singleton_append]
    · rintro ⟨ahead, leads, told⟩
      obtain ⟨base', rest, found', rfl, leads⟩ := (leadsBack_iff_of_ne ne).mp leads
      obtain rfl := found.unique found'
      refine ⟨rest, leads, ?_⟩
      rw [told, List.reverse_cons, List.append_assoc, List.singleton_append]

/-- What is told of a type is a cycle that begins with it. -/
theorem cycleOf?_eq_some_iff {cycle : InheritanceCycle} : cycleOf? types id = some cycle ↔
    cycle.types.head? = some id ∧ cycle.types.Nodup ∧
      List.Forall₂ (HasBase types) cycle.types (cycle.types.rotate 1) := by
  rw [cycleOf?, Option.bind_eq_some_iff]
  simp only [cycleThrough_eq_some_iff, List.reverse_singleton, List.singleton_append]
  constructor
  · rintro ⟨base, hbase, ahead, leads, told⟩
    rw [told, List.rotate_cons_succ, List.rotate_zero]
    exact ⟨rfl, leads.nodup, leads.bases hbase⟩
  · rintro ⟨head, nodup, bases⟩
    obtain ⟨ahead, told⟩ := List.head?_eq_some_iff.mp head
    rw [told, List.rotate_cons_succ, List.rotate_zero] at bases
    rw [told] at nodup
    obtain ⟨base, hbase, leads⟩ := leadsBack_of_bases nodup bases
    exact ⟨base, hbase, ahead, leads, told⟩

/-- A cycle is told of exactly the types that lie on one. -/
theorem exists_cycleOf?_iff :
    (∃ cycle, cycleOf? types id = some cycle) ↔ TransGen (HasBase types) id id := by
  rw [TransGen.head'_iff]
  constructor
  · rintro ⟨cycle, h⟩
    obtain ⟨base, hbase, h⟩ := Option.bind_eq_some_iff.mp h
    obtain ⟨ahead, leads, _⟩ := cycleThrough_eq_some_iff.mp h
    exact ⟨base, hbase, leads.path⟩
  · rintro ⟨base, hbase, path⟩
    obtain ⟨ahead, leads⟩ := exists_leadsBack path
    refine ⟨⟨id :: ahead⟩, Option.bind_eq_some_iff.mpr ⟨base, hbase, ?_⟩⟩
    exact cycleThrough_eq_some_iff.mpr ⟨ahead, leads, rfl⟩

theorem mem_keys_of_cyclic (h : TransGen (HasBase types) id id) : id ∈ types.keys := by
  obtain ⟨base, hbase, _⟩ := TransGen.head'_iff.mp h
  exact Std.ExtTreeMap.mem_keys.mpr hbase.mem

theorem exists_findSome?_cycleOf?_iff :
    (∃ cycle, types.keys.findSome? (cycleOf? types) = some cycle) ↔
      ∃ id, TransGen (HasBase types) id id := by
  simp only [← Option.isSome_iff_exists, List.findSome?_isSome_iff, ← exists_cycleOf?_iff]
  constructor
  · rintro ⟨id, _, told⟩
    exact ⟨id, told⟩
  · rintro ⟨id, told⟩
    have cyclic := exists_cycleOf?_iff.mp (Option.isSome_iff_exists.mp told)
    exact ⟨id, mem_keys_of_cyclic cyclic, told⟩

/-- The cycle that is told is that of the smallest type that lies on one. -/
theorem findSome?_cycleOf?_eq_some_iff {cycle : InheritanceCycle} :
    types.keys.findSome? (cycleOf? types) = some cycle ↔
      ∃ first, cycleOf? types first = some cycle ∧
        ∀ id, TransGen (HasBase types) id id → (compare first id).isLE := by
  have sorted : types.keys.Pairwise fun a b => compare a b = .lt := Std.ExtTreeMap.ordered_keys
  rw [List.findSome?_eq_some_iff]
  constructor
  · rintro ⟨before, first, behind, keys, found, none⟩
    refine ⟨first, found, fun id cyclic => ?_⟩
    have listed : id ∈ before ++ first :: behind := keys ▸ mem_keys_of_cyclic cyclic
    rw [keys, List.pairwise_append, List.pairwise_cons] at sorted
    rcases List.mem_append.mp listed with mem | mem
    · obtain ⟨_, told⟩ := exists_cycleOf?_iff.mpr cyclic
      rw [none id mem] at told
      cases told
    · rcases List.mem_cons.mp mem with rfl | mem
      · exact Ordering.isLE_of_eq_eq Std.ReflCmp.compare_self
      · exact Ordering.isLE_of_eq_lt (sorted.2.1.1 id mem)
  · rintro ⟨first, found, least⟩
    have cyclic := exists_cycleOf?_iff.mp ⟨cycle, found⟩
    obtain ⟨before, behind, keys⟩ := List.append_of_mem (mem_keys_of_cyclic cyclic)
    refine ⟨before, first, behind, keys, found, fun id mem => ?_⟩
    rw [keys, List.pairwise_append] at sorted
    have smaller := sorted.2.2 id mem first List.mem_cons_self
    by_contra told
    have le := least id (exists_cycleOf?_iff.mp (Option.ne_none_iff_exists'.mp told))
    rw [Std.OrientedCmp.gt_of_lt smaller] at le
    cases le

end

/-! ## Bases of declared types -/

variable {s : Symbols}

theorem resolveType_eq_node {name : QName} {id : TypeId} (h : resolveType s name = .node id) :
    id = .named name := by
  rw [resolveType] at h
  split at h
  · cases h
  · split at h
    · exact (TypeRef.node.inj h).symm
    · cases h

/-- What a node inherits from is what its type names. -/
theorem baseName?_of_baseOf {t : ComplexType} {base : TypeId} {derivation : DerivationKind}
    (h : baseOf s t = some ⟨.node base, derivation⟩) :
    ∃ name, t.baseName? = some name ∧ resolveType s name = .node base := by
  unfold ComplexType.baseName?
  cases hcontent : t.content with
  | empty | group g => simp [baseOf, hcontent] at h
  | extension name g =>
    simp only [baseOf, hcontent] at h
    exact ⟨name, rfl, (baseType_eq_some h).symm⟩
  | restriction name g =>
    simp only [baseOf, hcontent] at h
    split at h
    · cases h
    · next plain => exact ⟨name, if_neg plain, (baseType_eq_some h).symm⟩
  | simpleExtension name =>
    simp only [baseOf, hcontent] at h
    split at h
    · exact ⟨name, rfl, congrArg BaseType.type (Option.some.inj h)⟩
    · cases h
  | simpleRestriction name facets =>
    simp only [baseOf, hcontent] at h
    split at h
    · exact ⟨name, rfl, congrArg BaseType.type (Option.some.inj h)⟩
    · cases h

/-- A declared complex type is inherited from, whatever kind of content names it. -/
theorem exists_baseOf {t : ComplexType} {name : QName} {base : TypeId}
    (named : t.baseName? = some name) (found : resolveType s name = .node base)
    (complex : isComplexName s name = true) :
    ∃ derivation, baseOf s t = some ⟨.node base, derivation⟩ := by
  have inherits (derivation : DerivationKind) :
      baseType s name derivation = some ⟨.node base, derivation⟩ := by
    rw [baseType_of_ne (by rw [found]; nofun), found]
  unfold baseOf
  cases hcontent : t.content with
  | empty | group g => simp [ComplexType.baseName?, hcontent] at named
  | extension other g =>
    simp only [ComplexType.baseName?, hcontent, Option.some.injEq] at named
    exact ⟨.extension, named ▸ inherits .extension⟩
  | restriction other g =>
    simp only [ComplexType.baseName?, hcontent] at named
    split at named
    · cases named
    · next plain =>
      cases named
      exact ⟨.restriction, (if_neg plain).trans (inherits .restriction)⟩
  | simpleExtension other =>
    simp only [ComplexType.baseName?, hcontent, Option.some.injEq] at named
    exact ⟨.extension, by simp only [named, complex, found, if_true]⟩
  | simpleRestriction other facets =>
    simp only [ComplexType.baseName?, hcontent, Option.some.injEq] at named
    exact ⟨.restriction, by simp only [named, complex, found, if_true]⟩

theorem hasBase_draft_iff {id base : TypeId} :
    HasBase (draft s (AnonymousPaths.ofSymbols s)).types id base ↔
      ∃ e ∈ allEntries s, ∃ t derivation, e.id = id ∧ e.decl = .complex t ∧
        baseOf s t = some ⟨.node base, derivation⟩ := by
  rw [HasBase, Option.bind_eq_some_iff]
  simp only [getElem?_draft (AnonymousPaths.named_ofSymbols s)]
  constructor
  · rintro ⟨n, ⟨e, he, hid, rfl⟩, hbase⟩
    obtain ⟨⟨type, derivation⟩, hnode, htype⟩ := Option.bind_eq_some_iff.mp hbase
    rw [node] at hnode
    split at hnode
    · cases hnode
    · next t decl =>
      cases type with
      | node id' =>
        cases htype
        exact ⟨e, he, t, derivation, hid, decl, hnode⟩
      | builtin _ | unresolved _ => cases htype
  · rintro ⟨e, he, t, derivation, hid, decl, hbase⟩
    refine ⟨node s (AnonymousPaths.ofSymbols s) e, ⟨e, he, hid, rfl⟩, ?_⟩
    rw [baseId?, node, decl]
    show (baseOf s t).bind _ = some base
    rw [hbase]
    rfl

theorem Derives.of_hasBase {id base : TypeId}
    (h : HasBase (draft s (AnonymousPaths.ofSymbols s)).types id base) : Derives s id base := by
  obtain ⟨e, he, t, derivation, hid, decl, hbase⟩ := hasBase_draft_iff.mp h
  obtain ⟨name, named, found⟩ := baseName?_of_baseOf hbase
  exact ⟨e, he, t, name, hid, decl, named, found⟩

/-- A type that has a base itself is complex, and so it is inherited from. -/
theorem Derives.hasBase {id base next : TypeId} (h : Derives s id base)
    (further : Derives s base next) :
    HasBase (draft s (AnonymousPaths.ofSymbols s)).types id base := by
  obtain ⟨e, he, t, name, hid, decl, named, found⟩ := h
  obtain ⟨e', he', t', _, hid', decl', _⟩ := further
  obtain rfl := resolveType_eq_node found
  have complex : isComplexName s name = true := by
    rcases List.mem_append.mp he' with mem | mem
    · obtain ⟨name', d, hd, rfl⟩ := mem_namedEntries.mp mem
      obtain rfl := TypeId.named.inj hid'
      obtain ⟨_, ns, locator⟩ := d
      obtain rfl : _ = TypeDecl.complex t' := decl'
      simp only [isComplexName, found, hd]
    · obtain ⟨_, _, _, _, _, _, _, rfl⟩ := mem_anonymousEntries.mp mem
      cases hid'
  obtain ⟨derivation, hbase⟩ := exists_baseOf named found complex
  exact hasBase_draft_iff.mpr ⟨e, he, t, derivation, hid, decl, hbase⟩

theorem transGen_derives_iff {id : TypeId} : TransGen (Derives s) id id ↔
    TransGen (HasBase (draft s (AnonymousPaths.ofSymbols s)).types) id id := by
  -- On the way round each base has a base, so all of the way is in the graph.
  have inGraph {a b c : TypeId} (path : TransGen (Derives s) a b) (further : Derives s b c) :
      TransGen (HasBase (draft s (AnonymousPaths.ofSymbols s)).types) a b := by
    induction path generalizing c with
    | single h => exact .single (h.hasBase further)
    | tail _ h ih => exact (ih h).tail (h.hasBase further)
  constructor
  · intro cyclic
    obtain ⟨base, hbase, _⟩ := TransGen.head'_iff.mp cyclic
    exact inGraph cyclic hbase
  · exact TransGen.mono (fun _ _ h => Derives.of_hasBase h) _ _

theorem forall₂_derives_iff {types : List TypeId} :
    List.Forall₂ (Derives s) types (types.rotate 1) ↔
      List.Forall₂ (HasBase (draft s (AnonymousPaths.ofSymbols s)).types) types
        (types.rotate 1) := by
  constructor
  · intro bases
    have each : ∀ base ∈ types.rotate 1, ∃ next, Derives s base next := by
      intro base hbase
      obtain ⟨i, hi, rfl⟩ := List.mem_iff_getElem.mp (List.mem_rotate.mp hbase)
      exact ⟨_, bases.get hi (bases.length_eq ▸ hi)⟩
    rw [List.forall₂_iff_get] at bases ⊢
    refine ⟨bases.1, fun i hi hi' => ?_⟩
    obtain ⟨next, further⟩ := each _ (List.get_mem _ ⟨i, hi'⟩)
    exact (bases.2 i hi hi').hasBase further
  · exact fun bases => bases.imp fun _ _ => Derives.of_hasBase

/-! ## Declarations that are refused -/

/-- Declarations are refused exactly where some type is among its own bases, and what is told then
is exactly the cycle of the smallest such type. -/
theorem ofSymbols_error_iff (s : Symbols) :
    ((∃ cycle, ofSymbols s = .error cycle) ↔ ∃ id, TransGen (Derives s) id id) ∧
      ∀ cycle, ofSymbols s = .error cycle ↔ IsFirstCycle s cycle.types := by
  let types := (draft s (AnonymousPaths.ofSymbols s)).types
  have refused (cycle : InheritanceCycle) : ofSymbols s = .error cycle ↔
      types.keys.findSome? (cycleOf? types) = some cycle := by
    simp only [ofSymbols, types]
    split
    · next found => rw [found, Except.error.injEq, Option.some.injEq]
    · next none => rw [none]; simp
  constructor
  · simp only [refused, transGen_derives_iff]
    exact exists_findSome?_cycleOf?_iff
  · intro cycle
    rw [refused, findSome?_cycleOf?_eq_some_iff]
    simp only [cycleOf?_eq_some_iff]
    constructor
    · rintro ⟨first, ⟨head, nodup, bases⟩, least⟩
      refine ⟨nodup, forall₂_derives_iff.mpr bases, first, head, fun id cyclic => ?_⟩
      exact least id (transGen_derives_iff.mp cyclic)
    · rintro ⟨nodup, bases, first, head, least⟩
      refine ⟨first, ⟨head, nodup, forall₂_derives_iff.mp bases⟩, fun id cyclic => ?_⟩
      exact least id (transGen_derives_iff.mpr cyclic)

end TypeGraph

end SoapBindings
