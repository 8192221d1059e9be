import SoapBindings.Proofs.Graph.References
import SoapBindings.Proofs.Schema.Grounding

/-!
# What declared types use

The references that a graph reports are those among all uses that find nothing (`mem_missing`). None
of them is made up: whatever is used is mentioned in the declarations (`grounded_of_used`), and is
not found if it is reported (`lacking_of_unresolved`). For the types declared in place this goes
along the walk that names them, each of which is used by one that was named before.
-/

set_option autoImplicit false

namespace SoapBindings

open Relation Schema

/-! ## The walk that names types -/

namespace AnonymousPaths

variable {s : Symbols} {P : TypeDecl → Prop}

/-- What holds of the types that are walked to first, and is passed on to those that they use, holds
of all types that get a name. -/
theorem walk_induction
    (passed : ∀ site path decl, s.inlineTypes[site]? = some decl → P decl →
      ∀ inner wish, .inline inner wish ∈ usesAt s site path decl →
        ∀ t, s.inlineTypes[inner]? = some t → P t)
    {unnamed : Std.ExtTreeMap Site TypeDecl} {paths : AnonymousPaths} {todo : List Enclosure}
    (declared : ∀ (site : Site) (decl : TypeDecl), unnamed[site]? = some decl →
      s.inlineTypes[site]? = some decl)
    (named : ∀ site ∈ paths, ∀ t, s.inlineTypes[site]? = some t → P t)
    (pending : ∀ e ∈ todo, ∀ t, s.inlineTypes[e.site]? = some t → P t) :
    ∀ site ∈ walk s unnamed paths todo, ∀ t, s.inlineTypes[site]? = some t → P t := by
  fun_induction walk s unnamed paths todo with
  | case1 unnamed paths => exact named
  | case2 unnamed paths site wish rest absent ih =>
    exact ih declared named fun e he => pending e (List.mem_cons_of_mem _ he)
  | case3 unnamed paths site wish rest decl here _ path ih =>
    have own : P decl := pending _ List.mem_cons_self decl (declared site decl here)
    refine ih (fun a d hd => declared a d (getElem?_erase_eq_some_iff.mp hd).2) ?_ ?_
    · intro a ha t ht
      rcases mem_insert_iff.mp ha with rfl | ha
      · exact pending _ List.mem_cons_self t ht
      · exact named a ha t ht
    · intro e he
      rcases List.mem_append.mp he with he | he
      · exact passed site path decl (declared site decl here) own _ _ (mem_pending.mp he)
      · exact pending e (List.mem_cons_of_mem _ he)

theorem named_induction
    (started : ∀ inner wish, .inline inner wish ∈ starts s →
      ∀ t, s.inlineTypes[inner]? = some t → P t)
    (passed : ∀ site path decl, s.inlineTypes[site]? = some decl → P decl →
      ∀ inner wish, .inline inner wish ∈ usesAt s site path decl →
        ∀ t, s.inlineTypes[inner]? = some t → P t) :
    ∀ site ∈ ofSymbols s, ∀ t, s.inlineTypes[site]? = some t → P t :=
  walk_induction passed (fun _ _ h => h) (fun _ h => absurd h Std.ExtTreeMap.not_mem_empty)
    fun _ he => started _ _ (mem_pending.mp he)

end AnonymousPaths

namespace TypeGraph

open AnonymousPaths

variable {s : Symbols} {u : Use} {e : TypeEntry}

/-- The use is one of a declared type, or that of an element at the top of a schema. -/
inductive Used (s : Symbols) : Use → Prop
  | byType {e : TypeEntry} {u : Use} : e ∈ allEntries s → u ∈ s.uses e.id.toText e.place e.decl →
      Used s u
  | byElement {name : QName} {d : Declared ElementDecl} : s.elements[name]? = some d →
      Used s (Symbols.elementUse name d.decl)

/-- What is missing is what is used in vain. -/
theorem mem_missing {r : Reference} :
    r ∈ missing s (AnonymousPaths.ofSymbols s) ↔ ∃ u, Used s u ∧ unresolved? s u = some r := by
  rw [missing, Std.ExtTreeSet.mem_ofList, List.contains_iff_mem, List.mem_append, List.mem_flatMap,
    List.mem_filterMap]
  constructor
  · rintro (⟨e, he, hr⟩ | ⟨⟨name, d⟩, hd, hr⟩)
    · obtain ⟨u, hu, hr⟩ := List.mem_filterMap.mp hr
      exact ⟨u, .byType he hu, hr⟩
    · exact ⟨_, .byElement (Std.ExtTreeMap.mem_toList_iff_getElem?_eq_some.mp hd), hr⟩
  · rintro ⟨u, used, hr⟩
    cases used with
    | byType he hu => exact Or.inl ⟨_, he, List.mem_filterMap.mpr ⟨u, hu, hr⟩⟩
    | byElement hd =>
      exact Or.inr ⟨(_, _), Std.ExtTreeMap.mem_toList_iff_getElem?_eq_some.mpr hd, hr⟩

/-- A type declared in place that is used has a path. -/
theorem mem_ofSymbols_of_used {site : Site} {wish : String} (h : Used s (.inline site wish)) :
    site ∈ AnonymousPaths.ofSymbols s := by
  have named := named_ofSymbols s
  generalize same : Use.inline site wish = u at h
  cases h with
  | byType he hu => exact mem_paths_of_inline named he (same ▸ hu)
  | byElement hd =>
    have listed := Std.ExtTreeMap.mem_toList_iff_getElem?_eq_some.mpr hd
    refine named.started site wish (List.mem_append_right _ ?_)
    exact List.mem_map.mpr ⟨(_, _), listed, same.symm⟩

/-! ## What is used is mentioned -/

/-- All that a declared type mentions is mentioned. -/
theorem mentions_of_entry (he : e ∈ allEntries s) : ∀ m ∈ e.decl.mentions, s.Mentions m := by
  rcases List.mem_append.mp he with he | he
  · obtain ⟨name, d, hd, rfl⟩ := mem_namedEntries.mp he
    exact fun m hm => .inType hd hm
  · obtain ⟨site, path, decl, origin, hpath, hdecl, _, rfl⟩ := mem_anonymousEntries.mp he
    refine named_induction (P := fun t => ∀ m ∈ t.mentions, s.Mentions m) ?_ ?_ site
      (mem_of_getElem? hpath) decl hdecl
    · intro inner wish h
      have grounded : s.Grounded (.inline inner wish) := by
        rcases List.mem_append.mp h with h | h
        · obtain ⟨⟨name, d⟩, hd, hu⟩ := List.mem_flatMap.mp h
          have hd := Std.ExtTreeMap.mem_toList_iff_getElem?_eq_some.mp hd
          exact Symbols.grounded_of_mem_uses (Symbols.Lists.type hd).sub
            (fun m hm => .inType hd hm) hu
        · obtain ⟨⟨name, d⟩, hd, same⟩ := List.mem_map.mp h
          rw [← same]
          exact Symbols.grounded_elementUse
            (Std.ExtTreeMap.mem_toList_iff_getElem?_eq_some.mp hd)
      exact grounded
    · intro outer path decl hdecl mentioned inner wish h
      exact Symbols.grounded_of_mem_uses (listed_of_getElem? hdecl) mentioned h

theorem grounded_of_used (h : Used s u) : s.Grounded u := by
  cases h with
  | byType he hu =>
    exact Symbols.grounded_of_mem_uses (listed_of_mem_entries he) (mentions_of_entry he) hu
  | byElement hd => exact Symbols.grounded_elementUse hd

theorem resolveType_eq_unresolved_iff {name : QName} : resolveType s name = .unresolved name ↔
    ¬ s.Finds ⟨name, .type⟩ := by
  rw [resolveType, Symbols.Finds]
  cases Builtin.ofQName? name with
  | some b => simp
  | none =>
    simp only [Option.isSome_none, Bool.false_eq_true, false_or, ← Std.ExtTreeMap.mem_iff_contains]
    split
    · next declared => simp [declared]
    · next absent => simp [absent]

/-- What a grounded use asks for in vain is mentioned and cannot be found. -/
theorem lacking_of_unresolved {r : Reference} (grounded : s.Grounded u)
    (h : unresolved? s u = some r) : s.Mentions r.mention ∧ ¬ s.Finds r.mention := by
  cases u with
  | builtin b => cases h
  | inline site path => cases h
  | missing r' =>
    cases h
    exact grounded
  | named r' =>
    rw [unresolved?] at h
    split at h
    · next other unresolved =>
      cases h
      obtain ⟨kind, mentioned⟩ := grounded
      have same : r.mention = ⟨r.name, .type⟩ := by rw [Reference.mention, kind]
      rw [resolveType_eq_unresolved unresolved] at unresolved
      exact ⟨mentioned, same ▸ resolveType_eq_unresolved_iff.mp unresolved⟩
    · cases h

end TypeGraph

end SoapBindings
