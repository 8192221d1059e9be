import SoapBindings.Graph.Anonymous
import SoapBindings.Proofs.Schema.Uses
import SoapBindings.Proofs.Text.Numbered

/-!
# Names of types declared in place

The walk that names types takes each out of those not yet named (`AnonymousPaths.walk`). `Walking`
is what holds between any two of its steps: named and unnamed types together are all types declared
in place, no path is given twice in a namespace, and whatever a named type leads to is named or
pending. A walk that has ended has nothing pending, so all that is used is named (`Named.used`).
-/

set_option autoImplicit false

namespace SoapBindings.AnonymousPaths

open Schema

variable {s : Symbols}

theorem mem_pending {uses : List Use} {e : Enclosure} :
    e ∈ pending uses ↔ .inline e.site e.path ∈ uses := by
  rw [pending, List.mem_filterMap]
  constructor
  · rintro ⟨u, hu, he⟩
    split at he
    · cases he
      exact hu
    · cases he
  · exact fun h => ⟨_, h, rfl⟩

theorem mem_inNamespace {paths : AnonymousPaths} {ns path : String} :
    path ∈ paths.inNamespace ns ↔ ∃ site : Site, paths[site]? = some path ∧ site.name.ns = ns := by
  simp [inNamespace, Std.ExtTreeMap.mem_toList_iff_getElem?_eq_some]

/-- What a named type leads to. -/
def usesAt (s : Symbols) (site : Site) (path : String) (decl : TypeDecl) : List Use :=
  s.uses (typeId site path).toText ⟨site, path⟩ decl

/-- The state of a walk between two steps. -/
structure Walking (s : Symbols) (unnamed : Std.ExtTreeMap Site TypeDecl) (paths : AnonymousPaths)
    (todo : List Enclosure) : Prop where
  declared : ∀ (site : Site) (decl : TypeDecl), unnamed[site]? = some decl →
    s.inlineTypes[site]? = some decl
  named : ∀ site ∈ paths, site ∈ s.inlineTypes ∧ site ∉ unnamed
  all : ∀ site ∈ s.inlineTypes, site ∈ paths ∨ site ∈ unnamed
  distinct : ∀ (a b : Site) (path : String), paths[a]? = some path → paths[b]? = some path →
    a.name.ns = b.name.ns → a = b
  used : ∀ (site : Site) (path : String) (decl : TypeDecl), paths[site]? = some path →
    s.inlineTypes[site]? = some decl → ∀ e ∈ pending (usesAt s site path decl),
    e.site ∈ s.inlineTypes → e.site ∈ paths ∨ ∃ e' ∈ todo, e'.site = e.site

theorem Walking.start (s : Symbols) (todo : List Enclosure) : Walking s s.inlineTypes ∅ todo where
  declared _ _ h := h
  named _ h := absurd h Std.ExtTreeMap.not_mem_empty
  all _ h := Or.inr h
  distinct _ _ _ h := absurd h (by simp)
  used _ _ _ h := absurd h (by simp)

variable {unnamed : Std.ExtTreeMap Site TypeDecl} {paths : AnonymousPaths} {rest : List Enclosure}
  {site : Site} {wish : String}

/-- A pending type that is named already is dropped. -/
theorem Walking.skip (h : Walking s unnamed paths (⟨site, wish⟩ :: rest))
    (absent : unnamed[site]? = none) : Walking s unnamed paths rest where
  declared := h.declared
  named := h.named
  all := h.all
  distinct := h.distinct
  used a path decl hpath hdecl e he listed := by
    rcases h.used a path decl hpath hdecl e he listed with done | ⟨e', he', same⟩
    · exact Or.inl done
    · rcases List.mem_cons.mp he' with rfl | he'
      · -- What is dropped is not unnamed, so it has a path.
        left
        exact (h.all e.site listed).resolve_right (same ▸ not_mem_of_getElem?_eq_none absent)
      · exact Or.inr ⟨e', he', same⟩

/-- A pending type gets a path that is new in its namespace. -/
theorem Walking.name {decl : TypeDecl} (h : Walking s unnamed paths (⟨site, wish⟩ :: rest))
    (here : unnamed[site]? = some decl) {path : String}
    (fresh : path ∉ paths.inNamespace site.name.ns) :
    Walking s (unnamed.erase site) (paths.insert site path)
      (pending (usesAt s site path decl) ++ rest) where
  declared a d hd := h.declared a d (getElem?_erase_eq_some_iff.mp hd).2
  named a ha := by
    rcases mem_insert_iff.mp ha with rfl | ha
    · exact ⟨mem_of_getElem? (h.declared _ _ here), fun hmem => (mem_erase_iff.mp hmem).1 rfl⟩
    · exact ⟨(h.named a ha).1, fun hmem => (h.named a ha).2 (mem_erase_iff.mp hmem).2⟩
  all a ha := by
    by_cases same : site = a
    · exact Or.inl (mem_insert_iff.mpr (Or.inl same))
    · rcases h.all a ha with done | left
      · exact Or.inl (mem_insert_iff.mpr (Or.inr done))
      · exact Or.inr (mem_erase_iff.mpr ⟨same, left⟩)
  distinct a b p ha hb hns := by
    rcases getElem?_insert_eq_some_iff.mp ha with ⟨rfl, rfl⟩ | ⟨_, ha⟩
    · rcases getElem?_insert_eq_some_iff.mp hb with ⟨rfl, _⟩ | ⟨_, hb⟩
      · rfl
      · exact absurd (mem_inNamespace.mpr ⟨b, hb, hns.symm⟩) fresh
    · rcases getElem?_insert_eq_some_iff.mp hb with ⟨rfl, rfl⟩ | ⟨_, hb⟩
      · exact absurd (mem_inNamespace.mpr ⟨a, ha, hns⟩) fresh
      · exact h.distinct a b p ha hb hns
  used a p d ha hd e he listed := by
    rcases getElem?_insert_eq_some_iff.mp ha with ⟨rfl, rfl⟩ | ⟨_, ha⟩
    · -- All that the type named here leads to becomes pending.
      rw [h.declared _ _ here] at hd
      cases hd
      exact Or.inr ⟨e, List.mem_append_left _ he, rfl⟩
    · rcases h.used a p d ha hd e he listed with done | ⟨e', he', same⟩
      · exact Or.inl (mem_insert_iff.mpr (Or.inr done))
      · rcases List.mem_cons.mp he' with rfl | he'
        · exact Or.inl (mem_insert_iff.mpr (Or.inl same))
        · exact Or.inr ⟨e', List.mem_append_right _ he', same⟩

/-- A walk goes on until nothing is pending; it keeps the paths given out, and names all that was
pending. -/
theorem Walking.run {todo : List Enclosure} (h : Walking s unnamed paths todo) :
    ∃ left, Walking s left (walk s unnamed paths todo) [] ∧
      (∀ site ∈ paths, site ∈ walk s unnamed paths todo) ∧
      ∀ e ∈ todo, e.site ∈ s.inlineTypes → e.site ∈ walk s unnamed paths todo := by
  fun_induction walk s unnamed paths todo with
  | case1 unnamed paths => exact ⟨unnamed, h, fun _ ha => ha, by simp⟩
  | case2 unnamed paths site wish rest absent ih =>
    obtain ⟨left, walking, kept, reached⟩ := ih (h.skip absent)
    refine ⟨left, walking, kept, fun e he listed => ?_⟩
    rcases List.mem_cons.mp he with rfl | he
    · exact kept site ((h.all site listed).resolve_right (not_mem_of_getElem?_eq_none absent))
    · exact reached e he listed
  | case3 unnamed paths site wish rest decl here _ path ih =>
    obtain ⟨left, walking, kept, reached⟩ := ih (h.name here (Text.unused_not_mem _ _))
    refine ⟨left, walking, fun a ha => kept a (mem_insert_iff.mpr (Or.inr ha)), ?_⟩
    intro e he listed
    rcases List.mem_cons.mp he with rfl | he
    · exact kept site (mem_insert_iff.mpr (Or.inl rfl))
    · exact reached e (List.mem_append_right _ he) listed

/-! ## The names given out -/

/-- What is known of the names of all types declared in place. -/
structure Named (s : Symbols) (paths : AnonymousPaths) : Prop where
  declared : ∀ site ∈ paths, site ∈ s.inlineTypes
  distinct : ∀ (a b : Site) (path : String), paths[a]? = some path → paths[b]? = some path →
    a.name.ns = b.name.ns → a = b
  /-- What a named type declares in place and uses is named. -/
  used : ∀ (site : Site) (path : String) (decl : TypeDecl), paths[site]? = some path →
    s.inlineTypes[site]? = some decl → ∀ inner wish,
    .inline inner wish ∈ usesAt s site path decl → inner ∈ paths
  /-- So is what a type or an element at the top of a schema uses. -/
  started : ∀ inner wish, .inline inner wish ∈ starts s → inner ∈ paths

theorem sited_of_mem_starts {u : Use} (h : u ∈ starts s) : s.Sited u := by
  rcases List.mem_append.mp h with h | h
  · obtain ⟨⟨name, d⟩, hd, hu⟩ := List.mem_flatMap.mp h
    have hd := Std.ExtTreeMap.mem_toList_iff_getElem?_eq_some.mp hd
    exact Symbols.sited_of_mem_uses (Symbols.Lists.type hd).sub u hu
  · obtain ⟨⟨name, d⟩, hd, rfl⟩ := List.mem_map.mp h
    exact Symbols.sited_elementUse (Std.ExtTreeMap.mem_toList_iff_getElem?_eq_some.mp hd)

/-- What a type declared in place lists is listed. -/
theorem listed_of_getElem? {site : Site} {decl : TypeDecl}
    (h : s.inlineTypes[site]? = some decl) : ∀ e ∈ decl.inlineTypes site, e ∈ s.inlineEntries :=
  Symbols.within_inlineEntries (mem_of_getElem?_ofList (Symbols.inlineTypes_eq s ▸ h))

theorem named_ofSymbols (s : Symbols) : Named s (ofSymbols s) := by
  obtain ⟨left, walking, _, reached⟩ := (Walking.start s (pending (starts s))).run
  refine ⟨fun a ha => (walking.named a ha).1, walking.distinct, ?_, ?_⟩
  · intro site path decl hpath hdecl inner wish hinner
    have listed := Symbols.sited_of_mem_uses (listed_of_getElem? hdecl) _ hinner inner wish rfl
    have used := walking.used site path decl hpath hdecl ⟨inner, wish⟩
    rcases used (mem_pending.mpr hinner) listed with done | ⟨_, he, _⟩
    · exact done
    · cases he
  · intro inner wish hinner
    exact reached ⟨inner, wish⟩ (mem_pending.mpr hinner) (sited_of_mem_starts hinner inner wish rfl)

end SoapBindings.AnonymousPaths
