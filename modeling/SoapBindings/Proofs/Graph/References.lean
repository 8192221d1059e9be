import SoapBindings.Graph.Building
import SoapBindings.Proofs.Graph.Naming
import SoapBindings.Proofs.Graph.Nodes
import SoapBindings.Proofs.Graph.Reachability

/-!
# What nodes refer to

Every entry has an identity of its own, so a node of the graph is that of one entry
(`getElem?_draft`), and whatever a use is found to be is a node of the graph
(`mem_draft_of_resolve`).

A node keeps each use that its type holds as a reference (`mem_references_node`,
`mem_references_of_mem_heldBy`), with one exception: deriving from the type of everything says
nothing and is dropped. So a name stands unresolved in a node exactly if the type asks for it in
vain and what it asks for is no group (`unresolved_ne_nil_iff`).

What `TypeGraph.ofSymbols` gives is the draft of the named entries, so every type that is referred
to is in it, by a type (`closed_ofSymbols`) or by an element at the top of a schema
(`mem_of_elements`). `hasUnresolved_iff` reads the unresolved types off the declarations.
-/

set_option autoImplicit false

namespace SoapBindings.TypeGraph

open Schema AnonymousPaths

variable {s : Symbols} {paths : AnonymousPaths}

/-! ## Entries -/

theorem mem_namedEntries {e : TypeEntry} : e ∈ namedEntries s ↔ ∃ name d,
    s.types[name]? = some d ∧ e = ⟨.named name, d.decl, .top .type name, d.locator⟩ := by
  simp only [namedEntries, List.mem_map, Prod.exists,
    Std.ExtTreeMap.mem_toList_iff_getElem?_eq_some]
  constructor
  · rintro ⟨name, d, hd, rfl⟩
    exact ⟨name, d, hd, rfl⟩
  · rintro ⟨name, d, hd, rfl⟩
    exact ⟨name, d, hd, rfl⟩

theorem mem_anonymousEntries {e : TypeEntry} : e ∈ anonymousEntries s paths ↔
    ∃ site path decl origin, paths[site]? = some path ∧ s.inlineTypes[site]? = some decl ∧
      s.locator? site = some origin ∧ e = ⟨typeId site path, decl, ⟨site, path⟩, origin⟩ := by
  simp only [anonymousEntries, List.mem_filterMap, Prod.exists,
    Std.ExtTreeMap.mem_toList_iff_getElem?_eq_some]
  constructor
  · rintro ⟨site, path, hpath, h⟩
    split at h
    · next decl origin hdecl horigin =>
      cases h
      exact ⟨site, path, decl, origin, hpath, hdecl, horigin, rfl⟩
    · cases h
  · rintro ⟨site, path, decl, origin, hpath, hdecl, horigin, rfl⟩
    exact ⟨site, path, hpath, by rw [hdecl, horigin]⟩

/-- What is declared in the type of an entry is listed. -/
theorem listed_of_mem_entries {e : TypeEntry} (h : e ∈ entries s paths) :
    ∀ inner ∈ e.decl.inlineTypes e.place.site, inner ∈ s.inlineEntries := by
  rcases List.mem_append.mp h with h | h
  · obtain ⟨name, d, hd, rfl⟩ := mem_namedEntries.mp h
    exact (Symbols.Lists.type hd).sub
  · obtain ⟨site, path, decl, origin, _, hdecl, _, rfl⟩ := mem_anonymousEntries.mp h
    exact listed_of_getElem? hdecl

/-- Two entries of one identity are one entry. -/
theorem entry_eq_of_id (named : Named s paths) {e e' : TypeEntry} (h : e ∈ entries s paths)
    (h' : e' ∈ entries s paths) (same : e.id = e'.id) : e = e' := by
  rcases List.mem_append.mp h with h | h <;> rcases List.mem_append.mp h' with h' | h'
  · obtain ⟨name, d, hd, rfl⟩ := mem_namedEntries.mp h
    obtain ⟨name', d', hd', rfl⟩ := mem_namedEntries.mp h'
    cases same
    rw [hd] at hd'
    cases hd'
    rfl
  · obtain ⟨name, d, hd, rfl⟩ := mem_namedEntries.mp h
    obtain ⟨site, path, decl, origin, _, _, _, rfl⟩ := mem_anonymousEntries.mp h'
    cases same
  · obtain ⟨site, path, decl, origin, _, _, _, rfl⟩ := mem_anonymousEntries.mp h
    obtain ⟨name, d, hd, rfl⟩ := mem_namedEntries.mp h'
    cases same
  · -- One path in one namespace belongs to one site.
    obtain ⟨site, path, decl, origin, hpath, hdecl, horigin, rfl⟩ := mem_anonymousEntries.mp h
    obtain ⟨site', path', decl', origin', hpath', hdecl', horigin', rfl⟩ :=
      mem_anonymousEntries.mp h'
    have parts := QName.mk.inj (TypeId.anonymous.inj same)
    obtain rfl : path = path' := parts.2
    obtain rfl : site = site' := named.distinct site site' path hpath hpath' parts.1
    rw [hdecl] at hdecl'
    rw [horigin] at horigin'
    cases hdecl'
    cases horigin'
    rfl

/-! ## Nodes -/

theorem mem_draft {id : TypeId} :
    id ∈ (draft s paths).types ↔ ∃ e ∈ entries s paths, e.id = id := by
  rw [draft, Std.ExtTreeMap.mem_ofList, List.contains_iff_exists_mem_beq]
  simp

theorem getElem?_draft (named : Named s paths) {id : TypeId} {n : TypeNode} :
    (draft s paths).types[id]? = some n ↔
      ∃ e ∈ entries s paths, e.id = id ∧ node s paths e = n := by
  have found : ∀ n, (draft s paths).types[id]? = some n →
      ∃ e ∈ entries s paths, e.id = id ∧ node s paths e = n := by
    intro n hn
    obtain ⟨e, he, heq⟩ := List.mem_map.mp (mem_of_getElem?_ofList hn)
    exact ⟨e, he, congrArg Prod.fst heq, congrArg Prod.snd heq⟩
  refine ⟨found n, ?_⟩
  rintro ⟨e, he, rfl, rfl⟩
  obtain ⟨n, hn⟩ := exists_getElem?_of_mem (mem_draft.mpr ⟨e, he, rfl⟩)
  obtain ⟨e', he', same, rfl⟩ := found n hn
  rw [entry_eq_of_id named he' he same] at hn
  exact hn

theorem mem_draft_of_resolveType {name : QName} {id : TypeId}
    (h : resolveType s name = .node id) : id ∈ (draft s paths).types := by
  rw [resolveType] at h
  split at h
  · cases h
  · split at h
    · next hname =>
      cases h
      obtain ⟨d, hd⟩ := exists_getElem?_of_mem (Std.ExtTreeMap.mem_iff_contains.mpr hname)
      exact mem_draft.mpr
        ⟨_, List.mem_append_left _ (mem_namedEntries.mpr ⟨name, d, hd, rfl⟩), rfl⟩
    · cases h

/-- What a use is found to be is a node of the graph. -/
theorem mem_draft_of_resolve (named : Named s paths) {u : Use} {id : TypeId}
    (h : resolve s paths u = .node id) : id ∈ (draft s paths).types := by
  cases u with
  | builtin b => cases h
  | named r => exact mem_draft_of_resolveType h
  | missing r => cases h
  | inline site wish =>
    rw [resolve] at h
    split at h
    · next id' hid =>
      cases h
      obtain ⟨path, hpath, rfl⟩ := Option.map_eq_some_iff.mp hid
      have hsite := named.declared site (mem_of_getElem? hpath)
      obtain ⟨decl, hdecl⟩ := exists_getElem?_of_mem hsite
      obtain ⟨origin, horigin⟩ := Option.isSome_iff_exists.mp
        (Symbols.isSome_locator? (mem_of_getElem?_ofList (Symbols.inlineTypes_eq s ▸ hdecl)))
      exact mem_draft.mpr ⟨_, List.mem_append_right _ (mem_anonymousEntries.mpr
        ⟨site, path, decl, origin, hpath, hdecl, horigin, rfl⟩), rfl⟩
    · cases h

end SoapBindings.TypeGraph

/-! ## References -/

namespace SoapBindings

/-- The types that a complex type refers to: its base, its value and its members'. -/
theorem TypeNode.mem_references_complex {content : TypeContent} {attributes : List Particle}
    {mixed anyAttribute : Bool} {base : Option BaseType} {isAbstract : Bool}
    {documentation : Option String} {origin : Locator} {r : TypeRef} :
    r ∈ (⟨.complex content attributes mixed anyAttribute, base, isAbstract, documentation,
        origin⟩ : TypeNode).references ↔
      (∃ derivation, base = some ⟨r, derivation⟩) ∨ content = .value r ∨
        (∃ p ∈ content.particles, p.type = r) ∨ ∃ p ∈ attributes, p.type = r := by
  rw [mem_references, members]
  simp only [List.mem_append, or_and_right, exists_or]
  constructor
  · rintro (⟨need, h⟩ | h | h)
    · rcases List.mem_append.mp h with h | h
      · split at h
        · next type heq =>
          cases List.mem_singleton.mp h
          exact Or.inl ⟨_, heq⟩
        · cases h
      · cases content with
        | value type =>
          cases List.mem_singleton.mp h
          exact Or.inr (Or.inl rfl)
        | empty | sequence _ | choice _ | all _ => cases h
    · exact Or.inr (Or.inr h)
    · exact Or.inl h
  · rintro (h | rfl | h)
    · exact Or.inr (Or.inr h)
    · exact Or.inl ⟨.value, List.mem_append_right _ List.mem_cons_self⟩
    · exact Or.inr (Or.inl h)

namespace TypeGraph

open Schema AnonymousPaths

variable {s : Symbols} {paths : AnonymousPaths} {context : String} {e : TypeEntry}
  {t : ComplexType} {r : TypeRef}

theorem mem_particles {pieces : List Piece} {p : Particle} :
    p ∈ particles s paths pieces ↔ ∃ l, .leaf l ∈ pieces ∧ p = particle s paths l := by
  rw [particles, List.mem_map]
  constructor
  · rintro ⟨l, hl, rfl⟩
    obtain ⟨piece, hpiece, h⟩ := List.mem_filterMap.mp hl
    cases piece with
    | leaf l' =>
      cases h
      exact ⟨l, hpiece, rfl⟩
    | missing r => cases h
  · rintro ⟨l, hl, rfl⟩
    exact ⟨l, List.mem_filterMap.mpr ⟨_, hl, rfl⟩, rfl⟩

@[simp] theorem particles_arrange (compositor : Compositor) (ps : List Particle) :
    (arrange compositor ps).particles = ps := by
  cases compositor <;> rfl

/-! ## Bases and contents -/

theorem baseType_eq_some {name : QName} {derivation : DerivationKind} {b : BaseType}
    (h : baseType s name derivation = some b) : b.type = resolveType s name := by
  rw [baseType] at h
  split at h
  · cases h
  · cases h
    rfl

theorem baseType_of_ne {name : QName} {derivation : DerivationKind}
    (h : resolveType s name ≠ .builtin .anyType) :
    baseType s name derivation = some ⟨resolveType s name, derivation⟩ := by
  rw [baseType]
  split
  · next heq => exact absurd heq h
  · rfl

/-- The base is what the type comes from. -/
theorem origin?_of_baseOf {derivation : DerivationKind} (paths : AnonymousPaths)
    (context : String) (h : baseOf s t = some ⟨r, derivation⟩) :
    ∃ u, Symbols.origin? context t = some u ∧ resolve s paths u = r := by
  rw [baseOf] at h
  rw [Symbols.origin?]
  split at h
  · cases h
  · cases h
  · next heq =>
    simp only [heq]
    exact ⟨_, rfl, (baseType_eq_some h).symm⟩
  · next heq =>
    split at h
    · cases h
    · next plain =>
      simp only [heq, if_neg plain]
      exact ⟨_, rfl, (baseType_eq_some h).symm⟩
  · next heq =>
    split at h
    · cases h
      simp only [heq]
      exact ⟨_, rfl, rfl⟩
    · cases h
  · next heq =>
    split at h
    · cases h
      simp only [heq]
      exact ⟨_, rfl, rfl⟩
    · cases h

/-- The value of a type is what the type comes from. -/
theorem origin?_of_contentOf_value (context : String) (h : contentOf s paths e t = .value r) :
    ∃ u, Symbols.origin? context t = some u ∧ resolve s paths u = r := by
  rw [contentOf] at h
  rw [Symbols.origin?]
  split at h
  · next heq =>
    split at h
    · cases h
    · cases h
      simp only [heq]
      exact ⟨_, rfl, rfl⟩
  · next heq =>
    cases h
    simp only [heq]
    exact ⟨_, rfl, rfl⟩
  · split at h
    · cases h
    · split at h
      · cases h
      · next g _ =>
        cases hc : g.compositor <;> simp [hc, arrange] at h

/-- The particles of the content are the elements of the type, or the items of an array. -/
theorem particles_contentOf {p : Particle} (h : p ∈ (contentOf s paths e t).particles) :
    (∃ u, Symbols.origin? e.id.toText t = some u ∧ p = arrayParticle (resolve s paths u)) ∨
      ∃ l, .leaf l ∈ s.elementsOf e.id.toText e.place t ∧ p = particle s paths l := by
  rw [contentOf] at h
  split at h
  · split at h <;> cases h
  · cases h
  · split at h
    · left
      obtain ⟨r, hr, rfl⟩ := List.mem_map.mp h
      obtain ⟨u, hu, rfl⟩ := Option.map_eq_some_iff.mp (Option.mem_toList.mp hr)
      exact ⟨u, hu, rfl⟩
    · split at h
      · cases h
      · rw [particles_arrange] at h
        exact Or.inr (mem_particles.mp h)

/-- What a type comes from is its base, its value or the type of its items. -/
theorem base_or_content {u : Use} (h : Symbols.origin? e.id.toText t = some u)
    (tells : resolve s paths u ≠ .builtin .anyType) :
    (∃ derivation, baseOf s t = some ⟨resolve s paths u, derivation⟩) ∨
      contentOf s paths e t = .value (resolve s paths u) ∨
        ∃ p ∈ (contentOf s paths e t).particles, p.type = resolve s paths u := by
  have origin := h
  rw [Symbols.origin?] at h
  split at h
  · cases h
  · cases h
  · next name g heq =>
    split at h
    · next array =>
      refine Or.inr (Or.inr ⟨arrayParticle (resolve s paths u), ?_, rfl⟩)
      have isArray : Symbols.isArray t = true := by simp only [Symbols.isArray, heq, array]
      simp only [contentOf, heq, if_pos isArray, origin]
      exact List.mem_cons_self
    · next plain =>
      cases h
      refine Or.inl ⟨.restriction, ?_⟩
      simp only [baseOf, heq, if_neg plain]
      exact baseType_of_ne tells
  · next name g heq =>
    cases h
    refine Or.inl ⟨.extension, ?_⟩
    simp only [baseOf, heq]
    exact baseType_of_ne tells
  · next name heq =>
    cases h
    by_cases complex : isComplexName s name
    · refine Or.inl ⟨.extension, ?_⟩
      simp only [baseOf, heq, if_pos complex]
      rfl
    · refine Or.inr (Or.inl ?_)
      simp only [contentOf, heq, if_neg complex]
      rfl
  · next name facets heq =>
    cases h
    refine Or.inr (Or.inl ?_)
    simp only [contentOf, heq]
    rfl

/-- The elements of a type are in its content. -/
theorem particle_mem_contentOf {l : Leaf} (h : .leaf l ∈ s.elementsOf e.id.toText e.place t) :
    particle s paths l ∈ (contentOf s paths e t).particles := by
  cases hg : Symbols.contentGroup? t with
  | none => simp [Symbols.elementsOf, hg] at h
  | some g =>
    have plain : contentOf s paths e t =
        arrange g.compositor (particles s paths (s.elementsOf e.id.toText e.place t)) := by
      have group := hg
      rw [Symbols.contentGroup?] at hg
      split at hg
      · next heq => simp [contentOf, heq, Symbols.isArray, group]
      · next heq => simp [contentOf, heq, Symbols.isArray, group]
      · next heq =>
        split at hg
        · cases hg
        · next noArray => simp [contentOf, heq, Symbols.isArray, noArray, group]
      · cases hg
    rw [plain, particles_arrange]
    exact mem_particles.mpr ⟨l, h, rfl⟩

/-! ## Nodes -/

/-- The uses that an entry holds. -/
def heldBy (s : Symbols) (e : TypeEntry) : List Use := s.heldUses e.id.toText e.place e.decl

theorem mem_references_simple {t : SimpleType} (h : e.decl = .simple t) :
    r ∈ (node s paths e).references ↔
      r = resolve s paths (Symbols.simpleOrigin e.id.toText e.place t) := by
  simp only [node, h, simpleKind]
  split
  · split <;> simp [TypeNode.references, TypeNode.needs, TypeNode.members]
  · simp [TypeNode.references, TypeNode.needs, TypeNode.members]
  · simp [TypeNode.references, TypeNode.needs, TypeNode.members]

/-- A node refers to what its type holds, looked up. -/
theorem mem_references_node (h : r ∈ (node s paths e).references) :
    ∃ u ∈ heldBy s e, resolve s paths u = r := by
  cases hdecl : e.decl with
  | simple t =>
    rw [heldBy, hdecl]
    exact ⟨_, List.mem_cons_self, ((mem_references_simple hdecl).mp h).symm⟩
  | complex t =>
    simp only [node, hdecl] at h
    rw [heldBy, hdecl]
    rcases TypeNode.mem_references_complex.mp h with
      ⟨derivation, hbase⟩ | hvalue | ⟨p, hp, rfl⟩ | ⟨p, hp, rfl⟩
    · obtain ⟨u, hu, rfl⟩ := origin?_of_baseOf paths e.id.toText hbase
      exact ⟨u, Symbols.mem_heldUses_complex.mpr (Or.inl hu), rfl⟩
    · obtain ⟨u, hu, rfl⟩ := origin?_of_contentOf_value e.id.toText hvalue
      exact ⟨u, Symbols.mem_heldUses_complex.mpr (Or.inl hu), rfl⟩
    · rcases particles_contentOf hp with ⟨u, hu, rfl⟩ | ⟨l, hl, rfl⟩
      · exact ⟨u, Symbols.mem_heldUses_complex.mpr (Or.inl hu), rfl⟩
      · exact ⟨l.use, Symbols.mem_heldUses_complex.mpr
          (Or.inr ⟨l, List.mem_append_left _ hl, rfl⟩), rfl⟩
    · obtain ⟨l, hl, rfl⟩ := mem_particles.mp hp
      exact ⟨l.use, Symbols.mem_heldUses_complex.mpr
        (Or.inr ⟨l, List.mem_append_right _ hl, rfl⟩), rfl⟩

/-- What a type holds, its node refers to. -/
theorem mem_references_of_mem_heldBy {u : Use} (h : u ∈ heldBy s e)
    (tells : resolve s paths u ≠ .builtin .anyType) :
    resolve s paths u ∈ (node s paths e).references := by
  cases hdecl : e.decl with
  | simple t =>
    rw [heldBy, hdecl] at h
    rw [List.mem_singleton.mp h]
    exact (mem_references_simple hdecl).mpr rfl
  | complex t =>
    rw [heldBy, hdecl] at h
    simp only [node, hdecl]
    refine TypeNode.mem_references_complex.mpr ?_
    rcases Symbols.mem_heldUses_complex.mp h with horigin | ⟨l, hl, rfl⟩
    · rcases base_or_content horigin tells with hbase | hvalue | hmember
      · exact Or.inl hbase
      · exact Or.inr (Or.inl hvalue)
      · exact Or.inr (Or.inr (Or.inl hmember))
    · rcases List.mem_append.mp hl with hl | hl
      · exact Or.inr (Or.inr (Or.inl ⟨_, particle_mem_contentOf hl, rfl⟩))
      · exact Or.inr (Or.inr (Or.inr ⟨_, mem_particles.mpr ⟨l, hl, rfl⟩, rfl⟩))

/-- Before a graph is ordered, every member holds its value itself. -/
theorem holding_of_mem_members {p : Particle} (h : p ∈ (node s paths e).members) :
    p.holding = .byValue := by
  cases hdecl : e.decl with
  | simple t =>
    simp only [node, hdecl, simpleKind] at h
    split at h
    · split at h
      · cases h
      · cases h
    · cases h
    · cases h
  | complex t =>
    simp only [node, hdecl] at h
    rcases List.mem_append.mp h with h | h
    · rcases particles_contentOf h with ⟨u, _, rfl⟩ | ⟨l, _, rfl⟩
      · rfl
      · rfl
    · obtain ⟨l, _, rfl⟩ := mem_particles.mp h
      rfl

/-! ## What is asked for in vain -/

/-- A type declared in place that an entry uses is named. -/
theorem mem_paths_of_inline (named : Named s paths) (he : e ∈ entries s paths) {site : Site}
    {wish : String} (h : .inline site wish ∈ s.uses e.id.toText e.place e.decl) : site ∈ paths := by
  rcases List.mem_append.mp he with he | he
  · obtain ⟨name, d, hd, rfl⟩ := mem_namedEntries.mp he
    refine named.started site wish (List.mem_append_left _ ?_)
    refine List.mem_flatMap.mpr ⟨(name, d), ?_, h⟩
    exact Std.ExtTreeMap.mem_toList_iff_getElem?_eq_some.mpr hd
  · obtain ⟨at', path, decl, origin, hpath, hdecl, _, rfl⟩ := mem_anonymousEntries.mp he
    exact named.used at' path decl hpath hdecl site wish h

theorem resolveType_eq_unresolved {name other : QName}
    (h : resolveType s name = .unresolved other) : other = name := by
  rw [resolveType] at h
  split at h
  · cases h
  · split at h
    · cases h
    · cases h
      rfl

/-- What an entry uses is unresolved if it asks for something in vain; types declared in place are
always found. -/
theorem resolve_eq_unresolved_iff (named : Named s paths) (he : e ∈ entries s paths) {u : Use}
    (hu : u ∈ s.uses e.id.toText e.place e.decl) {name : QName} :
    resolve s paths u = .unresolved name ↔ ∃ r, unresolved? s u = some r ∧ r.name = name := by
  cases u with
  | builtin b => simp [resolve, unresolved?]
  | missing r => simp [resolve, unresolved?]
  | named r =>
    rw [resolve, unresolved?]
    constructor
    · intro h
      rw [h]
      exact ⟨r, rfl, (resolveType_eq_unresolved h).symm⟩
    · rintro ⟨r', h, rfl⟩
      split at h
      · next other heq =>
        cases h
        rw [heq, resolveType_eq_unresolved heq]
      · cases h
  | inline site wish =>
    obtain ⟨path, hpath⟩ := exists_getElem?_of_mem (mem_paths_of_inline named he hu)
    have found : paths.typeId? site = some (typeId site path) := by
      rw [typeId?, hpath, Option.map_some]
    simp [resolve, unresolved?, found]

/-- A name stands unresolved in a node if and only if its type asks in vain for something that is no
group. -/
theorem unresolved_ne_nil_iff (named : Named s paths) (he : e ∈ entries s paths) :
    (node s paths e).unresolved ≠ [] ↔
      ∃ r ∈ missingIn s e, r.kind ≠ .group ∧ r.kind ≠ .attributeGroup := by
  have listed := listed_of_mem_entries he
  constructor
  · intro h
    obtain ⟨name, hname⟩ := List.exists_mem_of_ne_nil _ h
    obtain ⟨u, hu, hresolve⟩ := mem_references_node (TypeNode.mem_unresolved.mp hname)
    have used := Symbols.mem_uses_of_mem_heldUses hu
    obtain ⟨r, hr, _⟩ := (resolve_eq_unresolved_iff named he used).mp hresolve
    refine ⟨r, List.mem_filterMap.mpr ⟨u, used, hr⟩, ?_⟩
    have asks := Symbols.asksNoGroup_of_mem_heldUses listed hu
    cases u with
    | builtin _ | inline _ _ => cases hr
    | named r' =>
      rw [unresolved?] at hr
      split at hr
      · cases hr
        exact asks
      · cases hr
    | missing r' =>
      cases hr
      exact asks
  · rintro ⟨r, hr, noGroup⟩ empty
    -- What is not held is a group, so the use behind `r` is held and its name stands in the node.
    obtain ⟨u, hu, hunresolved⟩ := List.mem_filterMap.mp hr
    rcases Symbols.mem_heldUses_or_group listed hu with held | ⟨r', rfl, group⟩
    · have hresolve := (resolve_eq_unresolved_iff named he hu).mpr ⟨r, hunresolved, rfl⟩
      have hmem := mem_references_of_mem_heldBy held (by rw [hresolve]; nofun)
      rw [hresolve] at hmem
      have := TypeNode.mem_unresolved.mpr hmem
      rw [empty] at this
      cases this
    · cases hunresolved
      exact group.elim noGroup.1 noGroup.2

end TypeGraph

end SoapBindings

/-! ## The graph of all declarations -/

namespace SoapBindings.TypeGraph

open Schema AnonymousPaths

variable {s : Symbols} {g : TypeGraph} {missed : References}

/-- The entries of all declared types. -/
def allEntries (s : Symbols) : List TypeEntry := entries s (AnonymousPaths.ofSymbols s)

theorem ofSymbols_eq_ok (h : ofSymbols s = .ok (g, missed)) :
    g = draft s (AnonymousPaths.ofSymbols s) ∧ missed = missing s (AnonymousPaths.ofSymbols s) := by
  rw [ofSymbols] at h
  split at h
  · cases h
  · cases h
    exact ⟨rfl, rfl⟩

theorem closed_ofSymbols (h : ofSymbols s = .ok (g, missed)) : g.Closed := by
  obtain ⟨rfl, _⟩ := ofSymbols_eq_ok h
  rintro a b ⟨n, hn, hb⟩
  obtain ⟨e, _, _, rfl⟩ := (getElem?_draft (named_ofSymbols s)).mp hn
  obtain ⟨u, _, hu⟩ := mem_references_node hb
  exact mem_draft_of_resolve (named_ofSymbols s) hu

theorem holding_ofSymbols (h : ofSymbols s = .ok (g, missed)) {a : TypeId} {n : TypeNode}
    (hn : g.types[a]? = some n) {p : Particle} (hp : p ∈ n.members) : p.holding = .byValue := by
  obtain ⟨rfl, _⟩ := ofSymbols_eq_ok h
  obtain ⟨e, _, _, rfl⟩ := (getElem?_draft (named_ofSymbols s)).mp hn
  exact holding_of_mem_members hp

theorem mem_of_elements (h : ofSymbols s = .ok (g, missed)) {name : QName} {e : ElementNode}
    (he : g.elements[name]? = some e) {id : TypeId} (hid : e.type = .node id) : id ∈ g.types := by
  obtain ⟨rfl, _⟩ := ofSymbols_eq_ok h
  simp only [draft, Std.ExtTreeMap.getElem?_map, Option.map_eq_some_iff] at he
  obtain ⟨d, _, rfl⟩ := he
  exact mem_draft_of_resolve (named_ofSymbols s) hid

/-- The types with unresolved names are those that ask in vain for something that is no group. -/
theorem hasUnresolved_iff (h : ofSymbols s = .ok (g, missed)) {a : TypeId} :
    g.HasUnresolved a ↔ ∃ e ∈ allEntries s, e.id = a ∧
      ∃ r ∈ missingIn s e, r.kind ≠ .group ∧ r.kind ≠ .attributeGroup := by
  obtain ⟨rfl, _⟩ := ofSymbols_eq_ok h
  have named := named_ofSymbols s
  constructor
  · rintro ⟨n, hn, some⟩
    obtain ⟨e, he, rfl, rfl⟩ := (getElem?_draft named).mp hn
    exact ⟨e, he, rfl, (unresolved_ne_nil_iff named he).mp some⟩
  · rintro ⟨e, he, rfl, asked⟩
    have hn := (getElem?_draft named).mpr ⟨e, he, rfl, rfl⟩
    exact ⟨_, hn, (unresolved_ne_nil_iff named he).mpr asked⟩

end SoapBindings.TypeGraph
