import Mathlib
import SoapBindings.Proofs.Graph.Used
import SoapBindings.Proofs.Graph.Wishes

/-!
# Types declared in place get one identity each

A run that gives identities to types declared in place need not know which of them there are. It
tries the path that is asked for, with a number behind it from the second attempt on, until it comes
to one that is free, or that is held by the very declaration it asks for (`Hoists`). Nothing in that
run bounds it: a type that is asked for again under another path would be taken for a new one, and
a path with a number may be what another declaration asks for from the start.

That it ends all the same is shown by the walk that names types (`AnonymousPaths.walk`), which
drops a type that was named before whatever path is asked for. The two do the same step by step
(`Hoisting.run`), because every declaration is asked for by one path (`Asks.unique`), and the
attempts before the one that it settled for stay taken by others (`Settled`). So there is one run,
and its answers give each declaration one identity and each identity one declaration, whose node is
made once (`hoists_ofSymbols`).
-/

set_option autoImplicit false

namespace SoapBindings

open Schema

namespace AnonymousPaths

open Text

/-! ## Runs -/

/-- Which declaration each identity stands for, as far as identities were given out. -/
abbrev Holders := Std.ExtTreeMap TypeId Site

/-- The path is the first of the attempts that is free or held by the declaration itself. -/
structure StopsAt (holders : Holders) (e : Enclosure) (path : String) : Prop where
  own : ∀ other, holders[typeId e.site path]? = some other → other = e.site
  first : ∃ n, attempt e.path n = path ∧
    ∀ m < n, ∃ other, holders[typeId e.site (attempt e.path m)]? = some other ∧ other ≠ e.site

/-- What a type is answered with when it is asked for. -/
structure Answer where
  site : Site
  path : String
  /-- It was not known, and a node is made of it. -/
  isNew : Bool

def Answer.id (a : Answer) : TypeId := typeId a.site a.path

/-- The answers to pending types, given the identities that are held. What a new type leads to is
asked for before anything else is. -/
inductive Hoists (s : Symbols) : Holders → List Enclosure → List Answer → Prop
  | done {holders : Holders} : Hoists s holders [] []
  | again {holders : Holders} {e : Enclosure} {path : String} {rest : List Enclosure}
      {answers : List Answer} : StopsAt holders e path →
      holders[typeId e.site path]? = some e.site → Hoists s holders rest answers →
      Hoists s holders (e :: rest) (⟨e.site, path, false⟩ :: answers)
  | anew {holders : Holders} {e : Enclosure} {path : String} {decl : TypeDecl}
      {rest : List Enclosure} {answers : List Answer} : StopsAt holders e path →
      holders[typeId e.site path]? = none → s.inlineTypes[e.site]? = some decl →
      Hoists s (holders.insert (typeId e.site path) e.site)
        (pending (usesAt s e.site path decl) ++ rest) answers →
      Hoists s holders (e :: rest) (⟨e.site, path, true⟩ :: answers)

variable {s : Symbols} {holders : Holders} {e : Enclosure} {path path' : String}
  {todo rest : List Enclosure} {answers answers' : List Answer}

theorem StopsAt.unique (h : StopsAt holders e path) (h' : StopsAt holders e path') :
    path = path' := by
  obtain ⟨n, rfl, before⟩ := h.first
  obtain ⟨n', rfl, before'⟩ := h'.first
  rcases Nat.lt_trichotomy n n' with less | rfl | more
  · obtain ⟨other, held, apart⟩ := before' n less
    exact absurd (h.own other held) apart
  · rfl
  · obtain ⟨other, held, apart⟩ := before n' more
    exact absurd (h'.own other held) apart

/-- A run has one outcome. -/
theorem Hoists.unique (h : Hoists s holders todo answers) (h' : Hoists s holders todo answers') :
    answers = answers' := by
  induction h generalizing answers' with
  | done =>
    cases h'
    rfl
  | again stops held _ ih =>
    cases h' with
    | again stops' _ rest' =>
      rw [stops.unique stops', ih rest']
    | anew stops' free _ _ =>
      rw [stops.unique stops', free] at held
      cases held
  | anew stops free hdecl _ ih =>
    cases h' with
    | again stops' held _ =>
      rw [stops.unique stops', held] at free
      cases free
    | anew stops' _ hdecl' rest' =>
      obtain rfl := stops.unique stops'
      rw [hdecl] at hdecl'
      cases hdecl'
      rw [ih rest']

/-! ## The walk is a run -/

variable {paths paths' : AnonymousPaths} {unnamed : Std.ExtTreeMap Site TypeDecl} {site : Site}
  {wish : String} {decl : TypeDecl}

/-- Identities are held by the declarations that have the paths in them. -/
def Agrees (paths : AnonymousPaths) (holders : Holders) : Prop :=
  ∀ (id : TypeId) (site : Site),
    holders[id]? = some site ↔ ∃ path, paths[site]? = some path ∧ typeId site path = id

theorem agrees_empty : Agrees ∅ ∅ := by
  intro id site
  simp

/-- Of two sites in one namespace a path makes one identity. -/
theorem typeId_eq_of_ns {other : Site} (same : other.name.ns = site.name.ns) (path : String) :
    typeId other path = typeId site path := by
  rw [typeId, typeId, same]

theorem typeId_inj {other : Site} (h : typeId site path = typeId other path') :
    site.name.ns = other.name.ns ∧ path = path' :=
  QName.mk.inj (TypeId.anonymous.inj h)

theorem Agrees.insert (agrees : Agrees paths holders) (unknown : site ∉ paths)
    (fresh : path ∉ paths.inNamespace site.name.ns) :
    Agrees (paths.insert site path) (holders.insert (typeId site path) site) := by
  intro id x
  rw [getElem?_insert_eq_some_iff]
  constructor
  · rintro (⟨rfl, rfl⟩ | ⟨_, held⟩)
    · exact ⟨path, getElem?_insert_eq_some_iff.mpr (Or.inl ⟨rfl, rfl⟩), rfl⟩
    · obtain ⟨p, hp, rfl⟩ := (agrees id x).mp held
      have other : site ≠ x := fun same => unknown (same ▸ mem_of_getElem? hp)
      exact ⟨p, getElem?_insert_eq_some_iff.mpr (Or.inr ⟨other, hp⟩), rfl⟩
  · rintro ⟨p, hp, rfl⟩
    rcases getElem?_insert_eq_some_iff.mp hp with ⟨rfl, rfl⟩ | ⟨_, hp⟩
    · exact Or.inl ⟨rfl, rfl⟩
    · refine Or.inr ⟨fun same => ?_, (agrees _ x).mpr ⟨p, hp, rfl⟩⟩
      obtain ⟨ns, rfl⟩ := typeId_inj same
      exact fresh (mem_inNamespace.mpr ⟨x, hp, ns.symm⟩)

/-- All attempts before the path are taken by other declarations of the namespace. -/
def Settled (paths : AnonymousPaths) (site : Site) (wish path : String) : Prop :=
  ∃ n, attempt wish n = path ∧ ∀ m < n, ∃ other : Site, other ≠ site ∧
    paths[other]? = some (attempt wish m) ∧ other.name.ns = site.name.ns

theorem Settled.mono (h : Settled paths site wish path)
    (kept : ∀ (a : Site) (p : String), paths[a]? = some p → paths'[a]? = some p) :
    Settled paths' site wish path := by
  obtain ⟨n, found, before⟩ := h
  refine ⟨n, found, fun m hm => ?_⟩
  obtain ⟨other, apart, hother, ns⟩ := before m hm
  exact ⟨other, apart, kept other _ hother, ns⟩

/-- A declaration that has no path yet settles for the one that the walk gives it. -/
theorem settled_unused (unknown : site ∉ paths) (wish : String) :
    Settled paths site wish (unused (paths.inNamespace site.name.ns) wish) := by
  obtain ⟨n, found, before⟩ := unused_first (paths.inNamespace site.name.ns) wish
  refine ⟨n, found, fun m hm => ?_⟩
  obtain ⟨other, hother, ns⟩ := mem_inNamespace.mp (before m hm)
  exact ⟨other, fun same => unknown (same ▸ mem_of_getElem? hother), hother, ns⟩

theorem Settled.stopsAt (h : Settled paths site wish path) (agrees : Agrees paths holders)
    (own : ∀ other, holders[typeId site path]? = some other → other = site) :
    StopsAt holders ⟨site, wish⟩ path := by
  obtain ⟨n, found, before⟩ := h
  refine ⟨own, n, found, fun m hm => ?_⟩
  obtain ⟨other, apart, hother, ns⟩ := before m hm
  exact ⟨other, (agrees _ other).mpr ⟨_, hother, typeId_eq_of_ns ns _⟩, apart⟩

/-- What holds between any two steps, of the walk and of the run. -/
structure Hoisting (s : Symbols) (unnamed : Std.ExtTreeMap Site TypeDecl) (paths : AnonymousPaths)
    (todo : List Enclosure) : Prop where
  walking : Walking s unnamed paths todo
  asked : ∀ e ∈ todo, e.site ∈ s.inlineTypes ∧ Asks s paths e.site e.path
  settled : ∀ (site : Site) (path : String), paths[site]? = some path →
    ∃ wish, Asks s paths site wish ∧ Settled paths site wish path

theorem Hoisting.start (s : Symbols) : Hoisting s s.inlineTypes ∅ (pending (starts s)) where
  walking := .start s _
  asked e he := by
    have use := mem_pending.mp he
    exact ⟨sited_of_mem_starts use e.site e.path rfl, asks_of_mem_starts use⟩
  settled _ _ h := absurd h (by simp)

/-- The walk drops what is named; the run comes to the identity that was given then. -/
theorem Hoisting.again (h : Hoisting s unnamed paths (⟨site, wish⟩ :: rest))
    (absent : unnamed[site]? = none) (agrees : Agrees paths holders) :
    Hoisting s unnamed paths rest ∧ ∃ path, paths[site]? = some path ∧
      StopsAt holders ⟨site, wish⟩ path ∧ holders[typeId site path]? = some site := by
  obtain ⟨listed, asks⟩ := h.asked _ List.mem_cons_self
  have known := (h.walking.all site listed).resolve_right (not_mem_of_getElem?_eq_none absent)
  obtain ⟨path, hpath⟩ := exists_getElem?_of_mem known
  have held : holders[typeId site path]? = some site := (agrees _ site).mpr ⟨path, hpath, rfl⟩
  refine ⟨⟨h.walking.skip absent, ?_, h.settled⟩, path, hpath, ?_, held⟩
  · exact fun e he => h.asked e (List.mem_cons_of_mem _ he)
  · -- The path was settled for when it was asked for first, and nothing else is asked for now.
    obtain ⟨wish', asks', settled⟩ := h.settled site path hpath
    obtain rfl := asks.unique asks'
    refine settled.stopsAt agrees fun other hother => ?_
    rw [held] at hother
    exact (Option.some.inj hother).symm

/-- The walk names what is not named; the run comes to an identity that is free. -/
theorem Hoisting.anew (h : Hoisting s unnamed paths (⟨site, wish⟩ :: rest))
    (here : unnamed[site]? = some decl) (agrees : Agrees paths holders)
    (hpath : path = unused (paths.inNamespace site.name.ns) wish) :
    Hoisting s (unnamed.erase site) (paths.insert site path)
        (pending (usesAt s site path decl) ++ rest) ∧
      Agrees (paths.insert site path) (holders.insert (typeId site path) site) ∧
      StopsAt holders ⟨site, wish⟩ path ∧ holders[typeId site path]? = none := by
  obtain ⟨listed, asks⟩ := h.asked _ List.mem_cons_self
  have unknown : site ∉ paths := fun known => (h.walking.named site known).2 (mem_of_getElem? here)
  have fresh : path ∉ paths.inNamespace site.name.ns := hpath ▸ unused_not_mem _ _
  have settled : Settled paths site wish path := hpath ▸ settled_unused unknown wish
  have free : holders[typeId site path]? = none := by
    rw [Option.eq_none_iff_forall_ne_some]
    intro other held
    obtain ⟨p, hp, same⟩ := (agrees _ other).mp held
    obtain ⟨ns, rfl⟩ := typeId_inj same
    exact fresh (mem_inNamespace.mpr ⟨other, hp, ns⟩)
  -- Whoever had a path before keeps it.
  have kept (a : Site) (p : String) (ha : paths[a]? = some p) :
      (paths.insert site path)[a]? = some p := by
    have apart : site ≠ a := fun same => unknown (same ▸ mem_of_getElem? ha)
    exact getElem?_insert_eq_some_iff.mpr (Or.inr ⟨apart, ha⟩)
  have hdecl := h.walking.declared site decl here
  have there : (paths.insert site path)[site]? = some path :=
    getElem?_insert_eq_some_iff.mpr (Or.inl ⟨rfl, rfl⟩)
  refine ⟨⟨h.walking.name here fresh, ?_, ?_⟩, agrees.insert unknown fresh,
    settled.stopsAt agrees (by simp [free]), free⟩
  · intro e he
    rcases List.mem_append.mp he with he | he
    · have use := mem_pending.mp he
      have sited := Symbols.sited_of_mem_uses (listed_of_getElem? hdecl) _ use
      exact ⟨sited e.site e.path rfl, asks_of_mem_usesAt there hdecl use⟩
    · have before := h.asked e (List.mem_cons_of_mem _ he)
      exact ⟨before.1, before.2.mono kept⟩
  · intro a p ha
    rcases getElem?_insert_eq_some_iff.mp ha with ⟨rfl, rfl⟩ | ⟨_, ha⟩
    · exact ⟨wish, asks.mono kept, settled.mono kept⟩
    · obtain ⟨wish', asks', settled'⟩ := h.settled a p ha
      exact ⟨wish', asks'.mono kept, settled'.mono kept⟩

/-- What is known of the answers, when some declarations have paths before and more have them
after. -/
structure Answered (before after : AnonymousPaths) (todo : List Enclosure)
    (answers : List Answer) : Prop where
  kept : ∀ (site : Site) (path : String), before[site]? = some path → after[site]? = some path
  path : ∀ a ∈ answers, after[a.site]? = some a.path
  all : ∀ e ∈ todo, ∃ a ∈ answers, a.site = e.site
  new : ∀ site ∈ after, site ∈ before ∨ ∃ a ∈ answers, a.isNew ∧ a.site = site
  apart : ∀ a ∈ answers, a.isNew → a.site ∉ before
  once : ((answers.filter (·.isNew)).map (·.site)).Nodup

theorem Answered.done (paths : AnonymousPaths) : Answered paths paths [] [] where
  kept _ _ h := h
  path _ h := absurd h List.not_mem_nil
  all _ h := absurd h List.not_mem_nil
  new _ h := Or.inl h
  apart _ h := absurd h List.not_mem_nil
  once := List.nodup_nil

theorem Answered.again {after : AnonymousPaths} (h : Answered paths after rest answers)
    (hpath : paths[site]? = some path) :
    Answered paths after (⟨site, wish⟩ :: rest) (⟨site, path, false⟩ :: answers) where
  kept := h.kept
  path a ha := by
    rcases List.mem_cons.mp ha with rfl | ha
    · exact h.kept site path hpath
    · exact h.path a ha
  all e he := by
    rcases List.mem_cons.mp he with rfl | he
    · exact ⟨_, List.mem_cons_self, rfl⟩
    · obtain ⟨a, ha, same⟩ := h.all e he
      exact ⟨a, List.mem_cons_of_mem _ ha, same⟩
  new x hx := by
    refine (h.new x hx).imp_right fun ⟨a, ha, more⟩ => ⟨a, List.mem_cons_of_mem _ ha, more⟩
  apart a ha isNew := by
    rcases List.mem_cons.mp ha with rfl | ha
    · cases isNew
    · exact h.apart a ha isNew
  once := h.once

theorem Answered.anew {after : AnonymousPaths} {inner : List Enclosure}
    (h : Answered (paths.insert site path) after (inner ++ rest) answers) (unknown : site ∉ paths) :
    Answered paths after (⟨site, wish⟩ :: rest) (⟨site, path, true⟩ :: answers) where
  kept a p ha := by
    have other : site ≠ a := fun same => unknown (same ▸ mem_of_getElem? ha)
    exact h.kept a p (getElem?_insert_eq_some_iff.mpr (Or.inr ⟨other, ha⟩))
  path a ha := by
    rcases List.mem_cons.mp ha with rfl | ha
    · exact h.kept site path (getElem?_insert_eq_some_iff.mpr (Or.inl ⟨rfl, rfl⟩))
    · exact h.path a ha
  all e he := by
    rcases List.mem_cons.mp he with rfl | he
    · exact ⟨_, List.mem_cons_self, rfl⟩
    · obtain ⟨a, ha, same⟩ := h.all e (List.mem_append_right _ he)
      exact ⟨a, List.mem_cons_of_mem _ ha, same⟩
  new x hx := by
    rcases h.new x hx with known | ⟨a, ha, more⟩
    · rcases mem_insert_iff.mp known with rfl | known
      · exact Or.inr ⟨_, List.mem_cons_self, rfl, rfl⟩
      · exact Or.inl known
    · exact Or.inr ⟨a, List.mem_cons_of_mem _ ha, more⟩
  apart a ha isNew := by
    rcases List.mem_cons.mp ha with rfl | ha
    · exact unknown
    · exact fun known => h.apart a ha isNew (mem_insert_iff.mpr (Or.inr known))
  once := by
    refine List.nodup_cons.mpr ⟨fun repeated => ?_, h.once⟩
    -- What is new later was not known after this step, but this declaration was.
    obtain ⟨a, ha, same⟩ := List.mem_map.mp repeated
    obtain ⟨ha, isNew⟩ := List.mem_filter.mp ha
    exact h.apart a ha isNew (mem_insert_iff.mpr (Or.inl same.symm))

/-- The walk and the run end together. -/
theorem Hoisting.run (h : Hoisting s unnamed paths todo) :
    ∀ holders, Agrees paths holders → ∃ answers, Hoists s holders todo answers ∧
      Answered paths (walk s unnamed paths todo) todo answers := by
  fun_induction walk s unnamed paths todo with
  | case1 unnamed paths => exact fun _ _ => ⟨[], .done, .done paths⟩
  | case2 unnamed paths site wish rest absent ih =>
    intro holders agrees
    obtain ⟨later, path, hpath, stops, held⟩ := h.again absent agrees
    obtain ⟨answers, run, answered⟩ := ih later holders agrees
    exact ⟨_, .again stops held run, answered.again hpath⟩
  | case3 unnamed paths site wish rest decl here _ path ih =>
    intro holders agrees
    obtain ⟨later, agrees', stops, free⟩ := h.anew here agrees rfl
    obtain ⟨answers, run, answered⟩ := ih later _ agrees'
    have hdecl := h.walking.declared site decl here
    have unknown : site ∉ paths :=
      fun known => (h.walking.named site known).2 (mem_of_getElem? here)
    exact ⟨_, .anew stops free hdecl run, answered.anew unknown⟩

end AnonymousPaths

/-! ## One to one -/

namespace TypeGraph

open AnonymousPaths

variable {s : Symbols} {g : TypeGraph} {missed : References} {answers : List Answer}

/-- The declarations that were asked for and the types of the graph that have no name are one to
one. -/
structure OneToOne (s : Symbols) (g : TypeGraph) (answers : List Answer) : Prop where
  /-- Different declarations never get one identity, and one declaration always gets the same. -/
  same : ∀ a ∈ answers, ∀ b ∈ answers, a.site = b.site ↔ a.id = b.id
  /-- Each is made once. -/
  made : ∀ a ∈ answers, ∃ b ∈ answers, b.isNew ∧ b.site = a.site
  once : ((answers.filter (·.isNew)).map (·.site)).Nodup
  ids : ∀ id : TypeId, id.isAnonymous → (id ∈ g.types ↔ ∃ a ∈ answers, a.id = id)
  /-- The node of an identity is made of the declaration that has it. -/
  nodes : ∀ a ∈ answers, ∃ decl origin, s.inlineTypes[a.site]? = some decl ∧
    s.locator? a.site = some origin ∧
      g.types[a.id]? =
        some (node s (AnonymousPaths.ofSymbols s) ⟨a.id, decl, ⟨a.site, a.path⟩, origin⟩)
  /-- Whatever way a use leads to a declaration, it refers to the identity of the declaration. -/
  uses : ∀ site wish, Used s (.inline site wish) → ∃ a ∈ answers, a.site = site ∧
    resolve s (AnonymousPaths.ofSymbols s) (.inline site wish) = .node a.id

theorem oneToOne_of_answered {todo : List Enclosure}
    (answered : Answered ∅ (AnonymousPaths.ofSymbols s) todo answers)
    (graph : ofSymbols s = .ok (g, missed)) : OneToOne s g answers := by
  have named := named_ofSymbols s
  have types := (ofSymbols_eq_ok graph).1
  -- A path is that of an answer, and the answer was new once.
  have known {site : Site} {path : String}
      (hpath : (AnonymousPaths.ofSymbols s)[site]? = some path) :
      ∃ a ∈ answers, a.isNew ∧ a.site = site ∧ a.path = path := by
    rcases answered.new site (mem_of_getElem? hpath) with none | ⟨a, ha, isNew, rfl⟩
    · exact absurd none Std.ExtTreeMap.not_mem_empty
    · have own := answered.path a ha
      rw [hpath] at own
      exact ⟨a, ha, isNew, rfl, (Option.some.inj own).symm⟩
  have nodes : ∀ a ∈ answers, ∃ decl origin, s.inlineTypes[a.site]? = some decl ∧
      s.locator? a.site = some origin ∧ g.types[a.id]? =
        some (node s (AnonymousPaths.ofSymbols s) ⟨a.id, decl, ⟨a.site, a.path⟩, origin⟩) := by
    intro a ha
    have hpath := answered.path a ha
    obtain ⟨decl, hdecl⟩ := exists_getElem?_of_mem (named.declared a.site (mem_of_getElem? hpath))
    obtain ⟨origin, horigin⟩ := Option.isSome_iff_exists.mp
      (Symbols.isSome_locator? (Symbols.getElem?_inlineTypes.mp hdecl))
    refine ⟨decl, origin, hdecl, horigin, ?_⟩
    rw [types]
    refine (getElem?_draft named).mpr ⟨_, List.mem_append_right _ ?_, rfl, rfl⟩
    exact mem_anonymousEntries.mpr ⟨a.site, a.path, decl, origin, hpath, hdecl, horigin, rfl⟩
  refine ⟨?_, ?_, answered.once, ?_, nodes, ?_⟩
  · intro a ha b hb
    have hpath := answered.path a ha
    have hpath' := answered.path b hb
    constructor
    · intro site
      rw [site, hpath'] at hpath
      rw [Answer.id, Answer.id, site, Option.some.inj hpath]
    · intro id
      obtain ⟨ns, path⟩ := typeId_inj id
      rw [path] at hpath
      exact named.distinct a.site b.site b.path hpath hpath' ns
  · intro a ha
    obtain ⟨b, hb, isNew, site, _⟩ := known (answered.path a ha)
    exact ⟨b, hb, isNew, site⟩
  · intro id anonymous
    constructor
    · intro h
      rw [types] at h
      obtain ⟨e, he, rfl⟩ := mem_draft.mp h
      rcases List.mem_append.mp he with he | he
      · obtain ⟨name, d, hd, rfl⟩ := mem_namedEntries.mp he
        cases anonymous
      · obtain ⟨site, path, decl, origin, hpath, _, _, rfl⟩ := mem_anonymousEntries.mp he
        obtain ⟨a, ha, _, rfl, rfl⟩ := known hpath
        exact ⟨a, ha, rfl⟩
    · rintro ⟨a, ha, rfl⟩
      obtain ⟨decl, origin, _, _, hn⟩ := nodes a ha
      exact mem_of_getElem? hn
  · intro site wish used
    obtain ⟨path, hpath⟩ := exists_getElem?_of_mem (mem_ofSymbols_of_used used)
    obtain ⟨a, ha, _, rfl, rfl⟩ := known hpath
    refine ⟨a, ha, rfl, ?_⟩
    rw [resolve, typeId?, hpath]
    rfl

/-- Whatever the tables hold, a run that knows only the identities given out so far ends, and it
ends in one way. The graph, if its bases are no cycle, has the identities given in that run, each
for one declaration and made of it once. -/
theorem hoists_ofSymbols (s : Symbols) : ∃ answers, Hoists s ∅ (pending (starts s)) answers ∧
    (∀ answers', Hoists s ∅ (pending (starts s)) answers' → answers' = answers) ∧
      ∀ g missed, ofSymbols s = .ok (g, missed) → OneToOne s g answers := by
  obtain ⟨answers, run, answered⟩ := (Hoisting.start s).run ∅ agrees_empty
  refine ⟨answers, run, fun answers' run' => run'.unique run, fun g missed graph => ?_⟩
  exact oneToOne_of_answered answered graph

/-! ## A group of two types -/

def emptyType : TypeUse :=
  .anonymous (.complex (.mk none none false false .empty [] false none))

def elementOf (name : String) : GroupItem :=
  .element ⟨name, none, some emptyType, false, false, none, none, none, none⟩ .once

def sharedName : QName := ⟨"", "G"⟩

/-- Two elements of one name, an element named as the second of them is numbered, and the group once
more. -/
def sharedGroup : GroupDecl :=
  ⟨"G", ⟨.sequence, .once,
    [elementOf "a", elementOf "a", elementOf "a2", .groupRef sharedName .once]⟩⟩

def sharingType (name : String) : TypeDecl :=
  .complex (.mk (some name) none false false
    (.group ⟨.sequence, .once, [.groupRef sharedName .once]⟩) [] false none)

def sharingSymbols : Symbols :=
  let first : Declared TypeDecl := ⟨sharingType "T", "", default⟩
  let second : Declared TypeDecl := ⟨sharingType "U", "", default⟩
  let group : Declared GroupDecl := ⟨sharedGroup, "", default⟩
  { Symbols.empty with
    types := (Symbols.empty.types.insert ⟨"", "T"⟩ first).insert ⟨"", "U"⟩ second
    groups := Symbols.empty.groups.insert sharedName group }

/-- The third element asks for the path that the second has got, and gets another. -/
theorem hoists_ofSymbols_sharing : ∃ answers g missed,
    Hoists sharingSymbols ∅ (pending (starts sharingSymbols)) answers ∧
      ofSymbols sharingSymbols = .ok (g, missed) ∧ OneToOne sharingSymbols g answers ∧
        (∃ a ∈ answers, a.id = .anonymous ⟨"", "G/a2"⟩) ∧
        ∃ a ∈ answers, a.id = .anonymous ⟨"", "G/a22"⟩ := by
  obtain ⟨answers, run, _, oneToOne⟩ := hoists_ofSymbols sharingSymbols
  let g := draft sharingSymbols (AnonymousPaths.ofSymbols sharingSymbols)
  have noCycle : g.types.keys.findSome? (cycleOf? g.types) = none := by cbv
  have graph : ofSymbols sharingSymbols =
      .ok (g, missing sharingSymbols (AnonymousPaths.ofSymbols sharingSymbols)) := by
    simp only [ofSymbols, g] at noCycle ⊢
    rw [noCycle]
  have one := oneToOne g _ graph
  refine ⟨answers, g, _, run, graph, one, (one.ids _ rfl).mp ?_, (one.ids _ rfl).mp ?_⟩
  · exact Std.ExtTreeMap.mem_iff_contains.mpr (by cbv)
  · exact Std.ExtTreeMap.mem_iff_contains.mpr (by cbv)

end TypeGraph

end SoapBindings
