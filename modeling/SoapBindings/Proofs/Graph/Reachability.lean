import Mathlib.Order.Bounds.Basic
import SoapBindings.Graph.Reach
import SoapBindings.Proofs.Graph.Nodes
import SoapBindings.Proofs.Walks

/-!
# Reachable and tainted types, by paths

Both sets are found by a walk, forwards from roots or backwards from the types with unresolved
names. Said by paths along references (`Refers`) they fit together: a type is tainted if and only
if a type with an unresolved name can be reached from it (`mem_tainted`).

Backwards one goes along all references of a node, and what these are is said once for each place of
a node in which another type can stand (`TypeNode.RefersTo`). The way back goes as far as it has to
and no further: the tainted types are the least set that holds the types with unresolved names and,
with each type, those that refer to it (`isLeast_tainted`), and a type is in it if and only if a
search from it alone comes to a type with such a name (`mem_tainted_iff_reachable`).
-/

set_option autoImplicit false

namespace SoapBindings.TypeGraph

open Relation

/-- The type `a` of the graph refers to the type `b`. -/
def Refers (g : TypeGraph) (a b : TypeId) : Prop :=
  ∃ n, g.types[a]? = some n ∧ .node b ∈ n.references

/-- Names are unresolved in the type itself. -/
def HasUnresolved (g : TypeGraph) (a : TypeId) : Prop :=
  ∃ n, g.types[a]? = some n ∧ n.unresolved ≠ []

/-- Every type that is referred to is in the graph. -/
def Closed (g : TypeGraph) : Prop := ∀ a b, g.Refers a b → b ∈ g.types

variable {g : TypeGraph}

theorem mem_filterMap_node? {rs : List TypeRef} {id : TypeId} :
    id ∈ rs.filterMap (·.node?) ↔ .node id ∈ rs := by
  rw [List.mem_filterMap]
  constructor
  · rintro ⟨r, hr, h⟩
    cases r with
    | node other =>
      cases h
      exact hr
    | builtin _ | unresolved _ => cases h
  · exact fun h => ⟨_, h, rfl⟩

theorem leads_uses {a b : TypeId} : g.uses.Leads a b ↔ g.Refers a b := by
  simp only [Arrows.Leads, uses, Std.ExtTreeMap.getElem?_map, Option.map_eq_some_iff]
  constructor
  · rintro ⟨_, ⟨n, hn, rfl⟩, hb⟩
    exact ⟨n, hn, mem_filterMap_node?.mp hb⟩
  · rintro ⟨n, hn, hb⟩
    exact ⟨_, ⟨n, hn, rfl⟩, mem_filterMap_node?.mpr hb⟩

theorem mem_reachable {roots : List TypeId} {b : TypeId} :
    b ∈ g.reachable roots ↔ ∃ a ∈ roots, ReflTransGen g.Refers a b := by
  rw [reachable, Arrows.mem_reach]
  have same : g.uses.Leads = g.Refers := by
    funext a b
    exact propext leads_uses
  rw [same]

/-! ## Backwards -/

/-- Arrows to a user, from each of some types. -/
theorem leads_foldl_users {arrows : Arrows TypeId} {user a b : TypeId} (used : List TypeId) :
    (used.foldl (fun arrows used => arrows.insert used (user :: arrows.getD used []))
      arrows).Leads a b ↔ (a ∈ used ∧ user = b) ∨ arrows.Leads a b := by
  induction used generalizing arrows with
  | nil => simp
  | cons first used ih =>
    rw [List.foldl_cons, ih, Arrows.leads_insert, List.mem_cons]
    constructor
    · rintro (⟨ha, rfl⟩ | ⟨rfl, rfl⟩ | h)
      · exact Or.inl ⟨Or.inr ha, rfl⟩
      · exact Or.inl ⟨Or.inl rfl, rfl⟩
      · exact Or.inr h
    · rintro (⟨rfl | ha, rfl⟩ | h)
      · exact Or.inr (Or.inl ⟨rfl, rfl⟩)
      · exact Or.inl ⟨ha, rfl⟩
      · exact Or.inr (Or.inr h)

theorem leads_usedBy {a b : TypeId} : g.usedBy.Leads b a ↔ g.Refers a b := by
  have lists : ∀ (entries : List (TypeId × TypeNode)) (arrows : Arrows TypeId),
      (entries.foldl (fun arrows e => (e.2.references.filterMap (·.node?)).foldl (fun arrows used =>
        arrows.insert used (e.1 :: arrows.getD used [])) arrows) arrows).Leads b a ↔
      (∃ n, (a, n) ∈ entries ∧ .node b ∈ n.references) ∨ arrows.Leads b a := by
    intro entries
    induction entries with
    | nil => simp
    | cons e entries ih =>
      intro arrows
      rw [List.foldl_cons, ih, leads_foldl_users, mem_filterMap_node?]
      constructor
      · rintro (⟨n, hn, hb⟩ | ⟨hb, rfl⟩ | h)
        · exact Or.inl ⟨n, List.mem_cons_of_mem _ hn, hb⟩
        · exact Or.inl ⟨e.2, List.mem_cons_self, hb⟩
        · exact Or.inr h
      · rintro (⟨n, hn, hb⟩ | h)
        · rcases List.mem_cons.mp hn with rfl | hn
          · exact Or.inr (Or.inl ⟨hb, rfl⟩)
          · exact Or.inl ⟨n, hn, hb⟩
        · exact Or.inr (Or.inr h)
  rw [usedBy, Std.ExtTreeMap.foldl_eq_foldl_toList, lists]
  simp [Refers, Arrows.Leads, Std.ExtTreeMap.mem_toList_iff_getElem?_eq_some]

/-- The types from which the walk to tainted types starts. -/
theorem mem_starts {a : TypeId} :
    a ∈ (g.types.toList.filter fun (_, node) => !node.unresolved.isEmpty).map (·.1) ↔
      g.HasUnresolved a := by
  simp [HasUnresolved, Std.ExtTreeMap.mem_toList_iff_getElem?_eq_some]

/-- A type is tainted if and only if a type with an unresolved name can be reached from it. -/
theorem mem_tainted {a : TypeId} :
    a ∈ g.tainted ↔ ∃ b, ReflTransGen g.Refers a b ∧ g.HasUnresolved b := by
  rw [tainted, Arrows.mem_reach]
  -- Walking back along references is walking along them with the ends of a path exchanged.
  have same : g.usedBy.Leads = Function.swap g.Refers := by
    funext b a
    exact propext leads_usedBy
  rw [same]
  constructor
  · rintro ⟨b, hb, path⟩
    exact ⟨b, reflTransGen_swap.mp path, mem_starts.mp hb⟩
  · rintro ⟨b, path, hb⟩
    exact ⟨b, mem_starts.mpr hb, reflTransGen_swap.mpr path⟩

/-- What leads to a tainted type is tainted. -/
theorem mem_tainted_of_path {a b : TypeId} (path : ReflTransGen g.Refers a b)
    (h : b ∈ g.tainted) : a ∈ g.tainted := by
  obtain ⟨c, path', hc⟩ := mem_tainted.mp h
  exact mem_tainted.mpr ⟨c, path.trans path', hc⟩

/-! ## What classes can be made of -/

/-- What is referred to is built in or in the graph. -/
def Provides (g : TypeGraph) : TypeRef → Prop
  | .builtin _ => True
  | .node id => id ∈ g.types
  | .unresolved _ => False

/-- The graph provides all that its types refer to. -/
def Complete (g : TypeGraph) : Prop :=
  ∀ (a : TypeId) (n : TypeNode), g.types[a]? = some n → ∀ r ∈ n.references, g.Provides r

/-- In a closed graph a type without unresolved names refers to nothing that is not provided. -/
theorem Closed.provides (closed : g.Closed) {a : TypeId} {n : TypeNode}
    (hn : g.types[a]? = some n) (resolved : ¬ g.HasUnresolved a) {r : TypeRef}
    (hr : r ∈ n.references) : g.Provides r := by
  cases r with
  | builtin b => trivial
  | node b => exact closed a b ⟨n, hn, hr⟩
  | unresolved name =>
    exact resolved ⟨n, hn, List.ne_nil_of_mem (TypeNode.mem_unresolved.mpr hr)⟩

end SoapBindings.TypeGraph

/-! ## Forwards and backwards -/

namespace SoapBindings

open Relation

namespace TypeNode

variable {n : TypeNode} {r : TypeRef}

/-- The places of a node in which another type can stand. -/
inductive RefersTo : TypeNode → TypeRef → Prop
  /-- The base, be it extended or restricted. -/
  | base {n : TypeNode} {b : BaseType} : n.base = some b → RefersTo n b.type
  /-- The type of an element or attribute, held in whatever way. -/
  | member {n : TypeNode} {p : Particle} : p ∈ n.members → RefersTo n p.type
  | item {n : TypeNode} {r : TypeRef} : n.kind = .list r → RefersTo n r
  | simpleBase {n : TypeNode} {r : TypeRef} {facets : List Schema.Facet} :
    n.kind = .simple r facets → RefersTo n r
  /-- The simple type of which some texts are listed. -/
  | listed {n : TypeNode} {r : TypeRef} {values : List String} :
    n.kind = .enumeration r values → RefersTo n r
  | value {n : TypeNode} {r : TypeRef} {attributes : List Particle} {mixed anyAttribute : Bool} :
    n.kind = .complex (.value r) attributes mixed anyAttribute → RefersTo n r

/-- Needs that are not those of members come from these places. -/
theorem refersTo_of_mem_otherNeeds {need : Need} (h : (need, r) ∈ n.otherNeeds) :
    n.RefersTo r := by
  rw [otherNeeds, List.mem_append] at h
  rcases h with h | h
  · split at h
    · next type heq =>
      cases List.mem_singleton.mp h
      exact .base heq
    · cases h
  · split at h
    · next heq =>
      cases List.mem_singleton.mp h
      exact .simpleBase heq
    · next heq =>
      cases List.mem_singleton.mp h
      exact .listed heq
    · next heq =>
      cases List.mem_singleton.mp h
      exact .item heq
    · next heq =>
      cases List.mem_singleton.mp h
      exact .value heq
    · cases h

/-- The references of a node are what stands in its places, none left out. -/
theorem mem_references_iff : r ∈ n.references ↔ n.RefersTo r := by
  constructor
  · intro h
    rcases mem_references.mp h with ⟨need, hneed⟩ | ⟨p, hp, rfl⟩ | ⟨derivation, hbase⟩
    · exact refersTo_of_mem_otherNeeds hneed
    · exact .member hp
    · exact .base hbase
  · intro h
    apply mem_references.mpr
    cases h with
    | base hbase => exact Or.inr (Or.inr ⟨_, hbase⟩)
    | member hp => exact Or.inr (Or.inl ⟨_, hp, rfl⟩)
    | item hkind => exact Or.inl ⟨.item, by simp [otherNeeds, hkind]⟩
    | simpleBase hkind | listed hkind => exact Or.inl ⟨.simpleBase, by simp [otherNeeds, hkind]⟩
    | value hkind => exact Or.inl ⟨.value, by simp [otherNeeds, hkind]⟩

end TypeNode

namespace TypeGraph

variable {g : TypeGraph} {a b : TypeId}

theorem refers_iff_refersTo : g.Refers a b ↔ ∃ n, g.types[a]? = some n ∧ n.RefersTo (.node b) := by
  simp only [Refers, TypeNode.mem_references_iff]

theorem hasUnresolved_iff_refersTo : g.HasUnresolved a ↔
    ∃ n, g.types[a]? = some n ∧ ∃ name, n.RefersTo (.unresolved name) := by
  rw [HasUnresolved]
  refine exists_congr fun n => and_congr_right fun _ => ?_
  simp only [← TypeNode.mem_references_iff, ← TypeNode.mem_unresolved]
  constructor
  · exact List.exists_mem_of_ne_nil _
  · rintro ⟨name, h⟩
    exact List.ne_nil_of_mem h

/-- The search backwards and the search forwards agree. What the search forwards comes to need not
be in the graph; only types of the graph have names in them. -/
theorem mem_tainted_iff_reachable (g : TypeGraph) (a : TypeId) :
    a ∈ g.tainted ↔ ∃ b n, b ∈ g.reachable [a] ∧ g.types[b]? = some n ∧
      ∃ name, n.RefersTo (.unresolved name) := by
  have forwards (b : TypeId) : b ∈ g.reachable [a] ↔ ReflTransGen g.Refers a b := by
    rw [mem_reachable]
    constructor
    · rintro ⟨root, hroot, path⟩
      rwa [List.mem_singleton.mp hroot] at path
    · exact fun path => ⟨a, List.mem_singleton.mpr rfl, path⟩
  rw [mem_tainted]
  constructor
  · rintro ⟨b, path, hb⟩
    obtain ⟨n, hn, name, hname⟩ := hasUnresolved_iff_refersTo.mp hb
    exact ⟨b, n, (forwards b).mpr path, hn, name, hname⟩
  · rintro ⟨b, n, hb, hn, name, hname⟩
    exact ⟨b, (forwards b).mp hb, hasUnresolved_iff_refersTo.mpr ⟨n, hn, name, hname⟩⟩

/-- A set that the search backwards cannot leave. -/
structure Saturated (g : TypeGraph) (found : Set TypeId) : Prop where
  own : ∀ a, g.HasUnresolved a → a ∈ found
  back : ∀ a b, g.Refers a b → b ∈ found → a ∈ found

/-- The tainted types are the least saturated set. -/
theorem isLeast_tainted (g : TypeGraph) :
    IsLeast {found | g.Saturated found} {a | a ∈ g.tainted} := by
  constructor
  · constructor
    · intro a ha
      exact mem_tainted.mpr ⟨a, .refl, ha⟩
    · intro a b step hb
      exact mem_tainted_of_path (.single step) hb
  · intro found saturated a ha
    obtain ⟨b, path, hb⟩ := mem_tainted.mp ha
    clear ha
    -- Along the path from the type with the name back to `a`.
    induction path using ReflTransGen.head_induction_on with
    | refl => exact saturated.own b hb
    | head step _ ih => exact saturated.back _ _ step ih

end TypeGraph

end SoapBindings
