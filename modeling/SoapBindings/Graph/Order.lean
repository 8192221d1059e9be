import SoapBindings.Graph.Cycles

/-!
# The order of types

Types are written in an order in which each stands after all that it needs complete. Among the types
that could come next the least comes first, so there is one order for each graph.
-/

set_option autoImplicit false

namespace SoapBindings

/-- A member that was made to hold its value by reference. -/
structure RewrittenMember where
  source : TypeId
  target : TypeId
  /-- The position of the member, elements before attributes. -/
  position : Nat
  deriving DecidableEq, Repr

/-- A graph without cycles of values, and an order of its types. -/
structure OrderedGraph where
  graph : TypeGraph
  order : List TypeId
  rewritten : List RewrittenMember

namespace OrderedGraph

/-- The order between types that could both come next. -/
def compareBy (key : TypeId → TypeKey) : TypeId → TypeId → Ordering :=
  compareLex (compareOn key) compare

/-- The pending types that need no pending type. -/
def ready (pending : List TypeId) (needs : List ValueNeed) : List TypeId :=
  let blocked := Std.ExtTreeSet.ofList (needs.map (·.source))
  pending.filter (!blocked.contains ·)

/-- Takes the least ready type, then the least of those that are ready after it, and so on. -/
def emission (key : TypeId → TypeKey) (pending : List TypeId) (needs : List ValueNeed) :
    List TypeId :=
  match h : leastBy (compareBy key) (ready pending needs) with
  | none => []
  | some id =>
    have : (pending.erase id).length < pending.length := by
      have member : id ∈ pending := (List.mem_filter.mp (mem_of_leastBy h)).1
      rw [List.length_erase_of_mem member]
      exact Nat.sub_one_lt (Nat.ne_of_gt (List.length_pos_of_mem member))
    id :: emission key (pending.erase id) (needs.filter (·.target != id))
termination_by pending.length

/-- Makes the members of broken needs hold their values by reference. -/
def rewrite (types : TypeTable) (members : List RewrittenMember) : TypeTable :=
  members.foldl (fun types m => types.modify m.source (·.hold m.position .byReference)) types

/-- The member behind a need. -/
def memberOf (n : ValueNeed) : Option RewrittenMember :=
  n.member.map fun position => ⟨n.source, n.target, position⟩

def ofGraph (g : TypeGraph) (codes : NamespaceCodes) : Except InheritanceCycle OrderedGraph := do
  let (left, broken) ← breakCycles codes.typeKey g.types.keys g.valueNeeds
  let rewritten := broken.filterMap memberOf
  return {
    graph := { g with types := rewrite g.types rewritten }
    order := emission codes.typeKey g.types.keys left
    rewritten := rewritten }

end OrderedGraph

end SoapBindings
