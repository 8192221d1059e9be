import SoapBindings.Graph.Building
import SoapBindings.NamespaceCodes
import SoapBindings.Walk

/-!
# Cycles of values

A type that holds another one by value needs it complete, so such needs must not form a cycle. In
each strongly connected component of the needs one member is made to hold its value by reference,
and this is repeated until no cycle is left. The member is the least one: components are told apart
by mutual reachability, and members ordered by the codes and names of their owner and of their
type. A cycle without a member, say of a list whose items are that list, cannot be broken.

Only the needs count for this, not the nodes: a broken member is a need that is gone, so each round
works on fewer needs than the one before.
-/

set_option autoImplicit false

namespace SoapBindings

/-- The least of a list, and of several the first. -/
def leastBy {α : Type} (cmp : α → α → Ordering) : List α → Option α
  | [] => none
  | a :: as =>
    match leastBy cmp as with
    | none => some a
    | some b => if cmp b a = .lt then some b else some a

theorem mem_of_leastBy {α : Type} {cmp : α → α → Ordering} {as : List α} {least : α}
    (h : leastBy cmp as = some least) : least ∈ as := by
  induction as generalizing least with
  | nil => simp [leastBy] at h
  | cons a as ih =>
    rw [leastBy] at h
    split at h
    · simp_all
    · next b hb =>
      split at h
      · simp_all
      · simp_all

/-- What types are ordered by: the code of the namespace, or the namespace if it has none, and the
name. -/
structure TypeKey where
  code : String
  name : String
  deriving DecidableEq, Repr

instance : Ord TypeKey where
  compare := compareLex (compareOn TypeKey.code) (compareOn TypeKey.name)

def NamespaceCodes.typeKey (codes : NamespaceCodes) (id : TypeId) : TypeKey :=
  ⟨(codes.code? id.ns).getD id.ns, id.qname.localName⟩

/-- The type `source` needs `target` complete. -/
structure ValueNeed where
  source : TypeId
  target : TypeId
  /-- The position of the member that holds the value; what is no member cannot be changed. -/
  member : Option Nat
  deriving DecidableEq, Repr

namespace ValueNeed

/-- The order in which members are preferred when a cycle is broken. -/
def compareBy (key : TypeId → TypeKey) : ValueNeed → ValueNeed → Ordering :=
  compareLex (compareOn (key ·.source))
    (compareLex (compareOn (key ·.target)) (compareOn (·.member.getD 0)))

end ValueNeed

/-- What needs to be complete for a type, among the types of a graph. -/
def TypeGraph.valueNeedsOf (g : TypeGraph) (id : TypeId) (n : TypeNode) : List ValueNeed :=
  n.needs.filterMap fun (need, type) =>
    match type.node? with
    | none => none
    | some target =>
      if !g.types.contains target then none
      else
        match need with
        | .member _ .byReference => none
        | .member position .byValue => some ⟨id, target, some position⟩
        | _ => some ⟨id, target, none⟩

def TypeGraph.valueNeeds (g : TypeGraph) : List ValueNeed :=
  g.types.toList.flatMap fun (id, n) => g.valueNeedsOf id n

/-- The arrows from the nodes to what they need. -/
def arrowsOf (nodes : List TypeId) (needs : List ValueNeed) : Arrows TypeId :=
  needs.foldr (fun need arrows =>
    arrows.insert need.source (need.target :: arrows.getD need.source []))
    (Std.ExtTreeMap.ofList (nodes.map (·, [])))

namespace Arrows

/-- Takes the nodes joined with one out of a list. -/
def apart (joined : TypeId → TypeId → Bool) (a : TypeId) (as : List TypeId) : List TypeId :=
  as.filter (!joined a ·)

/-- Puts joined nodes together, each group where its first node stands. -/
def gather (joined : TypeId → TypeId → Bool) : List TypeId → List (List TypeId)
  | [] => []
  | a :: as => (a :: as.filter (joined a)) :: gather joined (apart joined a as)
termination_by as => as.length
decreasing_by exact Nat.lt_succ_of_le (List.length_filter_le ..)

/-- The strongly connected components. A component stands where a depth-first walk leaves the last
of its nodes. -/
def components (arrows : Arrows TypeId) : List (List TypeId) :=
  let reached : Std.ExtTreeMap TypeId (Std.ExtTreeSet TypeId) :=
    arrows.map fun a _ => arrows.reach [a]
  let leads (a b : TypeId) : Bool := (reached.getD a ∅).contains b
  (gather (fun a b => leads a b && leads b a) arrows.leavingOrder.reverse).reverse

end Arrows

/-- The component has a cycle: it has two nodes, or one that needs itself. -/
def isCyclic (needs : List ValueNeed) : List TypeId → Bool
  | [] => false
  | [a] => needs.any fun n => n.source == a && n.target == a
  | _ => true

/-- The components with a cycle. -/
def cyclicComponents (nodes : List TypeId) (needs : List ValueNeed) : List (List TypeId) :=
  ((arrowsOf nodes needs).components).filter (isCyclic needs)

/-- The member to change in a component: the least within it. -/
def weakest (key : TypeId → TypeKey) (needs : List ValueNeed) (component : List TypeId) :
    Option ValueNeed :=
  leastBy (ValueNeed.compareBy key) (needs.filter fun n =>
    n.member.isSome && component.contains n.source && component.contains n.target)

theorem mem_of_weakest {key : TypeId → TypeKey} {needs : List ValueNeed} {component : List TypeId}
    {need : ValueNeed} (h : weakest key needs component = some need) : need ∈ needs :=
  (List.mem_filter.mp (mem_of_leastBy h)).1

/-- The needs that are left when some are broken. -/
def unbroken (needs broken : List ValueNeed) : List ValueNeed := needs.filter (!broken.contains ·)

theorem length_unbroken_lt {needs broken : List ValueNeed} {need : ValueNeed} (h : need ∈ needs)
    (hb : need ∈ broken) : (unbroken needs broken).length < needs.length :=
  List.length_filter_lt_length_iff_exists.mpr ⟨need, h, by simpa using hb⟩

/-- Breaks cycles until there is none. Gives the needs that are left, and those that were broken in
their order. -/
def breakCycles (key : TypeId → TypeKey) (nodes : List TypeId) (needs : List ValueNeed) :
    Except InheritanceCycle (List ValueNeed × List ValueNeed) :=
  let components := cyclicComponents nodes needs
  match components.find? fun c => (weakest key needs c).isNone with
  | some stuck => .error ⟨(Std.ExtTreeSet.ofList stuck).toList⟩
  | none =>
    match h : components.filterMap (weakest key needs) with
    | [] => .ok (needs, [])
    | first :: more =>
      have : (unbroken needs (first :: more)).length < needs.length := by
        obtain ⟨c, _, hc⟩ := List.mem_filterMap.mp (h ▸ List.mem_cons_self : first ∈ _)
        exact length_unbroken_lt (mem_of_weakest hc) List.mem_cons_self
      match breakCycles key nodes (unbroken needs (first :: more)) with
      | .error cycle => .error cycle
      | .ok (left, later) => .ok (left, first :: more ++ later)
termination_by needs.length

end SoapBindings
