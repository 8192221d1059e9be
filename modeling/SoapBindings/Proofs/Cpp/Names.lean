import Mathlib.Data.List.Nodup
import SoapBindings.Cpp.ServiceClasses
import SoapBindings.Proofs.Cpp.Members
import SoapBindings.Proofs.Text.Numbered

/-!
# Names that are taken

A run that takes names is described by the names in the order in which they were taken (`Takes`):
they are what the scope has gained, and none of them was in it. Descriptions of runs one after the
other are put together by `Takes.append`, so what the classes of a unit are called is read off the
way in which they are made, and that they are called differently comes with it
(`nodup_names_classes`).
-/

set_option autoImplicit false

namespace SoapBindings.Cpp

theorem freeName_not_mem (taken : List String) (candidate code : String) :
    freeName taken candidate code ∉ taken := by
  unfold freeName
  split
  · next free => simpa using free
  · exact Text.unused_not_mem taken _

/-- The names were taken one after the other, each of them new. -/
structure Takes (before : Scope) (names : List String) (after : Scope) : Prop where
  names_eq : after.names = names.reverse ++ before.names
  nodup : before.names.Nodup → after.names.Nodup

variable {α β : Type} {before middle after : Scope} {names more : List String}

namespace Takes

theorem nil : Takes before [] before := ⟨rfl, id⟩

theorem append (h : Takes before names middle) (h' : Takes middle more after) :
    Takes before (names ++ more) after := by
  constructor
  · rw [h'.names_eq, h.names_eq, List.reverse_append, List.append_assoc]
  · exact fun nodup => h'.nodup (h.nodup nodup)

theorem takeName (candidate code : String) (scope : Scope) :
    Takes scope [(takeName candidate code scope).1] (takeName candidate code scope).2 := by
  refine ⟨rfl, fun nodup => List.nodup_cons.mpr ⟨?_, nodup⟩⟩
  exact freeName_not_mem scope.names _ code

theorem nodup_names (h : Takes before names after) (nodup : before.names.Nodup) :
    names.Nodup := by
  have all := h.nodup nodup
  rw [h.names_eq] at all
  exact List.nodup_reverse.mp all.of_append_left

/-- Steps that each take some names take the names of all steps. -/
theorem mapM {f : α → Naming β} {namesOf : β → List String} {as : List α}
    (each : ∀ a ∈ as, ∀ scope, Takes scope (namesOf (f a scope).1) (f a scope).2)
    (scope : Scope) :
    Takes scope ((as.mapM f scope).1.flatMap namesOf) (as.mapM f scope).2 := by
  induction as generalizing scope with
  | nil => exact .nil
  | cons a as ih =>
    rw [List.mapM_cons]
    have first := each a List.mem_cons_self scope
    have rest := ih (fun b hb => each b (List.mem_cons_of_mem _ hb)) (f a scope).2
    exact first.append rest

end Takes

/-! ## The classes of types -/

/-- The class names that are taken are those of the types, in their order. -/
theorem takes_takeClassNames {codes : NamespaceCodes} {ids : List TypeId} (nodup : ids.Nodup)
    (scope : Scope) :
    Takes scope (ids.filterMap ((takeClassNames codes ids scope).1[·]?))
      (takeClassNames codes ids scope).2 := by
  let step (names : Std.ExtTreeMap TypeId String) (id : TypeId) :
      Naming (Std.ExtTreeMap TypeId String) := do
    let name ← takeName (classCandidate id) ((codes.code? id.ns).getD "ns")
    return names.insert id name
  -- Said for any names that have been taken before, which are kept.
  have more : ∀ (table : Std.ExtTreeMap TypeId String) (scope : Scope),
      Takes scope (ids.filterMap ((ids.foldlM step table scope).1[·]?))
        (ids.foldlM step table scope).2 ∧
      ∀ id, id ∉ ids → (ids.foldlM step table scope).1[id]? = table[id]? := by
    induction ids with
    | nil => exact fun table scope => ⟨.nil, fun _ _ => rfl⟩
    | cons first ids ih =>
      intro table scope
      obtain ⟨absent, nodup⟩ := List.nodup_cons.mp nodup
      let taken := takeName (classCandidate first) ((codes.code? first.ns).getD "ns") scope
      have here : Takes scope [taken.1] taken.2 := .takeName ..
      have next : (first :: ids).foldlM step table scope =
          ids.foldlM step (table.insert first taken.1) taken.2 := rfl
      obtain ⟨takes, kept⟩ := ih nodup (table.insert first taken.1) taken.2
      rw [next]
      refine ⟨?_, fun id hid => ?_⟩
      · have found := kept first absent
        rw [Std.ExtTreeMap.getElem?_insert_self] at found
        rw [List.filterMap_cons_some found]
        exact here.append takes
      · rw [List.mem_cons, not_or] at hid
        rw [kept id hid.2, getElem?_insert_of_ne (Ne.symm hid.1)]
  exact (more ∅ scope).1

namespace ClassContext

variable {c : ClassContext}

/-- The class of a type: an enumeration, or one with the members of the type. -/
theorem typeClass?_cases {id : TypeId} {cls : Class} (h : c.typeClass? id = some cls) :
    ∃ n name, c.types[id]? = some n ∧ c.classNames[id]? = some name ∧
      ((∃ base literals, n.kind = .enumeration base literals ∧
          cls = .enumeration (c.enumerationClass id name n literals)) ∨
        ∃ kind base, objectKind? n.kind = some kind ∧
          cls = .object (c.objectClass kind base id name n) ∧
          ∀ b, base = some b → c.baseClass? n = some b) := by
  unfold typeClass? at h
  split at h
  · next n name hn hname =>
    refine ⟨n, name, hn, hname, ?_⟩
    rw [← Option.some.inj h]
    cases n.kind with
    | enumeration base literals => exact Or.inl ⟨base, literals, rfl, rfl⟩
    | complex => exact Or.inr ⟨_, c.baseClass? n, rfl, rfl, fun _ hb => hb⟩
    | simple | list => exact Or.inr ⟨_, none, rfl, rfl, nofun⟩
  · cases h

theorem name_typeClass? {id : TypeId} {cls : Class} (h : c.typeClass? id = some cls) :
    c.classNames[id]? = some cls.name := by
  obtain ⟨n, name, _, hname, ⟨_, _, _, rfl⟩ | ⟨_, _, _, rfl, _⟩⟩ := typeClass?_cases h
  · exact hname
  · exact hname

/-- Where all types are there, their classes are called as was taken for them. -/
theorem names_typeClasses {ids : List TypeId} (there : ∀ id ∈ ids, id ∈ c.types) :
    (ids.filterMap c.typeClass?).map (·.name) = ids.filterMap (c.classNames[·]?) := by
  rw [List.map_filterMap]
  refine List.filterMap_congr fun id hid => ?_
  cases hcls : c.typeClass? id with
  | some cls => rw [name_typeClass? hcls, Option.map_some]
  | none =>
    obtain ⟨n, hn⟩ := exists_getElem?_of_mem (there id hid)
    cases hname : c.classNames[id]? with
    | none => rfl
    | some name =>
      rw [typeClass?, hn, hname] at hcls
      cases hcls

/-! ## The classes of services -/

variable {all : List BoundService} {s : BoundService} {forms : ServiceForms}

theorem takes_clientClasses (scope : Scope) :
    Takes scope ((c.clientClasses forms all s scope).1.map (·.name))
      (c.clientClasses forms all s scope).2 := by
  let client := takeName (serviceCandidate all s) (c.code s.ns) scope
  have first : Takes scope [client.1] client.2 := .takeName ..
  unfold clientClasses
  by_cases jobs : forms.jobs = true
  · simp only [jobs, if_true]
    let job (op : BoundOperation) : Naming Class := do
      let job ← takeName (upperCamel op.name ++ "Job") (c.code s.ns)
      return .job (c.jobClass (c.code s.ns) client.1 s op job)
    have rest : Takes client.2
        ((s.validOperations.mapM job client.2).1.flatMap fun cls => [cls.name])
        (s.validOperations.mapM job client.2).2 :=
      .mapM (fun op _ scope => .takeName (upperCamel op.name ++ "Job") (c.code s.ns) scope) _
    rw [← List.map_eq_flatMap] at rest
    exact first.append rest
  · simp only [jobs]
    exact first

theorem takes_serviceClasses (scope : Scope) :
    Takes scope ((c.serviceClasses forms all s scope).1.map (·.name))
      (c.serviceClasses forms all s scope).2 := by
  unfold serviceClasses
  by_cases server : forms.server = true
  · simp only [server, if_true]
    exact .takeName (serviceCandidate all s ++ "ServerBase") (c.code s.ns) scope
  · simp only [server]
    exact takes_clientClasses scope

end ClassContext

/-- No two classes have one name. -/
theorem nodup_names_classes (forms : ServiceForms) {o : OrderedGraph} (services : List BoundService)
    (codes : NamespaceCodes) (nodup : o.order.Nodup)
    (there : ∀ id ∈ o.order, id ∈ o.graph.types) :
    ((classes forms o services codes).map (·.name)).Nodup := by
  let names := takeClassNames codes o.order (.reserving [])
  let c : ClassContext := ⟨o.graph.types, codes, names.1⟩
  have ofTypes : Takes (.reserving []) (o.order.filterMap (names.1[·]?)) names.2 :=
    takes_takeClassNames nodup _
  have ofServices : Takes names.2
      ((services.mapM (c.serviceClasses forms services) names.2).1.flatMap (·.map (·.name)))
      (services.mapM (c.serviceClasses forms services) names.2).2 :=
    .mapM (fun _ _ scope => ClassContext.takes_serviceClasses scope) _
  have whole := (ofTypes.append ofServices).nodup_names List.nodup_nil
  rw [← ClassContext.names_typeClasses (c := c) there, List.flatMap_def, ← List.map_flatten,
    ← List.map_append] at whole
  exact whole

end SoapBindings.Cpp
