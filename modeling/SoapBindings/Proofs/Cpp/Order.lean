import Mathlib
import SoapBindings.Proofs.Cpp.Calls
import SoapBindings.Proofs.Cpp.Names
import SoapBindings.Proofs.Ordering.Linear

/-!
# The order of classes

A class can be written only where all that it needs complete has been written, and what it points to
has been declared ahead. Classes of types follow the order of their types, a member stands for a
need of its type (`exists_need_of_mem_membersOf`), and services come last; so the classes can be
written as they are listed (`classes_declaredInOrder`).
-/

set_option autoImplicit false

namespace SoapBindings.Cpp

/-- The only class with the name stands before the other class. -/
def DeclaredBefore (classes : List Class) (name : String) (d c : Class) : Prop :=
  classes.filter (·.name == name) = [d] ∧ [d, c].Sublist classes

/-- Each class stands behind those that it needs complete, and declares ahead those that it points
to. -/
structure DeclaredInOrder (classes : List Class) : Prop where
  base : ∀ c ∈ classes, ∀ name, c.base = some name → ∃ d, DeclaredBefore classes name d c
  held : ∀ c ∈ classes, ∀ m ∈ c.members, ¬ m.isShared → (∀ b, m.value.kind ≠ .builtin b) →
    ∃ d, DeclaredBefore classes m.value.text d c ∧
      (m.value.kind = .enumeration ↔ ∃ e, d = .enumeration e)
  shared : ∀ c ∈ classes, ∀ m ∈ c.members, m.isShared →
    m.value.text ∈ c.forwardDeclarations ∧ ((∀ b, m.value.kind ≠ .builtin b) →
      ∃ d, classes.filter (·.name == m.value.text) = [d])
  client : ∀ job, .job job ∈ classes →
    ∃ client, DeclaredBefore classes job.client (.client client) (.job job)

/-- A class is found by its name, where no two classes have one. -/
theorem filter_name_eq {classes : List Class} (nodup : (classes.map (·.name)).Nodup) {d : Class}
    (hd : d ∈ classes) : classes.filter (·.name == d.name) = [d] := by
  induction classes with
  | nil => cases hd
  | cons first classes ih =>
    obtain ⟨absent, nodup⟩ := List.nodup_cons.mp nodup
    rcases List.mem_cons.mp hd with rfl | hd
    · have others : classes.filter (·.name == d.name) = [] := by
        rw [List.filter_eq_nil_iff]
        intro c hc same
        exact absent (List.mem_map.mpr ⟨c, hc, beq_iff_eq.mp same⟩)
      rw [List.filter_cons_of_pos (by simp), others]
    · have other : first.name ≠ d.name := by
        intro same
        exact absent (List.mem_map.mpr ⟨d, hd, same.symm⟩)
      rw [List.filter_cons_of_neg (by simpa using other), ih nodup hd]

theorem exists_of_mem_mapM {σ α β : Type} {f : α → StateM σ β} {as : List α} {b : β} {s : σ}
    (h : b ∈ (as.mapM f s).1) : ∃ a ∈ as, ∃ s, (f a s).1 = b := by
  induction as generalizing s with
  | nil => cases h
  | cons a as ih =>
    rw [List.mapM_cons] at h
    rcases List.mem_cons.mp h with rfl | h
    · exact ⟨a, List.mem_cons_self, s, rfl⟩
    · obtain ⟨a', ha', found⟩ := ih h
      exact ⟨a', List.mem_cons_of_mem _ ha', found⟩

namespace ClassContext

variable {c : ClassContext}

/-! ## Members and needs -/

theorem value_of_member? {code : String} {p : Particle} {scope : Scope} {m : Member}
    (h : (c.member? code p scope).1 = some m) : c.valueType? p.type = some m.value ∧
      m.isShared = (p.holding == .byReference) := by
  rw [member?] at h
  cases hvalue : c.valueType? p.type with
  | none =>
    rw [hvalue] at h
    cases h
  | some value =>
    rw [hvalue] at h
    cases h
    refine ⟨rfl, ?_⟩
    show (Storage.of p.isOptional p.isRepeated (p.holding == .byReference) == .shared ||
      Storage.of p.isOptional p.isRepeated (p.holding == .byReference) == .sharedList) = _
    cases p.isOptional <;> cases p.isRepeated <;> cases (p.holding == Holding.byReference) <;> rfl

theorem value_of_mem_contentMember {code name : String} {type : TypeRef} {occurs : Schema.Occurs}
    {scope : Scope} {m : Member} (h : m ∈ (c.contentMember code name type occurs scope).1) :
    c.valueType? type = some m.value ∧ m.isShared = false := by
  obtain ⟨m', hm', rfl⟩ := List.mem_map.mp h
  exact value_of_member? (Option.mem_toList.mp hm')

theorem exists_of_mem_members {code : String} {ps : List Particle} {scope : Scope} {m : Member}
    (h : m ∈ (c.members code ps scope).1) :
    ∃ p ∈ ps, c.valueType? p.type = some m.value ∧ m.isShared = (p.holding == .byReference) := by
  obtain ⟨m?, hm?, some⟩ := List.mem_filterMap.mp h
  obtain ⟨p, hp, scope', rfl⟩ := exists_of_mem_mapM hm?
  exact ⟨p, hp, value_of_member? some⟩

/-- Behind each member is a need of the type. -/
theorem exists_need_of_mem_membersOf {code : String} {n : TypeNode} {scope : Scope} {m : Member}
    (h : m ∈ (c.membersOf code n scope).1) : ∃ need r, (need, r) ∈ n.needs ∧
      c.valueType? r = some m.value ∧ m.isShared = !need.isByValue := by
  have ofContent (need : Need) {type : TypeRef} (hneed : (need, type) ∈ n.otherNeeds)
      (byValue : need.isByValue) (found : c.valueType? type = some m.value ∧ m.isShared = false) :
      ∃ need r, (need, r) ∈ n.needs ∧ c.valueType? r = some m.value ∧
        m.isShared = !need.isByValue := by
    refine ⟨need, type, ?_, found.1, ?_⟩
    · rw [TypeNode.needs_eq]
      exact List.mem_append_left _ hneed
    · rw [found.2, byValue]
      rfl
  have ofMember {scope : Scope} (hm : m ∈ (c.members code n.members scope).1) :
      ∃ need r, (need, r) ∈ n.needs ∧ c.valueType? r = some m.value ∧
        m.isShared = !need.isByValue := by
    obtain ⟨p, hp, hvalue, shared⟩ := exists_of_mem_members hm
    obtain ⟨i, hi⟩ := List.mem_iff_getElem?.mp hp
    refine ⟨.member i p.holding, p.type, ?_, hvalue, ?_⟩
    · exact TypeNode.mem_needs_member.mpr ⟨p, hi, rfl, rfl⟩
    · rw [shared]
      cases p.holding with
      | byValue | byReference => rfl
  obtain ⟨kind, base, isAbstract, documentation, origin⟩ := n
  cases kind with
  | simple type facets =>
    exact ofContent .simpleBase (List.mem_append_right _ List.mem_cons_self) rfl
      (value_of_mem_contentMember h)
  | list item =>
    exact ofContent .item (List.mem_append_right _ List.mem_cons_self) rfl
      (value_of_mem_contentMember h)
  | enumeration type values => cases h
  | complex content attributes mixed anyAttribute =>
    cases content with
    | value type =>
      rcases List.mem_append.mp h with h | h
      · exact ofContent .value (List.mem_append_right _ List.mem_cons_self) rfl
          (value_of_mem_contentMember h)
      · exact ofMember h
    | empty | sequence _ | choice _ | all _ => exact ofMember h

/-! ## Classes of types -/

variable {id : TypeId} {cls : Class}

/-- What is said of a value of the type fits its class. -/
theorem valueType?_of_typeClass? (h : c.typeClass? id = some cls) :
    ∃ value, c.valueType? (.node id) = some value ∧ value.text = cls.name ∧
      (value.kind = .enumeration ↔ ∃ e, cls = .enumeration e) := by
  obtain ⟨⟨kind, base, isAbstract, documentation, origin⟩, name, hn, hname, found⟩ :=
    typeClass?_cases h
  rw [valueType?, hname, hn]
  rcases found with ⟨_, _, rfl, rfl⟩ | ⟨_, _, object, rfl, _⟩
  · exact ⟨_, rfl, rfl, iff_of_true rfl ⟨_, rfl⟩⟩
  · cases kind with
    | enumeration => cases object
    | complex | simple | list =>
      refine ⟨_, rfl, rfl, ?_⟩
      constructor
      · intro h
        cases h
      · rintro ⟨_, h⟩
        cases h

/-- The base of a class is that of a type that its type extends. -/
theorem exists_need_of_base {name : String} (h : c.typeClass? id = some cls)
    (hbase : cls.base = some name) : ∃ n base, c.types[id]? = some n ∧
      (.base, .node base) ∈ n.needs ∧ c.classNames[base]? = some name := by
  obtain ⟨n, _, hn, _, ⟨_, _, _, rfl⟩ | ⟨_, _, _, rfl, extended⟩⟩ := typeClass?_cases h
  · cases hbase
  · have hbase := extended name hbase
    unfold baseClass? at hbase
    split at hbase
    · next base hnode =>
      refine ⟨n, base, hn, ?_, hbase⟩
      rw [TypeNode.needs, hnode]
      exact List.mem_append_left _ (List.mem_append_left _ List.mem_cons_self)
    · cases hbase

theorem exists_need_of_mem_members {m : Member} (h : c.typeClass? id = some cls)
    (hm : m ∈ cls.members) : ∃ n need r, c.types[id]? = some n ∧ (need, r) ∈ n.needs ∧
      c.valueType? r = some m.value ∧ m.isShared = !need.isByValue := by
  obtain ⟨n, _, hn, _, ⟨_, _, _, rfl⟩ | ⟨_, _, _, rfl, _⟩⟩ := typeClass?_cases h
  · cases hm
  · obtain ⟨need, r, found⟩ := exists_need_of_mem_membersOf hm
    exact ⟨n, need, r, hn, found⟩

theorem mem_forwardDeclarations {m : Member} (h : c.typeClass? id = some cls)
    (hm : m ∈ cls.members) (shared : m.isShared) : m.value.text ∈ cls.forwardDeclarations := by
  obtain ⟨_, _, _, _, ⟨_, _, _, rfl⟩ | ⟨_, _, _, rfl, _⟩⟩ := typeClass?_cases h
  · cases hm
  · show _ ∈ ObjectClass.forwardDeclarations _
    rw [ObjectClass.forwardDeclarations, Std.ExtTreeSet.mem_toList, Std.ExtTreeSet.mem_ofList,
      List.contains_iff_mem]
    exact List.mem_map.mpr ⟨m, List.mem_filter.mpr ⟨hm, shared⟩, rfl⟩

/-! ## Classes of services -/

/-- The member of a job holds a part of a message. -/
def HoldsPart (c : ClassContext) (m : Member) : Prop :=
  m.storage = .value ∧ ∃ r, c.valueType? r = some m.value

theorem holdsPart_of_mem_jobMembers {code : String} {candidate : String → String}
    {message : Option BoundMessage} {scope : Scope} {m : Member}
    (h : m ∈ (jobMembers code candidate (c.partValues message) scope).1) : c.HoldsPart m := by
  obtain ⟨part, hpart, scope', rfl⟩ := exists_of_mem_mapM h
  obtain ⟨p, _, found⟩ := List.mem_filterMap.mp hpart
  obtain ⟨value, hvalue, rfl⟩ := Option.map_eq_some_iff.mp found
  exact ⟨rfl, p.type, hvalue⟩

theorem holdsPart_of_mem_jobClass {code client name : String} {s : BoundService}
    {op : BoundOperation} {m : Member} (h : m ∈ (c.jobClass code client s op name).members) :
    c.HoldsPart m := by
  let request := jobMembers code lowerCamel (c.partValues op.input) (memberScope jobNames name code)
  let response :=
    jobMembers code (fun part => "result" ++ upperCamel part) (c.partValues op.output) request.2
  have members : (c.jobClass code client s op name).members = request.1 ++ response.1 := rfl
  rw [members] at h
  rcases List.mem_append.mp h with h | h
  · exact holdsPart_of_mem_jobMembers h
  · exact holdsPart_of_mem_jobMembers h

/-- The classes of a service are one for servers, or a client and jobs that call through it. -/
theorem serviceClasses_cases (c : ClassContext) (forms : ServiceForms) (all : List BoundService)
    (s : BoundService) (scope : Scope) :
    (∃ server, (c.serviceClasses forms all s scope).1 = [.server server]) ∨
      ∃ client jobs, (c.serviceClasses forms all s scope).1 = .client client :: jobs ∧
        ∀ cls ∈ jobs, ∃ job, cls = .job job ∧ job.client = client.name ∧
          ∀ m ∈ job.members, c.HoldsPart m := by
  unfold serviceClasses
  by_cases server : forms.server = true
  · simp only [server, if_true]
    exact Or.inl ⟨_, rfl⟩
  · simp only [server]
    unfold clientClasses
    by_cases jobs : forms.jobs = true
    · simp only [jobs, if_true]
      refine Or.inr ⟨_, _, rfl, fun cls hcls => ?_⟩
      obtain ⟨op, _, scope', rfl⟩ := exists_of_mem_mapM hcls
      exact ⟨_, rfl, rfl, fun m hm => holdsPart_of_mem_jobClass hm⟩
    · simp only [jobs]
      exact Or.inr ⟨_, [], rfl, fun cls hcls => absurd hcls List.not_mem_nil⟩

theorem HoldsPart.not_isShared {m : Member} (h : c.HoldsPart m) : ¬ m.isShared := by
  unfold Member.isShared
  rw [h.1]
  decide

/-- No class of a service has a base, and only jobs have members. -/
theorem of_mem_serviceClasses {forms : ServiceForms} {all : List BoundService} {s : BoundService}
    {scope : Scope} (h : cls ∈ (c.serviceClasses forms all s scope).1) :
    cls.base = none ∧ ∀ m ∈ cls.members, c.HoldsPart m := by
  rcases c.serviceClasses_cases forms all s scope with ⟨server, single⟩ | ⟨client, jobs, listed, each⟩
  · rw [single, List.mem_singleton] at h
    rw [h]
    exact ⟨rfl, fun m hm => absurd hm List.not_mem_nil⟩
  · rw [listed, List.mem_cons] at h
    rcases h with rfl | h
    · exact ⟨rfl, fun m hm => absurd hm List.not_mem_nil⟩
    · obtain ⟨job, rfl, _, holds⟩ := each cls h
      exact ⟨rfl, holds⟩

end ClassContext

/-! ## All classes -/

section

open OrderedGraph

variable {g : TypeGraph} {codes codes' : NamespaceCodes} {o : OrderedGraph} {forms : ServiceForms}
  {services : List BoundService} {a b : TypeId} {c d : Class}

/-- A class is that of a type, or one of those that a service has behind all types. -/
theorem mem_classes_cases (h : c ∈ classes forms o services codes') :
    (∃ id ∈ o.order, (contextOf o codes').typeClass? id = some c) ∨
      ∃ s scope, c ∈ ((contextOf o codes').serviceClasses forms services s scope).1 ∧
        (o.order.filterMap (contextOf o codes').typeClass? ++
          ((contextOf o codes').serviceClasses forms services s scope).1).Sublist
            (classes forms o services codes') := by
  rcases List.mem_append.mp h with h | h
  · exact Or.inl (List.mem_filterMap.mp h)
  · obtain ⟨ofService, hmem, hc⟩ := List.mem_flatten.mp h
    obtain ⟨s, _, scope, rfl⟩ := exists_of_mem_mapM hmem
    refine Or.inr ⟨s, scope, hc, ?_⟩
    exact (List.Sublist.refl _).append (List.sublist_flatten_of_mem hmem)

/-- An object is of the class of a type. -/
theorem exists_objectClass {object : ObjectClass}
    (h : .object object ∈ classes forms o services codes') : ∃ kind base id name n,
      object = (contextOf o codes').objectClass kind base id name n := by
  rcases mem_classes_cases h with ⟨id, _, htype⟩ | ⟨s, scope, hservice, _⟩
  · obtain ⟨n, name, _, _, ⟨_, _, _, other⟩ | ⟨kind, base, _, same, _⟩⟩ :=
      ClassContext.typeClass?_cases htype
    · cases other
    · exact ⟨kind, base, id, name, n, Class.object.inj same⟩
  · rcases (contextOf o codes').serviceClasses_cases forms services s scope with
      ⟨server, single⟩ | ⟨client, jobs, all, each⟩
    · rw [single, List.mem_singleton] at hservice
      cases hservice
    · rw [all] at hservice
      rcases List.mem_cons.mp hservice with same | hjob
      · cases same
      · obtain ⟨_, ⟨⟩, _⟩ := each _ hjob

theorem mem_classes_of_typeClass? (hid : a ∈ o.order)
    (h : (contextOf o codes').typeClass? a = some c) : c ∈ classes forms o services codes' :=
  List.mem_append_left _ (List.mem_filterMap.mpr ⟨a, hid, h⟩)

theorem exists_typeClass? (h : ofGraph g codes = .ok o) (hid : a ∈ o.order) :
    ∃ c, (contextOf o codes').typeClass? a = some c := by
  obtain ⟨n, hn⟩ := exists_getElem?_of_mem ((mem_order h).mp hid)
  obtain ⟨name, hname⟩ := exists_getElem?_of_mem (mem_classNames.mpr hid)
  rw [ClassContext.typeClass?, hname, show (contextOf o codes').types[a]? = some n from hn]
  exact ⟨_, rfl⟩

/-- A value that is not of a built-in type is one of a class. -/
theorem exists_class_of_value (h : ofGraph g codes = .ok o) {r : TypeRef} {value : ValueType}
    (hvalue : (contextOf o codes').valueType? r = some value)
    (generated : ∀ b, value.kind ≠ .builtin b) : ∃ id d, r = .node id ∧ id ∈ o.order ∧
      (contextOf o codes').typeClass? id = some d ∧ d.name = value.text ∧
      (value.kind = .enumeration ↔ ∃ e, d = .enumeration e) := by
  cases r with
  | builtin b =>
    cases hvalue
    exact absurd rfl (generated b)
  | unresolved name => cases hvalue
  | node id =>
    obtain ⟨name, hname, _⟩ := Option.map_eq_some_iff.mp hvalue
    have hid := mem_classNames.mp (mem_of_getElem? hname)
    obtain ⟨d, hd⟩ : ∃ d, (contextOf o codes').typeClass? id = some d := exists_typeClass? h hid
    obtain ⟨value', hvalue', text, kind⟩ := ClassContext.valueType?_of_typeClass? hd
    rw [hvalue] at hvalue'
    cases hvalue'
    exact ⟨id, d, rfl, hid, hd, text.symm, kind⟩

theorem nodup_names (h : ofGraph g codes = .ok o) (forms : ServiceForms)
    (services : List BoundService) (codes' : NamespaceCodes) :
    ((classes forms o services codes').map (·.name)).Nodup :=
  nodup_names_classes forms services codes' ((order_perm h).nodup_iff.mpr (nodup_keys g.types))
    fun _ => (mem_order h).mp

/-- What a type needs complete has its class before. -/
theorem declaredBefore_of_needs (h : ofGraph g codes = .ok o) {n : TypeNode} {need : Need}
    (hn : o.graph.types[a]? = some n) (hneed : (need, .node b) ∈ n.needs)
    (byValue : need.isByValue) (hb : b ∈ o.order)
    (hc : (contextOf o codes').typeClass? a = some c)
    (hd : (contextOf o codes').typeClass? b = some d) :
    DeclaredBefore (classes forms o services codes') d.name d c := by
  refine ⟨filter_name_eq (nodup_names h ..) (mem_classes_of_typeClass? hb hd), ?_⟩
  have before : [b, a].Sublist o.order :=
    before_of_needsComplete h ⟨(mem_order h).mp hb, n, need, hn, hneed, byValue⟩
  have classes := before.filterMap (contextOf o codes').typeClass?
  rw [List.filterMap_cons_some hd, List.filterMap_cons_some hc, List.filterMap_nil] at classes
  exact classes.trans (List.sublist_append_left ..)

theorem base_declaredBefore (h : ofGraph g codes = .ok o) (hc : c ∈ classes forms o services codes')
    {name : String} (hname : c.base = some name) :
    ∃ d, DeclaredBefore (classes forms o services codes') name d c := by
  rcases mem_classes_cases hc with ⟨id, _, htype⟩ | ⟨s, scope, hservice, _⟩
  · obtain ⟨n, base, hn, hneed, hbase⟩ := ClassContext.exists_need_of_base htype hname
    have hid := mem_classNames.mp (mem_of_getElem? hbase)
    obtain ⟨d, hd⟩ : ∃ d, (contextOf o codes').typeClass? base = some d := exists_typeClass? h hid
    have called := ClassContext.name_typeClass? hd
    rw [hbase] at called
    rw [Option.some.inj called]
    exact ⟨d, declaredBefore_of_needs h hn hneed rfl hid htype hd⟩
  · rw [(ClassContext.of_mem_serviceClasses hservice).1] at hname
    cases hname

theorem held_declaredBefore (h : ofGraph g codes = .ok o)
    (hc : c ∈ classes forms o services codes') {m : Member} (hm : m ∈ c.members)
    (held : ¬ m.isShared) (generated : ∀ b, m.value.kind ≠ .builtin b) :
    ∃ d, DeclaredBefore (classes forms o services codes') m.value.text d c ∧
      (m.value.kind = .enumeration ↔ ∃ e, d = .enumeration e) := by
  rcases mem_classes_cases hc with ⟨id, _, htype⟩ | ⟨s, scope, hservice, listed⟩
  · obtain ⟨n, need, r, hn, hneed, hvalue, shared⟩ :=
      ClassContext.exists_need_of_mem_members htype hm
    obtain ⟨target, d, rfl, htarget, hd, text, kind⟩ := exists_class_of_value h hvalue generated
    have byValue : need.isByValue := by
      rw [shared] at held
      simpa using held
    exact ⟨d, text ▸ declaredBefore_of_needs h hn hneed byValue htarget htype hd, kind⟩
  · -- Jobs come behind all classes of types.
    obtain ⟨_, r, hvalue⟩ := (ClassContext.of_mem_serviceClasses hservice).2 m hm
    obtain ⟨target, d, _, htarget, hd, text, kind⟩ := exists_class_of_value h hvalue generated
    have before : [d, c].Sublist (classes forms o services codes') := by
      refine List.Sublist.trans ?_ listed
      have hd := List.mem_filterMap.mpr ⟨target, htarget, hd⟩
      exact (List.singleton_sublist.mpr hd).append (List.singleton_sublist.mpr hservice)
    have unique := filter_name_eq (nodup_names h ..) (before.subset List.mem_cons_self)
    exact ⟨d, text ▸ ⟨unique, before⟩, kind⟩

theorem shared_declared (h : ofGraph g codes = .ok o) (hc : c ∈ classes forms o services codes')
    {m : Member} (hm : m ∈ c.members) (shared : m.isShared) :
    m.value.text ∈ c.forwardDeclarations ∧ ((∀ b, m.value.kind ≠ .builtin b) →
      ∃ d, (classes forms o services codes').filter (·.name == m.value.text) = [d]) := by
  rcases mem_classes_cases hc with ⟨id, _, htype⟩ | ⟨s, scope, hservice, _⟩
  · refine ⟨ClassContext.mem_forwardDeclarations htype hm shared, fun generated => ?_⟩
    obtain ⟨n, need, r, _, _, hvalue, _⟩ := ClassContext.exists_need_of_mem_members htype hm
    obtain ⟨target, d, _, htarget, hd, text, _⟩ := exists_class_of_value h hvalue generated
    rw [← text]
    exact ⟨d, filter_name_eq (nodup_names h ..) (mem_classes_of_typeClass? htarget hd)⟩
  · exact absurd shared ((ClassContext.of_mem_serviceClasses hservice).2 m hm).not_isShared

/-- A pointer to a built-in type was one before the graph was ordered. -/
theorem exists_pointer (h : ofGraph g codes = .ok o) (hc : c ∈ classes forms o services codes')
    {m : Member} (hm : m ∈ c.members) (shared : m.isShared) {builtin : Builtin}
    (kind : m.value.kind = .builtin builtin) : ∃ (id : TypeId) (n : TypeNode),
      g.types[id]? = some n ∧ ∃ p ∈ n.members, p.holding = .byReference ∧ p.type = .builtin builtin := by
  rcases mem_classes_cases hc with ⟨id, _, htype⟩ | ⟨s, scope, hservice, _⟩
  · obtain ⟨rewritten, need, r, hrewritten, hneed, hvalue, same⟩ :=
      ClassContext.exists_need_of_mem_members htype hm
    obtain rfl : r = .builtin builtin := by
      cases r with
      | builtin b =>
        rw [← Option.some.inj hvalue] at kind
        exact congrArg _ (ValueKind.builtin.inj kind)
      | unresolved name => cases hvalue
      | node id =>
        obtain ⟨name, _, found⟩ := Option.map_eq_some_iff.mp hvalue
        split at found
        · rw [← found] at kind
          cases kind
        · rw [← found] at kind
          cases kind
    cases need with
    | member position holding =>
      obtain ⟨p, hp, rfl, type⟩ := TypeNode.mem_needs_member.mp hneed
      have byReference : p.holding = .byReference := by
        rw [shared] at same
        cases hp : p.holding with
        | byReference => rfl
        | byValue =>
          rw [hp] at same
          cases same
      rcases node_of_byReference h hrewritten (List.mem_of_getElem? hp) byReference with
        ⟨target, node⟩ | ⟨n, hn, hp⟩
      · rw [type] at node
        cases node
      · exact ⟨id, n, hn, p, hp, byReference, type⟩
    | base | item | simpleBase | value =>
      rw [shared] at same
      cases same
  · exact absurd shared ((ClassContext.of_mem_serviceClasses hservice).2 m hm).not_isShared

theorem client_declaredBefore (h : ofGraph g codes = .ok o) {job : JobClass}
    (hc : .job job ∈ classes forms o services codes') : ∃ client,
      DeclaredBefore (classes forms o services codes') job.client (.client client) (.job job) := by
  rcases mem_classes_cases hc with ⟨id, _, htype⟩ | ⟨s, scope, hservice, listed⟩
  · obtain ⟨_, _, _, _, ⟨_, _, _, other⟩ | ⟨_, _, _, other, _⟩⟩ :=
      ClassContext.typeClass?_cases htype
    · cases other
    · cases other
  · have listed := (List.sublist_append_right ..).trans listed
    rcases (contextOf o codes').serviceClasses_cases forms services s scope with
      ⟨server, single⟩ | ⟨client, jobs, all, each⟩
    · rw [single, List.mem_singleton] at hservice
      cases hservice
    · rw [all] at hservice listed
      rcases List.mem_cons.mp hservice with same | hjob
      · cases same
      · obtain ⟨_, ⟨⟩, called, _⟩ := each _ hjob
        have before := ((List.singleton_sublist.mpr hjob).cons_cons (.client client)).trans listed
        have unique := filter_name_eq (nodup_names h ..) (before.subset List.mem_cons_self)
        exact ⟨client, called ▸ ⟨unique, before⟩⟩

theorem declaredInOrder_classes (h : ofGraph g codes = .ok o) (forms : ServiceForms)
    (services : List BoundService) (codes' : NamespaceCodes) :
    DeclaredInOrder (classes forms o services codes') := by
  constructor
  · exact fun c hc name hname => base_declaredBefore h hc hname
  · exact fun c hc m hm held generated => held_declaredBefore h hc hm held generated
  · exact fun c hc m hm shared => shared_declared h hc hm shared
  · exact fun job hjob => client_declaredBefore h hjob

end

end SoapBindings.Cpp
