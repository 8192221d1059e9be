import Mathlib
import SoapBindings.Proofs.Cpp.Fields
import SoapBindings.Proofs.Cpp.ReadingBack

/-!
# What reading leaves of an earlier value

The lines of `deserialize` are the text of a few statements (`deserializeDefinition_eq`), and what
these do to the fields of an object is a sequence of writes that the message value alone decides.
Whatever a field held before is gone exactly where one of the writes to it resets it
(`foldl_apply_eq_iff`). Lists are emptied before anything is read, and the text of an element is
always read; any other field is written only if the branch of its member is taken. So an optional
member that a message does not have keeps what an earlier message had (`not_agree_note`).
-/

set_option autoImplicit false

namespace SoapBindings.Cpp

open Relation Text

/-! ## Fields -/

/-- What a statement does to what a field holds. A pointer holds what it points to. -/
inductive Change (Item : Type) where
  | clear
  | put (item : Item)
  | add (item : Item)

/-- A field of an object, which may be one of a class that the class of the object derives from. -/
structure Field where
  owner : String
  name : String
  deriving DecidableEq

structure Write (Item : Type) where
  field : Field
  change : Change Item

/-- What the fields of an object hold. -/
abbrev Memory (Item : Type) := Field → List Item

section

variable {Item : Type}

namespace Change

def apply (held : List Item) : Change Item → List Item
  | clear => []
  | put item => [item]
  | add item => held ++ [item]

/-- What was held before does not matter any more. -/
def Resets : Change Item → Prop
  | clear | put _ => True
  | add _ => False

/-- Changes leave the same of different contents if one of them resets the field. -/
theorem foldl_apply_eq_iff (changes : List (Change Item)) (held other : List Item) :
    changes.foldl apply held = changes.foldl apply other ↔
      (∃ change ∈ changes, change.Resets) ∨ held = other := by
  induction changes generalizing held other with
  | nil => simp
  | cons change changes ih =>
    rw [List.foldl_cons, List.foldl_cons, ih, List.exists_mem_cons_iff, or_assoc]
    cases change with
    | clear => simp [apply, Resets]
    | put item => simp [apply, Resets]
    | add item =>
      have same : apply held (.add item) = apply other (.add item) ↔ held = other :=
        List.append_left_inj [item]
      rw [same]
      simp [Resets]

end Change

/-- Only the field that is written changes. -/
def Write.apply (memory : Memory Item) (w : Write Item) : Memory Item :=
  Function.update memory w.field (w.change.apply (memory w.field))

/-- A field sees the writes to it and no others. -/
theorem foldl_apply_at (writes : List (Write Item)) (memory : Memory Item) (f : Field) :
    writes.foldl Write.apply memory f =
      ((writes.filter (·.field = f)).map (·.change)).foldl Change.apply (memory f) := by
  induction writes generalizing memory with
  | nil => rfl
  | cons w writes ih =>
    rw [List.foldl_cons, ih]
    by_cases here : w.field = f
    · rw [List.filter_cons_of_pos (by simpa using here), List.map_cons, List.foldl_cons, ← here,
        Write.apply, Function.update_self]
    · rw [List.filter_cons_of_neg (by simpa using here), Write.apply,
        Function.update_of_ne (Ne.symm here)]

theorem foldl_apply_eq_iff (writes : List (Write Item)) (before other : Memory Item) (f : Field) :
    writes.foldl Write.apply before f = writes.foldl Write.apply other f ↔
      (∃ w ∈ writes, w.field = f ∧ w.change.Resets) ∨ before f = other f := by
  rw [foldl_apply_at, foldl_apply_at, Change.foldl_apply_eq_iff]
  simp [and_assoc]

end

/-! ## Message values -/

/-- The value of an element or attribute. Which member takes it is asked of the name alone. -/
structure MessageValue where
  name : String
  ns : Option String
  text : String
  attributes : List MessageValue
  children : List MessageValue

namespace MessageValue

/-- The values of the entries of the text, which stand between spaces. -/
def entries (v : MessageValue) : List MessageValue :=
  (wordsBetween (· == ' ') v.text.toList).map fun entry => ⟨"", none, String.ofList entry, [], []⟩

/-- The values among which members of the role are looked for. -/
def among (v : MessageValue) : MemberRole → List MessageValue
  | .attr => v.attributes
  | _ => v.children

end MessageValue

/-! ## Statements -/

/-- A statement of `deserialize`. -/
inductive Statement where
  | clear (m : Member)
  /-- The text of the value is cut into entries. -/
  | cut
  | readEntries (m : Member)
  | readText (m : Member)
  /-- A member is read from each value that takes its branch. -/
  | readEach (role : MemberRole) (ms : List Member)

namespace Statement

def text (style : OptionalStyle) : Statement → List String
  | clear m => [s!"{m.field}.clear();"]
  | cut => ["const QStringList entries = mainValue.value().toString()" ++
      ".split(QLatin1Char(' '), Qt::SkipEmptyParts);"]
  | readEntries m => forEach "const QString& entry" "entries"
      (m.value.readItem "KDSoapValue(QString(), entry)" ++ [s!"{m.field}.append(item);"])
  | readText m => braces (m.value.readItem "mainValue" ++ [s!"{m.field} = item;"])
  | readEach role ms => readingLoop style role.source ms

end Statement

/-- The member whose branch a value takes. -/
def takenMember? (style : OptionalStyle) (ms : List Member) (v : MessageValue) : Option Member :=
  (branchTaken? v.name.toList (branches style ms)).bind (ms[·]?)

def Store.change {Item : Type} (store : Store) (item : Item) : Change Item :=
  match store with
  | .assign | .renew | .share => .put item
  | .append | .appendShared => .add item

namespace ObjectClass

def contentStatements (c : ObjectClass) : List Statement :=
  match c.content? with
  | none => []
  | some m => if m.storage == .list then [.cut, .clear m, .readEntries m] else [.readText m]

def memberStatements (role : MemberRole) (ms : List Member) : List Statement :=
  if ms.isEmpty then [] else (ms.filter (·.isList)).map .clear ++ [.readEach role ms]

/-- The statements that read the fields of the class itself. -/
def statements (c : ObjectClass) : List Statement :=
  c.contentStatements ++ memberStatements .element (c.inRole .element) ++
    memberStatements .attr (c.inRole .attr)

/-- The class lets the class that it derives from read its fields, and then has statements for its
own. -/
theorem deserializeDefinition_eq (style : OptionalStyle) (c : ObjectClass) :
    c.deserializeDefinition style =
      definition s!"void {c.name}::deserialize(const KDSoapValue& mainValue)"
        (c.base.toList.map (fun base => s!"{base}::deserialize(mainValue);") ++
          c.statements.flatMap (·.text style)) := by
  have content : c.readContent = c.contentStatements.flatMap (·.text style) := by
    rw [readContent, contentStatements]
    cases c.content? with
    | none => rfl
    | some m =>
      simp only
      split
      · simp [Statement.text]
      · simp [Statement.text]
  have members (role : MemberRole) (ms : List Member) : readMembers style role.source ms =
      (memberStatements role ms).flatMap (·.text style) := by
    rw [readMembers, memberStatements]
    split
    · rfl
    · rw [List.flatMap_append, List.flatMap_map, List.flatMap_singleton]
      exact congrArg (· ++ _) (List.map_eq_flatMap ..)
  have elements := members .element (c.inRole .element)
  have attributes := members .attr (c.inRole .attr)
  rw [deserializeDefinition, statements, List.flatMap_append, List.flatMap_append, ← content,
    ← elements, ← attributes, ← List.append_assoc, ← List.append_assoc]
  rfl

end ObjectClass

/-! ## What statements write -/

section

variable {Item : Type} (read : ValueType → MessageValue → Item) (style : OptionalStyle)

/-- What the statement writes to the fields of a class. Each item is a new one, so what it has `read`
from its value does not depend on any field. -/
def Statement.writes (owner : String) (v : MessageValue) : Statement → List (Write Item)
  | clear m => [⟨⟨owner, m.field⟩, .clear⟩]
  | cut => []
  | readEntries m => v.entries.map fun entry => ⟨⟨owner, m.field⟩, .add (read m.value entry)⟩
  | readText m => [⟨⟨owner, m.field⟩, .put (read m.value v)⟩]
  | readEach role ms => (v.among role).filterMap fun val =>
      (takenMember? style ms val).map fun m =>
        ⟨⟨owner, m.field⟩, (m.store style).change (read m.value val)⟩

def ObjectClass.writes (c : ObjectClass) (v : MessageValue) : List (Write Item) :=
  c.statements.flatMap (·.writes read style c.name v)

/-- What the `deserialize` of a class writes. The last class stands first, so what it derives from
is looked for in the rest. -/
def writesOf : List Class → String → MessageValue → List (Write Item)
  | [], _, _ => []
  | .object c :: earlier, name, v =>
    if c.name = name then
      c.base.toList.flatMap (writesOf earlier · v) ++ c.writes read style v
    else writesOf earlier name v
  | _ :: earlier, name, v => writesOf earlier name v

/-- What the fields of an object hold when its class has read a value. -/
def deserialize (classes : List Class) (name : String) (v : MessageValue) (memory : Memory Item) :
    Memory Item :=
  (writesOf read style classes.reverse name v).foldl Write.apply memory

end

/-! ## Fields that are overwritten -/

/-- Reading the value leaves nothing of what the field of the member held. -/
def ObjectClass.Overwrites (style : OptionalStyle) (c : ObjectClass) (v : MessageValue)
    (m : Member) : Prop :=
  m.isList ∨ m.role = .content ∨
    ∃ val ∈ v.among m.role, takenMember? style (c.inRole m.role) val = some m

theorem mem_of_takenMember? {style : OptionalStyle} {ms : List Member} {v : MessageValue}
    {m : Member} (h : takenMember? style ms v = some m) : m ∈ ms := by
  obtain ⟨i, _, hi⟩ := Option.bind_eq_some_iff.mp h
  exact List.mem_of_getElem? hi

/-- Of the members of a name the first is read. -/
theorem takenMember?_eq (style : OptionalStyle) {ms : List Member}
    (plain : ∀ m ∈ ms, IsPlain m.xml.name) (v : MessageValue) :
    takenMember? style ms v = ms.find? (·.xml.name = v.name) := by
  rw [takenMember?, branches, branchTaken?_choose plain, List.find?_eq_bind_findIdx?_getElem?]
  simp only [String.toList_inj]

namespace ObjectClass

variable {Item : Type} {read : ValueType → MessageValue → Item} {style : OptionalStyle}
  {c : ObjectClass} {v : MessageValue} {m : Member}

/-- What is read or emptied by a statement of the class. -/
def HasStatement (c : ObjectClass) : Statement → Prop
  | .clear m => m ∈ c.members ∧ (m.isList ∨ m.role = .content)
  | .readText m => m ∈ c.members ∧ m.role = .content
  | .readEach role ms => ms = c.inRole role
  | .cut | .readEntries _ => True

theorem hasStatement_of_mem_contentStatements {s : Statement} (h : s ∈ c.contentStatements) :
    c.HasStatement s := by
  rw [contentStatements] at h
  cases content : c.content? with
  | none =>
    rw [content] at h
    cases h
  | some m =>
    have mem : m ∈ c.members := List.mem_of_find?_eq_some content
    have role : m.role = .content := by simpa using List.find?_some content
    rw [content] at h
    simp only at h
    split at h
    · simp only [List.mem_cons, List.not_mem_nil, or_false] at h
      rcases h with rfl | rfl | rfl
      · exact trivial
      · exact ⟨mem, Or.inr role⟩
      · exact trivial
    · rw [List.mem_singleton.mp h]
      exact ⟨mem, role⟩

theorem mem_memberStatements {role : MemberRole} {ms : List Member} {s : Statement} :
    s ∈ memberStatements role ms ↔
      (∃ m ∈ ms, m.isList ∧ s = .clear m) ∨ (ms ≠ [] ∧ s = .readEach role ms) := by
  rw [memberStatements]
  cases ms with
  | nil => simp
  | cons first rest =>
    rw [List.isEmpty_cons, if_neg Bool.false_ne_true, List.mem_append, List.mem_singleton,
      List.mem_map]
    simp [and_assoc, eq_comm (a := s)]

theorem hasStatement_of_mem_statements {s : Statement} (h : s ∈ c.statements) :
    c.HasStatement s := by
  have members (role : MemberRole) (h : s ∈ memberStatements role (c.inRole role)) :
      c.HasStatement s := by
    rcases mem_memberStatements.mp h with ⟨m, hm, list, rfl⟩ | ⟨_, rfl⟩
    · exact ⟨(mem_inRole.mp hm).1, Or.inl list⟩
    · exact rfl
  rw [statements, List.mem_append, List.mem_append] at h
  rcases h with (h | h) | h
  · exact hasStatement_of_mem_contentStatements h
  · exact members _ h
  · exact members _ h

theorem mem_statements_of_mem_memberStatements {role : MemberRole} (hrole : role ≠ .content)
    {s : Statement} (h : s ∈ memberStatements role (c.inRole role)) : s ∈ c.statements := by
  rw [statements, List.mem_append, List.mem_append]
  cases role with
  | content => exact absurd rfl hrole
  | element => exact Or.inl (Or.inr h)
  | attr => exact Or.inr h

theorem change_resets (style : OptionalStyle) (item : Item) (single : ¬ m.isList) :
    ((m.store style).change item).Resets := by
  unfold Member.store
  rw [Member.isList] at single
  cases storage : m.storage with
  | value | shared => exact trivial
  | optional =>
    simp only
    split
    · exact trivial
    · exact trivial
  | list | sharedList => simp [storage] at single

variable (fields : (c.members.map (·.field)).Nodup)
  (only : ∀ m ∈ c.members, m.role = .content → c.content? = some m) (hm : m ∈ c.members)

include fields hm in
theorem overwrites_of_reset {w : Write Item} (hw : w ∈ c.writes read style v)
    (field : w.field = ⟨c.name, m.field⟩) (resets : w.change.Resets) : c.Overwrites style v m := by
  have same {m' : Member} (hm' : m' ∈ c.members)
      (h : (⟨c.name, m'.field⟩ : Field) = ⟨c.name, m.field⟩) : m' = m :=
    List.inj_on_of_nodup_map fields hm' hm (Field.mk.inj h).2
  obtain ⟨s, hs, hw⟩ := List.mem_flatMap.mp hw
  have has := hasStatement_of_mem_statements hs
  cases s with
  | clear m' =>
    rw [List.mem_singleton.mp hw] at field
    obtain rfl := same has.1 field
    exact has.2.imp_right Or.inl
  | cut => cases hw
  | readEntries m' =>
    obtain ⟨entry, _, rfl⟩ := List.mem_map.mp hw
    exact resets.elim
  | readText m' =>
    rw [List.mem_singleton.mp hw] at field
    obtain rfl := same has.1 field
    exact Or.inr (Or.inl has.2)
  | readEach role ms =>
    obtain rfl : ms = c.inRole role := has
    obtain ⟨val, hval, taken⟩ := List.mem_filterMap.mp hw
    obtain ⟨m', htaken, rfl⟩ := Option.map_eq_some_iff.mp taken
    obtain ⟨mem, rfl⟩ := mem_inRole.mp (mem_of_takenMember? htaken)
    obtain rfl := same mem field
    exact Or.inr (Or.inr ⟨val, hval, htaken⟩)

/-- A statement of the class that resets a field does so whenever the class reads a value. -/
theorem exists_reset_of_statement {s : Statement} (hs : s ∈ c.statements) {change : Change Item}
    (hw : ⟨⟨c.name, m.field⟩, change⟩ ∈ s.writes read style c.name v) (resets : change.Resets) :
    ∃ w ∈ c.writes read style v, w.field = ⟨c.name, m.field⟩ ∧ w.change.Resets :=
  ⟨_, List.mem_flatMap.mpr ⟨s, hs, hw⟩, rfl, resets⟩

include only hm in
theorem exists_reset_of_overwrites (h : c.Overwrites style v m) :
    ∃ w ∈ c.writes read style v, w.field = ⟨c.name, m.field⟩ ∧ w.change.Resets := by
  by_cases role : m.role = .content
  · -- The text is read, or its entries behind a list that is empty.
    have content := only m hm role
    by_cases list : m.storage == .list
    · have statement : .clear m ∈ c.statements := by
        simp [statements, contentStatements, content, list]
      exact exists_reset_of_statement statement (List.mem_singleton_self _) trivial
    · have statement : .readText m ∈ c.statements := by
        simp [statements, contentStatements, content, list]
      exact exists_reset_of_statement statement (List.mem_singleton_self _) trivial
  · have mem : m ∈ c.inRole m.role := mem_inRole.mpr ⟨hm, rfl⟩
    by_cases list : m.isList
    · have statement : .clear m ∈ c.statements := by
        apply mem_statements_of_mem_memberStatements role
        exact mem_memberStatements.mpr (Or.inl ⟨m, mem, list, rfl⟩)
      exact exists_reset_of_statement statement (List.mem_singleton_self _) trivial
    · have statement : .readEach m.role (c.inRole m.role) ∈ c.statements := by
        apply mem_statements_of_mem_memberStatements role
        exact mem_memberStatements.mpr (Or.inr ⟨List.ne_nil_of_mem mem, rfl⟩)
      obtain ⟨val, hval, taken⟩ := (h.resolve_left list).resolve_left role
      refine exists_reset_of_statement statement ?_ (change_resets style (read m.value val) list)
      exact List.mem_filterMap.mpr ⟨val, hval, by rw [taken]; rfl⟩

end ObjectClass

/-! ## Classes and what they derive from -/

/-- The class derives from the other one. -/
def DerivesFrom (classes : List Class) (c base : ObjectClass) : Prop :=
  c.base = some base.name ∧ .object base ∈ classes

section

variable {Item : Type} {read : ValueType → MessageValue → Item} {style : OptionalStyle}
  {classes : List Class} {v : MessageValue} {c : ObjectClass} {w : Write Item}

theorem writesOf_append {cs : List Class} {name : String} (absent : name ∉ cs.map (·.name))
    (earlier : List Class) :
    writesOf read style (cs ++ earlier) name v = writesOf read style earlier name v := by
  induction cs with
  | nil => rfl
  | cons cls cs ih =>
    rw [List.map_cons, List.mem_cons, not_or] at absent
    rw [List.cons_append, ← ih absent.2]
    cases cls with
    | object c => exact if_neg (Ne.symm absent.1)
    | enumeration _ | client _ | job _ | server _ => rfl

/-- What a class derives from stands in front of it. -/
theorem exists_split (ordered : DeclaredInOrder classes) {cls : Class} (h : cls ∈ classes) :
    ∃ front back, classes = front ++ cls :: back ∧
      ∀ name, cls.base = some name → name ∈ front.map (·.name) := by
  cases base : cls.base with
  | none =>
    obtain ⟨front, back, whole⟩ := List.append_of_mem h
    exact ⟨front, back, whole, nofun⟩
  | some name =>
    obtain ⟨d, unique, before⟩ := ordered.base cls h name base
    obtain ⟨front, rest, whole, hd, hcls⟩ := List.cons_sublist_iff.mp before
    obtain ⟨between, back, rfl⟩ := List.append_of_mem (List.singleton_sublist.mp hcls)
    have called : d.name = name := by
      have found : d ∈ classes.filter (·.name == name) := unique ▸ List.mem_cons_self
      simpa using (List.mem_filter.mp found).2
    refine ⟨front ++ between, back, by rw [whole, List.append_assoc], ?_⟩
    rintro _ ⟨⟩
    exact called ▸ List.mem_map_of_mem (List.mem_append_left _ hd)

/-- A class writes what it reads itself behind what the class that it derives from writes, which
stands before it. -/
theorem writesOf_eq (nodup : (classes.map (·.name)).Nodup) (ordered : DeclaredInOrder classes)
    (hc : .object c ∈ classes) (v : MessageValue) : writesOf read style classes.reverse c.name v =
      c.base.toList.flatMap (writesOf read style classes.reverse · v) ++ c.writes read style v := by
  obtain ⟨front, back, rfl, bases⟩ := exists_split ordered hc
  obtain ⟨-, behind, apart⟩ := List.nodup_append.mp (List.map_append ▸ nodup)
  rw [List.map_cons, List.nodup_cons] at behind
  -- Only what is in front of the class can be found by the name of its base.
  have found (name : String) (h : c.base = some name) :
      writesOf read style (front ++ .object c :: back).reverse name v =
        writesOf read style front.reverse name v := by
    have before := bases name h
    have other : name ∉ ((Class.object c :: back).reverse).map (·.name) := by
      rw [List.map_reverse, List.mem_reverse]
      exact fun mem => apart name before name mem rfl
    rw [List.reverse_append, writesOf_append other]
  have last : c.name ∉ back.reverse.map (·.name) := by
    rw [List.map_reverse, List.mem_reverse]
    exact behind.1
  have own : writesOf read style (front ++ .object c :: back).reverse c.name v =
      writesOf read style (.object c :: front.reverse) c.name v := by
    rw [List.reverse_append, List.reverse_cons, List.append_assoc, writesOf_append last]
    rfl
  rw [own, writesOf, if_pos rfl]
  cases base : c.base with
  | none => rfl
  | some name =>
    rw [Option.toList_some, List.flatMap_singleton, List.flatMap_singleton, found name base]

/-- What is written is what some class reads itself. -/
theorem exists_of_mem_writesOf {name : String} (h : w ∈ writesOf read style classes name v) :
    ∃ d, .object d ∈ classes ∧ w ∈ d.writes read style v := by
  induction classes generalizing name with
  | nil => cases h
  | cons cls classes ih =>
    have further {name : String} (h : w ∈ writesOf read style classes name v) :
        ∃ d, .object d ∈ cls :: classes ∧ w ∈ d.writes read style v := by
      obtain ⟨d, hd, hw⟩ := ih h
      exact ⟨d, List.mem_cons_of_mem _ hd, hw⟩
    cases cls with
    | object c =>
      rw [writesOf] at h
      split at h
      · rcases List.mem_append.mp h with h | h
        · obtain ⟨base, _, h⟩ := List.mem_flatMap.mp h
          exact further h
        · exact ⟨c, List.mem_cons_self, h⟩
      · exact further h
    | enumeration _ | client _ | job _ | server _ => exact further h

theorem owner_of_mem_writes (h : w ∈ c.writes read style v) : w.field.owner = c.name := by
  obtain ⟨s, _, hw⟩ := List.mem_flatMap.mp h
  cases s with
  | clear m | readText m => rw [List.mem_singleton.mp hw]
  | cut => cases hw
  | readEntries m =>
    obtain ⟨_, _, rfl⟩ := List.mem_map.mp hw
    rfl
  | readEach role ms =>
    obtain ⟨_, _, taken⟩ := List.mem_filterMap.mp hw
    obtain ⟨_, _, rfl⟩ := Option.map_eq_some_iff.mp taken
    rfl

/-- A class writes all that it and what it derives from read themselves. -/
theorem mem_writesOf (nodup : (classes.map (·.name)).Nodup) (ordered : DeclaredInOrder classes)
    (hc : .object c ∈ classes) {d : ObjectClass} (derives : ReflTransGen (DerivesFrom classes) c d)
    (hw : w ∈ d.writes read style v) : w ∈ writesOf read style classes.reverse c.name v := by
  induction derives using ReflTransGen.head_induction_on with
  | refl =>
    rw [writesOf_eq nodup ordered hc]
    exact List.mem_append_right _ hw
  | head step _ ih =>
    rw [writesOf_eq nodup ordered hc, step.1]
    exact List.mem_append_left _ (List.mem_flatMap.mpr ⟨_, List.mem_singleton_self _, ih step.2⟩)

theorem mem_of_derives {d : ObjectClass} (hc : .object c ∈ classes)
    (derives : ReflTransGen (DerivesFrom classes) c d) : .object d ∈ classes := by
  induction derives with
  | refl => exact hc
  | tail _ step _ => exact step.2

end

/-! ## Generated classes -/

/-- A member that is read from the text of the element is found by its role alone. -/
def TextFirst (members : List Member) : Prop :=
  ∀ m ∈ members, m.role = .content → members.find? (·.role == .content) = some m

theorem textFirst_append {text rest : List Member}
    (h : text = [] ∨ ∃ m, text = [m] ∧ m.role = .content) (others : ∀ m ∈ rest, m.role ≠ .content) :
    TextFirst (text ++ rest) := by
  intro m hm role
  rcases h with rfl | ⟨first, rfl, content⟩
  · exact absurd role (others m hm)
  · rcases List.mem_cons.mp hm with rfl | hm
    · exact List.find?_cons_of_pos (by simpa using role)
    · exact absurd role (others m hm)

namespace ClassContext

variable {c : ClassContext} {code : String} {scope : Scope}

theorem role_of_mem_members {ps : List Particle} {m : Member}
    (h : m ∈ (c.members code ps scope).1) : m.role ≠ .content := by
  obtain ⟨m?, hm?, some⟩ := List.mem_filterMap.mp h
  obtain ⟨p, _, scope', rfl⟩ := exists_of_mem_mapM hm?
  have resolves : c.Resolves p.type := Option.isSome_iff_exists.mpr ⟨_, (value_of_member? some).1⟩
  obtain ⟨m', hm', stands⟩ := isMemberOf_member? resolves code scope'
  obtain rfl := Option.some.inj (hm'.symm.trans some)
  rw [stands.role]
  cases p.kind with
  | element | attr => exact nofun

theorem contentMember_cases (c : ClassContext) (code : String) (scope : Scope) (name : String)
    (type : TypeRef) (occurs : Schema.Occurs) :
    (c.contentMember code name type occurs scope).1 = [] ∨
      ∃ m, (c.contentMember code name type occurs scope).1 = [m] ∧ m.role = .content := by
  have one : (c.contentMember code name type occurs scope).1 =
      ((c.member? code (contentParticle name type occurs) scope).1).toList.map
        ({ · with role := .content }) := rfl
  rw [one]
  cases (c.member? code (contentParticle name type occurs) scope).1 with
  | none => exact Or.inl rfl
  | some m => exact Or.inr ⟨_, rfl, rfl⟩

theorem textFirst_membersOf (n : TypeNode) : TextFirst (c.membersOf code n scope).1 := by
  have alone (name : String) (type : TypeRef) (occurs : Schema.Occurs) :
      TextFirst (c.contentMember code name type occurs scope).1 := by
    rw [← List.append_nil (c.contentMember code name type occurs scope).1]
    apply textFirst_append (c.contentMember_cases code scope name type occurs)
    exact fun m hm => absurd hm List.not_mem_nil
  have without : TextFirst (c.members code n.members scope).1 :=
    fun m hm role => absurd role (role_of_mem_members hm)
  obtain ⟨kind, base, isAbstract, documentation, origin⟩ := n
  cases kind with
  | simple type facets => exact alone "value" type .once
  | list item => exact alone "entries" item ⟨0, .unbounded⟩
  | enumeration type values =>
    intro m hm
    cases hm
  | complex content attributes mixed anyAttribute =>
    cases content with
    | value type =>
      exact textFirst_append (c.contentMember_cases code scope "value" type .once)
        fun _ => role_of_mem_members
    | empty | sequence _ | choice _ | all _ => exact without

end ClassContext

section

open OrderedGraph

variable {g : TypeGraph} {codes : NamespaceCodes} {o : OrderedGraph} {forms : ServiceForms}
  {services : List BoundService} {namespaces : List String} {wishes : NamespaceCodes.Wishes}
  {c : ObjectClass}

theorem textFirst_of_mem_classes
    (h : .object c ∈ classes forms o services (.ofNamespaces namespaces wishes)) :
    TextFirst c.members := by
  obtain ⟨_, _, _, _, n, rfl⟩ := exists_objectClass h
  exact ClassContext.textFirst_membersOf n

theorem nodup_fields_of_mem_classes
    (h : .object c ∈ classes forms o services (.ofNamespaces namespaces wishes)) :
    (c.members.map (·.field)).Nodup :=
  nodup_fields (wellScoped_classes forms services namespaces wishes h).nodup_accessors

variable {Item : Type}

/-- A field is reset exactly if it is overwritten, whichever class of the object it is one of. -/
theorem exists_reset_iff (h : ofGraph g codes = .ok o)
    (hc : .object c ∈ classes forms o services (.ofNamespaces namespaces wishes))
    {d : ObjectClass} (derives : ReflTransGen
      (DerivesFrom (classes forms o services (.ofNamespaces namespaces wishes))) c d)
    {m : Member} (hm : m ∈ d.members) (read : ValueType → MessageValue → Item)
    (style : OptionalStyle) (v : MessageValue) :
    (∃ w ∈ writesOf read style
        (classes forms o services (.ofNamespaces namespaces wishes)).reverse c.name v,
      w.field = ⟨d.name, m.field⟩ ∧ w.change.Resets) ↔ d.Overwrites style v m := by
  have nodup := nodup_names h forms services (.ofNamespaces namespaces wishes)
  have ordered := declaredInOrder_classes h forms services (.ofNamespaces namespaces wishes)
  have hd := mem_of_derives hc derives
  constructor
  · rintro ⟨w, hw, field, resets⟩
    obtain ⟨d', hd', own⟩ := exists_of_mem_writesOf hw
    have called : (Class.object d').name = (Class.object d).name := by
      show d'.name = d.name
      rw [← owner_of_mem_writes own, field]
    have same : Class.object d' = .object d :=
      List.inj_on_of_nodup_map nodup (List.mem_reverse.mp hd') hd called
    cases same
    exact ObjectClass.overwrites_of_reset (nodup_fields_of_mem_classes hd) hm own field resets
  · intro overwrites
    obtain ⟨w, own, field, resets⟩ := ObjectClass.exists_reset_of_overwrites
      (textFirst_of_mem_classes hd) hm overwrites
    exact ⟨w, mem_writesOf nodup ordered hc derives own, field, resets⟩

/-- The `deserialize` of a generated class is the text of calls and statements that let no field of
an object keep what it held before exactly if the field is that of a list, that of the text of the
element, or that of a member whose branch a child or attribute of the value takes. All other fields,
be they optional or shared, keep it. -/
theorem deserialize_agree_iff (h : ofGraph g codes = .ok o)
    (hc : .object c ∈ classes forms o services (.ofNamespaces namespaces wishes))
    (read : ValueType → MessageValue → Item) (style : OptionalStyle) :
    c.deserializeDefinition style =
        definition s!"void {c.name}::deserialize(const KDSoapValue& mainValue)"
          (c.base.toList.map (fun base => s!"{base}::deserialize(mainValue);") ++
            c.statements.flatMap (·.text style)) ∧
      ∀ d, ReflTransGen
          (DerivesFrom (classes forms o services (.ofNamespaces namespaces wishes))) c d →
        ∀ m ∈ d.members, ∀ (v : MessageValue) (before other : Memory Item),
          deserialize read style (classes forms o services (.ofNamespaces namespaces wishes)) c.name
              v before ⟨d.name, m.field⟩ =
            deserialize read style (classes forms o services (.ofNamespaces namespaces wishes))
              c.name v other ⟨d.name, m.field⟩ ↔
            d.Overwrites style v m ∨ before ⟨d.name, m.field⟩ = other ⟨d.name, m.field⟩ := by
  refine ⟨c.deserializeDefinition_eq style, fun d derives m hm v before other => ?_⟩
  rw [deserialize, deserialize, foldl_apply_eq_iff, exists_reset_iff h hc derives hm]

end

/-! ## A remark that a message does not have -/

section

open OrderedGraph

def remarkParticle : Particle :=
  ⟨"remark", none, .element, .builtin .string, ⟨0, .bounded 1⟩, false, .byValue, none⟩

def noteId : TypeId := .named ⟨"urn:t", "Note"⟩

/-- A type with a text that may be absent. -/
def noteNode : TypeNode where
  kind := .complex (.sequence [remarkParticle]) [] false false
  base := none
  isAbstract := false
  documentation := none
  origin := default

def noteGraph : TypeGraph := ⟨(∅ : TypeTable).insert noteId noteNode, ∅⟩

def noteClasses (o : OrderedGraph) : List Class :=
  classes ⟨false, true, true, true⟩ o [] (.ofNamespaces ["urn:t"] ∅)

theorem exists_noteClass : ∃ o c m, ofGraph noteGraph (.ofNamespaces ["urn:t"] ∅) = .ok o ∧
    .object c ∈ noteClasses o ∧ c.members = [m] ∧ m.xml.name = "remark" ∧ m.role = .element ∧
      m.storage = .optional := by
  have alone : ∀ e ∈ noteNode.needs, e.2.node? = none := by
    have needs : noteNode.needs = [(.member 0 .byValue, .builtin .string)] := by cbv
    rw [needs]
    simp [TypeRef.node?]
  obtain ⟨o, ok, ordered, node, _⟩ := exists_single noteId (.ofNamespaces ["urn:t"] ∅) alone
  have resolves : ∀ r ∈ noteNode.references,
      (contextOf o (.ofNamespaces ["urn:t"] ∅)).Resolves r := by
    have references : noteNode.references = [.builtin .string] := by cbv
    intro r hr
    rw [references, List.mem_singleton] at hr
    rw [hr]
    rfl
  obtain ⟨cls, hcls, keeps⟩ :=
    ClassContext.keeps_typeClass? node (mem_classNames.mpr ordered) resolves
  have listed : cls ∈ noteClasses o := mem_classes_of_typeClass? ordered hcls
  cases cls with
  | object c =>
    obtain ⟨_, members⟩ := keeps
    replace members : List.Forall₂ IsMemberOf [remarkParticle] c.members := members
    obtain ⟨m, rest, stands, none, whole⟩ := List.forall₂_cons_left_iff.mp members
    obtain rfl := List.forall₂_nil_left_iff.mp none
    refine ⟨o, c, m, ok, listed, whole, ?_, stands.role, stands.storage⟩
    rw [stands.xml]
    rfl
  | enumeration e =>
    obtain ⟨_, _, kind, _⟩ := keeps
    cases kind
  | client _ | job _ | server _ => exact keeps.elim

/-- The value of a note. -/
def noteValue (children : List MessageValue) : MessageValue := ⟨"note", none, "", [], children⟩

/-- A note without a remark leaves the remark of an earlier note in the object. -/
theorem not_agree_note : ∃ o c m, ofGraph noteGraph (.ofNamespaces ["urn:t"] ∅) = .ok o ∧
    .object c ∈ noteClasses o ∧ m ∈ c.members ∧ m.storage = .optional ∧
      deserialize (fun _ v => v.text) .stdOptional (noteClasses o) c.name (noteValue [])
          (fun _ => ["late"]) ⟨c.name, m.field⟩ ≠
        deserialize (fun _ v => v.text) .stdOptional (noteClasses o) c.name (noteValue [])
          (fun _ => []) ⟨c.name, m.field⟩ := by
  obtain ⟨o, c, m, ok, hc, members, _, role, storage⟩ := exists_noteClass
  have hm : m ∈ c.members := by simp [members]
  refine ⟨o, c, m, ok, hc, hm, storage, fun same => ?_⟩
  rw [deserialize, deserialize, foldl_apply_eq_iff] at same
  rcases same with reset | before
  · have overwrites := (exists_reset_iff ok hc .refl hm _ _ _).mp reset
    simp [ObjectClass.Overwrites, Member.isList, storage, role, MessageValue.among, noteValue]
      at overwrites
  · cases before

/-- The remark of a note replaces the one before. -/
theorem agree_note : ∃ o c m, ofGraph noteGraph (.ofNamespaces ["urn:t"] ∅) = .ok o ∧
    .object c ∈ noteClasses o ∧ m ∈ c.members ∧ ∀ before other : Memory String,
      deserialize (fun _ v => v.text) .stdOptional (noteClasses o) c.name
          (noteValue [⟨"remark", none, "new", [], []⟩]) before ⟨c.name, m.field⟩ =
        deserialize (fun _ v => v.text) .stdOptional (noteClasses o) c.name
          (noteValue [⟨"remark", none, "new", [], []⟩]) other ⟨c.name, m.field⟩ := by
  obtain ⟨o, c, m, ok, hc, members, name, role, _⟩ := exists_noteClass
  have hm : m ∈ c.members := by simp [members]
  refine ⟨o, c, m, ok, hc, hm, fun before other => ?_⟩
  refine ((deserialize_agree_iff ok hc _ _).2 c .refl m hm _ before other).mpr (Or.inl ?_)
  have single : c.inRole m.role = [m] := by simp [ObjectClass.inRole, members]
  have plain : ∀ m' ∈ c.inRole m.role, IsPlain m'.xml.name := by
    rw [single]
    simp [name, IsPlain]
  refine Or.inr (Or.inr ⟨⟨"remark", none, "new", [], []⟩, ?_, ?_⟩)
  · rw [role]
    exact List.mem_singleton_self _
  · rw [takenMember?_eq _ plain, single]
    simp [name]

end

end SoapBindings.Cpp
