import Mathlib.Data.List.Basic
import SoapBindings.Files.Tree
import SoapBindings.Proofs.Tables

/-!
# Writing to a file tree

A write puts a file at one place that is no directory, and leaves all other places alone
(`write_eq_ok`). Ways through a tree ask of the places on them only whether these are directories,
and a write makes no directory and takes none away; so the same paths lead to the same places
before and after it (`locate_of_write`).
-/

set_option autoImplicit false

namespace SoapBindings.Files

namespace Tree

variable {t t' : Tree} {path : String} {content : ByteArray} {place : Place}

/-- The same places are directories. -/
def SameDirectories (t t' : Tree) : Prop :=
  ∀ p, t.entry? p = some .directory ↔ t'.entry? p = some .directory

theorem enter_eq_ok_iff : t.enter place = .ok () ↔ t.entry? place = some .directory := by
  rw [enter]
  split
  · next h => simp [h]
  · next h => simp [h]
  · next h => simp [h]

theorem walk_cons {here : Place} {component : Component} {rest : List Component} :
    t.walk here (component :: rest) = .ok place ↔ t.entry? here = some .directory ∧
      match component with
      | .parent => t.walk here.dropLast rest = .ok place
      | .name text =>
        text.utf8ByteSize ≤ longestName ∧ t.walk (here ++ [text]) rest = .ok place := by
  rw [← enter_eq_ok_iff]
  cases component with
  | parent =>
    rw [walk]
    cases t.enter here with
    | error refusal => simp
    | ok => simp
  | name text =>
    rw [walk]
    cases t.enter here with
    | error refusal => simp
    | ok =>
      by_cases long : longestName < text.utf8ByteSize
      · simp [long, Nat.not_le.mpr long]
      · simp [long, Nat.not_lt.mp long]

theorem SameDirectories.walk (same : SameDirectories t t') {here : Place} {cs : List Component} :
    t.walk here cs = .ok place ↔ t'.walk here cs = .ok place := by
  induction cs generalizing here with
  | nil => rfl
  | cons component rest ih =>
    rw [walk_cons, walk_cons, same]
    cases component with
    | parent => simp only [ih]
    | name text => simp only [ih]

/-- A name that is left over is the last of the place. -/
theorem getLast?_of_walk {here : Place} {cs : List Component} {name : String}
    (h : t.walk here cs = .ok place) (last : cs.getLast? = some (.name name)) :
    place.getLast? = some name := by
  induction cs generalizing here with
  | nil => cases last
  | cons component rest ih =>
    obtain ⟨_, h⟩ := walk_cons.mp h
    cases rest with
    | nil =>
      cases last
      obtain ⟨_, h⟩ := h
      cases h
      simp
    | cons next rest =>
      rw [List.getLast?_cons_cons] at last
      cases component with
      | parent => exact ih h last
      | name text => exact ih h.2 last

theorem walk_of_locate (h : t.locate path = .ok place) :
    t.walk [] (components path) = .ok place := by
  unfold locate at h
  by_cases nul : path.contains '\x00' = true
  · rw [if_pos nul] at h
    cases h
  · rw [if_neg nul] at h
    cases walked : t.walk [] (components path) with
    | error refusal =>
      simp only [walked, bind, Except.bind] at h
      cases h
    | ok there =>
      simp only [walked, bind, Except.bind] at h
      split at h
      · split at h
        · cases h
        · exact h
      · exact h

/-- A file is put at the place, which is no directory. -/
theorem write_eq_ok (h : t.write path content = .ok t') : ∃ place,
    t.locate path = .ok place ∧ t.entry? place ≠ some .directory ∧
      t' = ⟨t.entries.insert place (.file content)⟩ := by
  unfold write at h
  cases located : t.locate path with
  | error refusal =>
    simp only [located, bind, Except.bind] at h
    cases h
  | ok place =>
    refine ⟨place, rfl, ?_⟩
    simp only [located, bind, Except.bind] at h
    split at h
    · cases h
    · next there =>
      rw [there]
      exact ⟨nofun, (Except.ok.inj h).symm⟩
    · next there =>
      split at h
      · cases h
      · rw [there]
        exact ⟨nofun, (Except.ok.inj h).symm⟩

/-- The root is a directory. -/
theorem isEmpty_eq_false (noRoot : t.entry? place ≠ some .directory) : place.isEmpty = false := by
  cases place with
  | nil => exact absurd rfl noRoot
  | cons => rfl

theorem entry?_insert (noRoot : t.entry? place ≠ some .directory) (entry : Entry) (p : Place) :
    Tree.entry? ⟨t.entries.insert place entry⟩ p =
      if place = p then some entry else t.entry? p := by
  split
  · next same =>
    subst same
    unfold entry?
    rw [isEmpty_eq_false noRoot]
    exact Std.ExtTreeMap.getElem?_insert_self
  · next other =>
    unfold entry?
    rw [getElem?_insert_of_ne other]

theorem sameDirectories_of_write (h : t.write path content = .ok t') : SameDirectories t t' := by
  obtain ⟨place, _, noDirectory, rfl⟩ := write_eq_ok h
  intro p
  rw [entry?_insert noDirectory]
  split
  · next same =>
    subst same
    exact iff_of_false noDirectory nofun
  · rfl

/-- A path leads to the same place as long as the entry there stays what it is. -/
theorem locate_of_entry (same : SameDirectories t t') (h : t.locate path = .ok place)
    (entry : t'.entry? place = t.entry? place) : t'.locate path = .ok place := by
  have walked := walk_of_locate h
  have walked' := same.walk.mp walked
  unfold locate at h ⊢
  by_cases nul : path.contains '\x00' = true
  · rw [if_pos nul] at h
    cases h
  · rw [if_neg nul] at h ⊢
    simp only [walked, walked', bind, Except.bind, entry] at h ⊢
    exact h

/-- A path that a file was written to leads to where the file is. -/
theorem locate_of_write (h : t.write path content = .ok t') : t'.locate path = t.locate path := by
  obtain ⟨place, located, _⟩ := write_eq_ok h
  have walked := walk_of_locate located
  have walked' : t'.walk [] (components path) = .ok place :=
    (sameDirectories_of_write h).walk.mp walked
  rw [located]
  unfold write at h
  simp only [located, bind, Except.bind] at h
  unfold locate at located ⊢
  by_cases nul : path.contains '\x00' = true
  · rw [if_pos nul] at located
    cases located
  · rw [if_neg nul] at located ⊢
    simp only [walked, walked', bind, Except.bind] at located ⊢
    split
    · -- A path that asks for a directory cannot be written to.
      next asks =>
      rw [if_pos asks] at located
      split at located
      · cases located
      · next noFile =>
        split at h
        · cases h
        · next there => exact absurd there (noFile _)
        · rw [if_pos asks] at h
          cases h
    · rfl

/-- A path leads nowhere that it did not lead to before. -/
theorem locate_before_write {other : String} {there : Place} (h : t.write path content = .ok t')
    (leads : t'.locate other = .ok there) : t.locate other = .ok there := by
  have walked' := walk_of_locate leads
  have walked := (sameDirectories_of_write h).walk.mpr walked'
  obtain ⟨place, _, noDirectory, rfl⟩ := write_eq_ok h
  unfold locate at leads ⊢
  by_cases nul : other.contains '\x00' = true
  · rw [if_pos nul] at leads
    cases leads
  · rw [if_neg nul] at leads ⊢
    simp only [walked, walked', bind, Except.bind, entry?_insert noDirectory] at leads ⊢
    by_cases same : place = there
    · split at leads
      · cases leads
      · next asks =>
        rw [if_neg asks]
        rfl
    · rw [if_neg same] at leads
      exact leads

theorem read_eq_ok_iff {t : Tree} : t.read path = .ok content ↔
    ∃ place, t.locate path = .ok place ∧ t.entry? place = some (.file content) := by
  unfold read
  cases t.locate path with
  | error refusal => simp [bind, Except.bind]
  | ok place =>
    cases there : t.entry? place with
    | none => simp [bind, Except.bind, there, throw, throwThe, MonadExceptOf.throw]
    | some entry =>
      cases entry with
      | directory => simp [bind, Except.bind, there, throw, throwThe, MonadExceptOf.throw]
      | file content => simp [bind, Except.bind, there, pure, Except.pure]

/-- What is written is read. -/
theorem read_of_write (h : t.write path content = .ok t') : t'.read path = .ok content := by
  obtain ⟨place, located, noDirectory, rfl⟩ := write_eq_ok h
  refine read_eq_ok_iff.mpr ⟨place, (locate_of_write h).trans located, ?_⟩
  rw [entry?_insert noDirectory, if_pos rfl]

/-- What is read elsewhere is read as before. -/
theorem read_of_write_elsewhere {other : String} {kept : ByteArray}
    (h : t.write path content = .ok t') (elsewhere : t.locate path ≠ t.locate other)
    (before : t.read other = .ok kept) : t'.read other = .ok kept := by
  have same := sameDirectories_of_write h
  obtain ⟨place, located, noDirectory, rfl⟩ := write_eq_ok h
  obtain ⟨there, located', file⟩ := read_eq_ok_iff.mp before
  have apart : place ≠ there := by
    rw [located, located'] at elsewhere
    exact fun h => elsewhere (congrArg _ h)
  have entry := entry?_insert noDirectory (.file content) there
  rw [if_neg apart] at entry
  exact read_eq_ok_iff.mpr ⟨there, locate_of_entry same located' entry, entry.trans file⟩

/-- Writing what is there changes nothing. -/
theorem write_of_read (h : t.write path content = .ok t') (same : t.read path = .ok content) :
    t' = t := by
  obtain ⟨place, located, noDirectory, rfl⟩ := write_eq_ok h
  obtain ⟨there, located', file⟩ := read_eq_ok_iff.mp same
  obtain rfl := Except.ok.inj (located.symm.trans located')
  obtain ⟨entries⟩ := t
  congr 1
  refine Std.ExtTreeMap.ext_getElem? fun p => ?_
  by_cases hp : place = p
  · subst hp
    unfold entry? at file
    rw [isEmpty_eq_false noDirectory] at file
    rw [Std.ExtTreeMap.getElem?_insert_self]
    exact file.symm
  · rw [getElem?_insert_of_ne hp]

end Tree

/-! ## Files in a workspace -/

namespace Workspace

variable {w w' : Workspace} {path : String} {content : ByteArray}

/-- The place in the tree that a path leads to. -/
def PathLeads (w : Workspace) (path : String) (place : Place) : Prop :=
  w.tree.locate (w.absolute path) = .ok place

theorem write_eq_ok (h : w.write path content = .ok w') : path.isEmpty = false ∧
    ∃ t, w.tree.write (w.absolute path) content = .ok t ∧ w' = { w with tree := t } := by
  rw [write] at h
  cases nonempty : path.isEmpty with
  | true => simp [nonempty] at h
  | false =>
    refine ⟨rfl, ?_⟩
    cases wrote : w.tree.write (w.absolute path) content with
    | error refusal => simp [nonempty, wrote, Except.map] at h
    | ok t => exact ⟨t, rfl, by simpa [nonempty, wrote, Except.map, eq_comm] using h⟩

theorem read_eq_of_nonempty (nonempty : path.isEmpty = false) :
    w.read path = w.tree.read (w.absolute path) := by
  rw [read, if_neg (by simp [nonempty])]

theorem exists_leads_of_write (h : w.write path content = .ok w') :
    ∃ place, w.PathLeads path place := by
  obtain ⟨_, t, wrote, _⟩ := write_eq_ok h
  obtain ⟨place, located, _⟩ := Tree.write_eq_ok wrote
  exact ⟨place, located⟩

theorem entry?_of_write (h : w.write path content = .ok w') {place : Place}
    (elsewhere : ¬ w.PathLeads path place) : w'.tree.entry? place = w.tree.entry? place := by
  obtain ⟨_, t, wrote, rfl⟩ := write_eq_ok h
  obtain ⟨there, located, noDirectory, rfl⟩ := Tree.write_eq_ok wrote
  refine (Tree.entry?_insert noDirectory _ place).trans (if_neg fun same => elsewhere ?_)
  rw [PathLeads, located, same]

/-- Writing leads no path to another place. -/
theorem leads_of_write (h : w.write path content = .ok w') {other : String} {place : Place}
    (leads : w'.PathLeads other place) : w.PathLeads other place := by
  obtain ⟨_, t, wrote, rfl⟩ := write_eq_ok h
  exact Tree.locate_before_write wrote leads

theorem read_of_write (h : w.write path content = .ok w') : w'.read path = .ok content := by
  obtain ⟨nonempty, t, wrote, rfl⟩ := write_eq_ok h
  rw [read_eq_of_nonempty nonempty]
  exact Tree.read_of_write wrote

theorem read_of_write_elsewhere {other : String} {kept : ByteArray}
    (h : w.write path content = .ok w')
    (elsewhere : ∀ place, w.PathLeads path place → ¬ w.PathLeads other place)
    (before : w.read other = .ok kept) : w'.read other = .ok kept := by
  obtain ⟨place, leads⟩ := exists_leads_of_write h
  obtain ⟨_, t, wrote, rfl⟩ := write_eq_ok h
  have nonempty : other.isEmpty = false := by
    cases empty : other.isEmpty with
    | false => rfl
    | true =>
      rw [read, if_pos empty] at before
      cases before
  rw [read_eq_of_nonempty nonempty] at before ⊢
  refine Tree.read_of_write_elsewhere wrote (fun same => ?_) before
  exact elsewhere place leads (same.symm.trans leads)

theorem eq_of_write_of_read (h : w.write path content = .ok w')
    (same : w.read path = .ok content) : w' = w := by
  obtain ⟨nonempty, t, wrote, rfl⟩ := write_eq_ok h
  rw [read_eq_of_nonempty nonempty] at same
  rw [Tree.write_of_read wrote same]

end Workspace

end SoapBindings.Files
