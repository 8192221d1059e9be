import SoapBindings.Document.Reader

/-!
# What documents are read as

A document that was read is at the locator it was read for (`locator_of_read`), and each import of a
schema in it names that schema's namespace as the one that asks (`importer_of_read`). A schema that
declares no namespace has the one that it is read for, or none (`targetNamespace_of_read`).

Readers that collect what they pass over are taken apart by `Gives`, which forgets the collection.
-/

set_option autoImplicit false

namespace SoapBindings

open Schema Xml

/-! ## What readers give -/

/-- Whatever the reader gives has the property. -/
def Reading.Gives {α : Type} (x : Reading α) (p : α → Prop) : Prop :=
  ∀ skipped a skipped', x.run skipped = .ok (a, skipped') → p a

namespace Reading.Gives

variable {α β : Type} {p : α → Prop} {q : β → Prop}

theorem pure {a : α} (h : p a) : Gives (Pure.pure a) p := by
  intro _ _ _ run
  cases run
  exact h

theorem bind {x : Reading β} {f : β → Reading α} (first : Gives x q)
    (next : ∀ b, q b → Gives (f b) p) : Gives (x >>= f) p := by
  intro skipped a skipped' run
  rw [StateT.run_bind] at run
  cases hx : x.run skipped with
  | error m =>
    rw [hx] at run
    cases run
  | ok result =>
    rw [hx] at run
    exact next result.1 (first _ _ _ hx) _ _ _ run

/-- What comes first does not matter. -/
theorem after {x : Reading β} {f : β → Reading α} (next : ∀ b, Gives (f b) p) :
    Gives (x >>= f) p :=
  bind (fun _ _ _ _ => trivial) fun b (_ : True) => next b

theorem lift {x : Except Misreading α} (h : ∀ a, x = .ok a → p a) :
    Gives (liftM x : Reading α) p := by
  intro _ a _ run
  cases x with
  | error m => cases run
  | ok b =>
    cases run
    exact h a rfl

theorem foldlM {f : α → β → Reading α} (step : ∀ a b, p a → Gives (f a b) p) {a : α} (start : p a)
    (bs : List β) : Gives (bs.foldlM f a) p := by
  induction bs generalizing a with
  | nil => exact pure start
  | cons b bs ih =>
    rw [List.foldlM_cons]
    exact bind (step a b start) fun a ha => ih ha

end Reading.Gives

/-! ## Imports of a schema -/

namespace Schema

/-- The schema has a namespace, and its imports name it. -/
def Declarations.AsksFor (target : String) (s : Declarations) : Prop :=
  s.targetNamespace = target ∧ ∀ i ∈ s.imports, i.importer = target

theorem Declarations.AsksFor.importing {target : String} {s : Declarations}
    (h : s.AsksFor target) {i : Import} (hi : i.importer = target) :
    Declarations.AsksFor target { s with imports := s.imports ++ [i] } := by
  refine ⟨h.1, fun j hj => ?_⟩
  rcases List.mem_append.mp hj with hj | hj
  · exact h.2 j hj
  · rw [List.mem_singleton.mp hj]
    exact hi

theorem importer_of_readInclusion {target : String} {kind : ImportKind} {e : Element} {i : Import}
    (h : readInclusion target kind e = .ok i) : i.importer = target := by
  rw [readInclusion] at h
  cases hr : required e "schemaLocation" with
  | error m =>
    rw [hr] at h
    cases h
  | ok location =>
    rw [hr] at h
    cases h
    rfl

theorem addDeclaration_gives {target : String} {ctx : Context} {s : Declarations} {e : Element}
    (h : s.AsksFor target) : (addDeclaration ctx s e).Gives (·.AsksFor target) := by
  have inclusion (kind : ImportKind) :
      (liftM (readInclusion s.targetNamespace kind e) : Reading Import).Gives
        (·.importer = target) :=
    .lift fun i hi => (importer_of_readInclusion hi).trans h.1
  rw [addDeclaration]
  split
  · exact .after fun _ => .pure h
  · split
    · exact .pure h
    · exact .pure (h.importing h.1)
    · exact .bind (inclusion .included) fun i hi => .pure (h.importing hi)
    · exact .after fun _ => .bind (inclusion .redefined) fun i hi => .pure (h.importing hi)
    -- The other declarations are no imports.
    all_goals exact .after fun _ => .pure h

theorem readSchema_gives {target : String} {isAdopted : Bool} {e : Element} :
    (readSchema target isAdopted e).Gives (·.AsksFor target) := by
  rw [readSchema]
  refine .after fun _ => .after fun _ => .foldlM (fun s e h => addDeclaration_gives h) ?_ _
  exact ⟨rfl, fun i hi => absurd hi List.not_mem_nil⟩

/-- The schema is what some element was read as. -/
def Declarations.IsRead (s : Declarations) : Prop :=
  ∃ target isAdopted e skipped skipped',
    (readSchema target isAdopted e).run skipped = .ok (s, skipped')

theorem readSchema_isRead {target : String} {isAdopted : Bool} {e : Element} :
    (readSchema target isAdopted e).Gives (·.IsRead) :=
  fun _ _ _ run => ⟨_, _, _, _, _, run⟩

end Schema

/-! ## Documents -/

theorem addSchema_gives {d : Definitions} {e : Element} (h : ∀ s ∈ d.schemas, s.IsRead) :
    (addSchema d e).Gives fun d => ∀ s ∈ d.schemas, s.IsRead := by
  rw [addSchema]
  split
  · refine .bind readSchema_isRead fun s hs => .pure fun s' hs' => ?_
    rcases List.mem_append.mp hs' with hs' | hs'
    · exact h s' hs'
    · exact List.mem_singleton.mp hs' ▸ hs
  · split
    · exact .pure h
    · exact .after fun _ => .pure h

theorem addDefinition_gives {ctx : Context} {d : Definitions} {e : Element}
    (h : ∀ s ∈ d.schemas, s.IsRead) :
    (addDefinition ctx d e).Gives fun d => ∀ s ∈ d.schemas, s.IsRead := by
  rw [addDefinition]
  split
  · exact .after fun _ => .pure h
  · split
    · exact .pure h
    · exact .pure h
    · exact .foldlM (fun d e h => addSchema_gives h) h _
    all_goals exact .after fun _ => .pure h

namespace Document

variable {l : Locator} {including : Option String} {content : ByteArray} {root : Element}
  {d : Document}

theorem ofRoot_spec (h : ofRoot l including root = .ok d) :
    d.locator = l ∧ (∀ s ∈ d.schemas, s.IsRead) ∧
      (root.is Namespaces.schema "schema" →
        d.targetNamespace = ((trimmed? root "targetNamespace").or including).getD "") := by
  rw [ofRoot] at h
  split at h
  · cases hread : (readSchema (((trimmed? root "targetNamespace").or including).getD "")
        ((trimmed? root "targetNamespace").isNone && including.isSome) root).run [] with
    | error m =>
      simp only [hread] at h
      cases h
    | ok result =>
      simp only [hread] at h
      cases h
      refine ⟨rfl, fun s hs => ?_, fun _ => rfl⟩
      exact List.mem_singleton.mp hs ▸ readSchema_isRead _ _ _ hread
  · next notSchema =>
    split at h
    · cases hread : (root.children.foldlM (addDefinition
          (.ofNamespace ((trimmed? root "targetNamespace").getD ""))) Definitions.none).run [] with
      | error m =>
        simp only [hread] at h
        cases h
      | ok result =>
        simp only [hread] at h
        cases h
        have schemas := Reading.Gives.foldlM (fun d e h => addDefinition_gives h)
          (a := Definitions.none) (fun s hs => absurd hs List.not_mem_nil) root.children _ _ _ hread
        exact ⟨rfl, schemas, fun schema => absurd schema notSchema⟩
    · cases h

/-- Each schema of a document was read. -/
theorem isRead_of_read (h : read l including content = .ok d) : ∀ s ∈ d.schemas, s.IsRead := by
  obtain ⟨_, _, _, _, h⟩ := read_eq_ok_iff.mp h
  exact (ofRoot_spec h).2.1

theorem locator_of_read (h : read l including content = .ok d) : d.locator = l := by
  obtain ⟨_, _, _, _, h⟩ := read_eq_ok_iff.mp h
  exact (ofRoot_spec h).1

/-- Each import of a schema in a document names the namespace of that schema. -/
theorem importer_of_read (h : read l including content = .ok d) {s : Declarations}
    (hs : s ∈ d.schemas) {i : Import} (hi : i ∈ s.imports) : i.importer = s.targetNamespace := by
  obtain ⟨target, _, _, _, _, run⟩ := isRead_of_read h s hs
  have asks := readSchema_gives _ _ _ run
  rw [asks.1]
  exact asks.2 i hi

/-- The content is that of a schema that declares no namespace. -/
def LacksNamespace (content : ByteArray) : Prop :=
  ∃ text root, Text.Utf8.decode? content = some text ∧ Element.ofText text = .ok root ∧
    root.is Namespaces.schema "schema" ∧ trimmed? root "targetNamespace" = none

theorem targetNamespace_of_read (h : read l including content = .ok d)
    (lacks : LacksNamespace content) : d.targetNamespace = including.getD "" := by
  obtain ⟨text, root, decoded, parsed, h⟩ := read_eq_ok_iff.mp h
  obtain ⟨text', root', decoded', parsed', schema, undeclared⟩ := lacks
  rw [decoded] at decoded'
  cases decoded'
  rw [parsed] at parsed'
  cases parsed'
  rw [(ofRoot_spec h).2.2 schema, undeclared, Option.none_or]

end Document

end SoapBindings
