import Mathlib
import SoapBindings.Proofs.Interface.DocumentOrder
import SoapBindings.Proofs.Services.Validity

/-!
# A document that is read again

The tables of declarations, the declarations for services, the namespaces and the listing of known
types each pass over what they hold already (`Symbols.add_known`, `firstOf_append_known`,
`ListedUnder.listUnder_eq`). So a document that comes once more, from whatever place, changes
nothing in an interface, nor the error that stands for one (`ofDocuments_again`).
-/

set_option autoImplicit false

namespace SoapBindings

section

variable {α ε : Type}

/-- Steps that change nothing come to nothing. -/
theorem foldl_known {f : α → ε → α} {a : α} {es : List ε} (known : ∀ e ∈ es, f a e = a) :
    es.foldl f a = a := by
  induction es with
  | nil => rfl
  | cons e es ih =>
    rw [List.foldl_cons, known e List.mem_cons_self]
    exact ih fun e he => known e (List.mem_cons_of_mem _ he)

theorem foldlM_known {σ : Type} {f : α → ε → Except σ α} {a : α} {es : List ε}
    (known : ∀ e ∈ es, f a e = .ok a) : es.foldlM f a = .ok a := by
  induction es with
  | nil => rfl
  | cons e es ih =>
    rw [List.foldlM_cons, known e List.mem_cons_self]
    exact ih fun e he => known e (List.mem_cons_of_mem _ he)

end

/-! ## Tables of declarations -/

namespace Schema.Symbols

open Declarations

variable {α : Type} [DecidableEq α] {table : NameTable (Declared α)} {declared : List (QName × α)}

theorem register_known (h : Holds table declared) {name : QName} {d : Declared α}
    (known : (name, d.decl) ∈ declared) (kind : DeclarationKind) :
    register kind table name d = .ok table := by
  obtain ⟨first, hfirst, same⟩ := (h name d.decl).mpr known
  simp only [register, hfirst, if_pos same]

theorem registerAll_known (h : Holds table declared) {ns : String} {decls : List (String × α)}
    (known : ∀ e ∈ named ns decls, e ∈ declared) (kind : DeclarationKind) (locator : Locator) :
    registerAll kind ns locator table decls = .ok table :=
  foldlM_known fun e he =>
    register_known (d := ⟨e.2, ns, locator⟩) h (known _ (List.mem_map_of_mem he)) kind

variable {s : Symbols} {schemas : List (Locator × Declarations)}

/-- Tables that hold what a schema declares do not change by it. -/
theorem add_known (h : s.HoldsAll schemas) {d : Declarations} (known : d ∈ schemas.map (·.2))
    (locator : Locator) : s.add locator d = .ok s := by
  have declares {β : Type} (of : Declarations → List (String × β)) :
      ∀ e ∈ named d.targetNamespace (of d), e ∈ declaredIn of schemas :=
    fun _ he => mem_declaredIn.mpr ⟨d, known, he⟩
  have types := registerAll_known h.types (declares namedTypes) .type locator
  have elements := registerAll_known h.elements (declares namedElements) .element locator
  have attributes := registerAll_known h.attributes (declares namedAttributes) .attr locator
  have groups := registerAll_known h.groups (declares namedGroups) .group locator
  have attributeGroups :=
    registerAll_known h.attributeGroups (declares namedAttributeGroups) .attributeGroup locator
  unfold namedTypes at types
  unfold namedElements at elements
  unfold namedAttributes at attributes
  unfold namedGroups at groups
  unfold namedAttributeGroups at attributeGroups
  simp only [add, types, elements, attributes, groups, attributeGroups]
  rfl

/-- Schemas that come again after all schemas leave the tables as they are, and the conflict too. -/
theorem ofDocuments_append_known {ds ds' : Documents} {again : List (Locator × Declarations)}
    (schemas : ds'.schemas = ds.schemas ++ again)
    (known : ∀ d ∈ again, d.2 ∈ ds.schemas.map (·.2)) : ofDocuments ds' = ofDocuments ds := by
  have split : ofDocuments ds' =
      ofDocuments ds >>= again.foldlM fun s e => s.add e.1 e.2 := by
    rw [ofDocuments, schemas, List.foldlM_append]
    rfl
  rw [split]
  cases h : ofDocuments ds with
  | error conflict => rfl
  | ok s => exact foldlM_known fun d hd => add_known (holdsAll_of_ok h) (known d hd) d.1

end Schema.Symbols

/-! ## Declarations for services -/

namespace ServiceDeclarations

variable {α : Type} {declared again : List (QName × α)}

theorem find?_append_known (known : ∀ e ∈ again, e ∈ declared) (name : QName) :
    (declared ++ again).find? (·.1 == name) = declared.find? (·.1 == name) := by
  rw [List.find?_append]
  cases hfirst : declared.find? (·.1 == name) with
  | some first => rfl
  | none =>
    have absent := List.find?_eq_none.mp hfirst
    rw [Option.none_or, List.find?_eq_none]
    exact fun e he => absent e (known e he)

theorem firstOf_append_known (known : ∀ e ∈ again, e ∈ declared) :
    firstOf (declared ++ again) = firstOf declared := by
  refine Std.ExtTreeMap.ext_getElem? fun name => ?_
  rw [getElem?_firstOf, getElem?_firstOf, find?_append_known known]

/-- A name that some declaration has is kept by one. -/
theorem any_distinct {e : QName × α} (he : e ∈ declared) :
    (distinct declared).any (·.1 == e.1) = true := by
  obtain ⟨first, hfirst⟩ : ∃ first, declared.find? (·.1 == e.1) = some first := by
    rw [← Option.isSome_iff_exists, List.find?_isSome]
    exact ⟨e, he, beq_self_eq_true _⟩
  have kept := filter_distinct declared e.1
  rw [hfirst, Option.toList_some] at kept
  have mem : first ∈ (distinct declared).filter (·.1 == e.1) := by
    rw [kept]
    exact List.mem_cons_self
  obtain ⟨mem, same⟩ := List.mem_filter.mp mem
  exact List.any_eq_true.mpr ⟨first, mem, same⟩

theorem distinct_append_known (known : ∀ e ∈ again, e ∈ declared) :
    distinct (declared ++ again) = distinct declared := by
  have split : distinct (declared ++ again) =
      again.foldl (fun kept e => if kept.any (·.1 == e.1) then kept else kept ++ [(e.1, e.2)])
        (distinct declared) := List.foldl_append
  rw [split]
  exact foldl_known fun e he => if_pos (any_distinct (known e he))

end ServiceDeclarations

/-! ## Listings -/

section

variable {ε : Type} (ns : ε → String) (names : ε → List String)

/-- Adds names under a namespace, as the listing of known types does. -/
def listUnder (known : Std.ExtTreeMap String (Std.ExtTreeSet String)) (e : ε) :
    Std.ExtTreeMap String (Std.ExtTreeSet String) :=
  known.insert (ns e) ((known.getD (ns e) ∅).insertMany (names e))

/-- The names are listed under the namespace. -/
def ListedUnder (known : Std.ExtTreeMap String (Std.ExtTreeSet String)) (e : ε) : Prop :=
  ∃ listed, known[ns e]? = some listed ∧ ∀ name ∈ names e, name ∈ listed

variable {ns names} {known : Std.ExtTreeMap String (Std.ExtTreeSet String)} {e : ε}

theorem mem_insertMany {listed : Std.ExtTreeSet String} {more : List String} {name : String} :
    name ∈ listed.insertMany more ↔ name ∈ listed ∨ name ∈ more := by
  rw [Std.ExtTreeSet.mem_insertMany_list, List.contains_iff_mem]

theorem listedUnder_self : ListedUnder ns names (listUnder ns names known e) e := by
  refine ⟨_, Std.ExtTreeMap.getElem?_insert_self, fun name hname => ?_⟩
  exact mem_insertMany.mpr (Or.inr hname)

theorem ListedUnder.kept (h : ListedUnder ns names known e) (next : ε) :
    ListedUnder ns names (listUnder ns names known next) e := by
  obtain ⟨listed, hlisted, mem⟩ := h
  by_cases same : ns next = ns e
  · refine ⟨_, by rw [listUnder, same, Std.ExtTreeMap.getElem?_insert_self], fun name hname => ?_⟩
    rw [Std.ExtTreeMap.getD_eq_getD_getElem?, hlisted]
    exact mem_insertMany.mpr (Or.inl (mem name hname))
  · exact ⟨listed, by rw [listUnder, getElem?_insert_of_ne same, hlisted], mem⟩

theorem listedUnder_foldl {es : List ε} (he : e ∈ es ∨ ListedUnder ns names known e) :
    ListedUnder ns names (es.foldl (listUnder ns names) known) e := by
  induction es generalizing known with
  | nil =>
    rcases he with he | he
    · exact absurd he List.not_mem_nil
    · exact he
  | cons first es ih =>
    rw [List.foldl_cons]
    refine ih ?_
    rcases he with he | he
    · rcases List.mem_cons.mp he with rfl | he
      · exact Or.inr listedUnder_self
      · exact Or.inl he
    · exact Or.inr (he.kept first)

theorem ListedUnder.listUnder_eq (h : ListedUnder ns names known e) :
    listUnder ns names known e = known := by
  obtain ⟨listed, hlisted, mem⟩ := h
  have all : listed.insertMany (names e) = listed := by
    refine Std.ExtTreeSet.ext_mem fun name => ?_
    rw [mem_insertMany]
    exact ⟨fun h => h.elim id (mem name), Or.inl⟩
  refine Std.ExtTreeMap.ext_getElem? fun key => ?_
  by_cases same : ns e = key
  · subst same
    rw [listUnder, Std.ExtTreeMap.getElem?_insert_self, Std.ExtTreeMap.getD_eq_getD_getElem?,
      hlisted]
    exact congrArg some all
  · rw [listUnder, getElem?_insert_of_ne same]

theorem foldl_listUnder_append_known {es again : List ε} (h : ∀ e ∈ again, e ∈ es) :
    (es ++ again).foldl (listUnder ns names) known = es.foldl (listUnder ns names) known := by
  rw [List.foldl_append]
  exact foldl_known fun e he => (listedUnder_foldl (Or.inl (h e he))).listUnder_eq

end

namespace Documents

/-- The documents, and at the end one that comes from elsewhere. -/
def again (ds : Documents) (d : Document) (elsewhere : Locator) : Documents :=
  ⟨ds.inOrder ++ [{ d with locator := elsewhere }]⟩

variable {ds : Documents} {d : Document} (elsewhere : Locator)

theorem schemas_again : (ds.again d elsewhere).schemas =
    ds.schemas ++ d.schemas.map (elsewhere, ·) := by
  simp [schemas, again]

/-- What is listed of each document is listed once more of the last. -/
theorem flatMap_again {β : Type} (of : Document → List β)
    (same : of { d with locator := elsewhere } = of d) :
    (ds.again d elsewhere).inOrder.flatMap of = ds.inOrder.flatMap of ++ of d := by
  simp [again, same]

theorem knownTypes_eq (ds : Documents) : ds.knownTypes =
    ((ds.schemas.map (·.2)).foldl
      (listUnder (·.targetNamespace) fun s => s.types.filterMap (·.name)) ∅).toList.map
        fun (ns, names) => (ns, names.toList) := by
  rw [List.foldl_map]
  rfl

variable (h : d ∈ ds.inOrder)

include h

theorem mem_schemas {s : Schema.Declarations} (hs : s ∈ d.schemas) :
    s ∈ ds.schemas.map (·.2) := by
  refine List.mem_map.mpr ⟨(d.locator, s), List.mem_flatMap.mpr ⟨d, h, ?_⟩, rfl⟩
  exact List.mem_map_of_mem hs

theorem mem_flatMap {β : Type} (of : Document → List β) : ∀ b ∈ of d, b ∈ ds.inOrder.flatMap of :=
  fun _ hb => List.mem_flatMap.mpr ⟨d, h, hb⟩

theorem symbols_again :
    Schema.Symbols.ofDocuments (ds.again d elsewhere) = Schema.Symbols.ofDocuments ds := by
  refine Schema.Symbols.ofDocuments_append_known (schemas_again elsewhere) fun e he => ?_
  obtain ⟨s, hs, rfl⟩ := List.mem_map.mp he
  exact mem_schemas h hs

theorem serviceDeclarations_again :
    ServiceDeclarations.ofDocuments (ds.again d elsewhere) =
      ServiceDeclarations.ofDocuments ds := by
  simp only [ServiceDeclarations.ofDocuments]
  rw [flatMap_again, flatMap_again, flatMap_again, flatMap_again,
    ServiceDeclarations.firstOf_append_known (mem_flatMap h _),
    ServiceDeclarations.firstOf_append_known (mem_flatMap h _),
    ServiceDeclarations.firstOf_append_known (mem_flatMap h _),
    ServiceDeclarations.distinct_append_known (mem_flatMap h _)]
  all_goals rfl

theorem namespaces_again : (ds.again d elsewhere).namespaces = ds.namespaces := by
  unfold namespaces
  rw [flatMap_again elsewhere _ rfl]
  congr 1
  refine Std.ExtTreeSet.ext_mem fun ns => ?_
  simp only [Std.ExtTreeSet.mem_ofList, List.contains_iff_mem, List.mem_append]
  constructor
  · rintro (hns | hns)
    · exact hns
    · exact mem_flatMap h _ ns hns
  · exact Or.inl

theorem knownTypes_again : (ds.again d elsewhere).knownTypes = ds.knownTypes := by
  rw [knownTypes_eq, knownTypes_eq, schemas_again, List.map_append,
    foldl_listUnder_append_known fun e he => ?_]
  obtain ⟨_, copied, rfl⟩ := List.mem_map.mp he
  obtain ⟨s, hs, rfl⟩ := List.mem_map.mp copied
  exact mem_schemas h hs

end Documents

namespace Interface

/-- A copy of a document that is there, wherever it comes from, makes no difference: the interface
is the same in all that it has, or the same error stands for it. -/
theorem ofDocuments_again {ds : Documents} {d : Document} (h : d ∈ ds.inOrder)
    (elsewhere : Locator) (choices : Choices) :
    ofDocuments ⟨ds.inOrder ++ [{ d with locator := elsewhere }]⟩ choices =
      ofDocuments ds choices := by
  have context (g : TypeGraph) :
      BindingContext.of (ds.again d elsewhere) g = BindingContext.of ds g := by
    rw [BindingContext.of, BindingContext.of, Documents.serviceDeclarations_again elsewhere h]
  have listed (g : TypeGraph) : namespaces (ds.again d elsewhere) g = namespaces ds g := by
    rw [namespaces, namespaces, Documents.namespaces_again elsewhere h]
  have whole : ofDocuments (ds.again d elsewhere) choices = ofDocuments ds choices := by
    simp only [ofDocuments, Documents.symbols_again elsewhere h, context, listed,
      Documents.knownTypes_again elsewhere h]
  exact whole

/-- A document with a type and an operation, read once more from another place. -/
theorem ofDocuments_again_lackingDocuments : ∃ d, lackingDocuments.inOrder = [d] ∧
    ofDocuments ⟨[d, { d with locator := elsewhere }]⟩ noChoices =
      ofDocuments lackingDocuments noChoices ∧
    ∃ i, ofDocuments lackingDocuments noChoices = .ok i ∧ lackingService ∈ i.services := by
  obtain ⟨d, hd⟩ : ∃ d, lackingDocuments.inOrder = [d] := ⟨_, rfl⟩
  have mem : d ∈ lackingDocuments.inOrder := by
    rw [hd]
    exact List.mem_cons_self
  have same := ofDocuments_again mem elsewhere noChoices
  rw [hd] at same
  obtain ⟨i, hi, _, service⟩ := ofDocuments_lackingDocuments
  exact ⟨d, hd, same, i, hi, service⟩

end Interface

end SoapBindings
