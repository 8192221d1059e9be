import SoapBindings.Proofs.Schema.Merging
import SoapBindings.Schema.Leaves

/-!
# Declarations without their places

`Symbols.unlocated` forgets which documents declare what. Two tables that hold the same declarations
are equal then (`unlocated_eq_of_holds`), and whatever is read off the declarations is the same as
before: what a type uses and what is declared in place. Each of these is one equation, tagged for
`simp`, and follows the recursion of what it is about.
-/

set_option autoImplicit false

namespace SoapBindings

section

variable {κ α β : Type} [Ord κ] [Std.TransOrd κ] [Std.LawfulEqOrd κ]

theorem erase_map (table : Std.ExtTreeMap κ α) (f : κ → α → β) (key : κ) :
    (table.map f).erase key = (table.erase key).map f := by
  apply Std.ExtTreeMap.ext_getElem?
  intro other
  rw [Std.ExtTreeMap.getElem?_map, Std.ExtTreeMap.getElem?_erase, Std.ExtTreeMap.getElem?_erase]
  split
  · rfl
  · rw [Std.ExtTreeMap.getElem?_map]

theorem insert_map (table : Std.ExtTreeMap κ α) (f : α → β) (key : κ) (a : α) :
    (table.map fun _ a => f a).insert key (f a) = (table.insert key a).map fun _ a => f a := by
  apply Std.ExtTreeMap.ext_getElem?
  intro other
  rw [Std.ExtTreeMap.getElem?_map, Std.ExtTreeMap.getElem?_insert, Std.ExtTreeMap.getElem?_insert]
  split
  · rfl
  · rw [Std.ExtTreeMap.getElem?_map]

end

namespace Schema

variable {α : Type}

/-- The declaration alone. -/
def Declared.unlocated (d : Declared α) : Declared α := ⟨d.decl, "", default⟩

@[simp] theorem Declared.decl_unlocated (d : Declared α) : d.unlocated.decl = d.decl := rfl

def unlocatedTable (table : NameTable (Declared α)) : NameTable (Declared α) :=
  table.map fun _ d => d.unlocated

@[simp] theorem getElem?_unlocatedTable (table : NameTable (Declared α)) (name : QName) :
    (unlocatedTable table)[name]? = table[name]?.map (·.unlocated) :=
  Std.ExtTreeMap.getElem?_map

@[simp] theorem contains_unlocatedTable (table : NameTable (Declared α)) (name : QName) :
    (unlocatedTable table).contains name = table.contains name :=
  Std.ExtTreeMap.contains_map

@[simp] theorem toList_unlocatedTable (table : NameTable (Declared α)) :
    (unlocatedTable table).toList = table.toList.map fun e => (e.1, e.2.unlocated) :=
  Std.ExtTreeMap.toList_map

theorem erase_unlocatedTable (table : NameTable (Declared α)) (name : QName) :
    (unlocatedTable table).erase name = unlocatedTable (table.erase name) :=
  erase_map ..

/-- Tables that hold the same are equal when places are forgotten. -/
theorem unlocated_eq_of_holds {table table' : NameTable (Declared α)}
    {declared declared' : List (QName × α)} (h : Holds table declared) (h' : Holds table' declared')
    (same : ∀ e, e ∈ declared ↔ e ∈ declared') : unlocatedTable table = unlocatedTable table' := by
  apply Std.ExtTreeMap.ext_getElem?
  intro name
  have decls : table[name]?.map (·.decl) = table'[name]?.map (·.decl) := by
    apply Option.ext
    intro a
    rw [Option.map_eq_some_iff, Option.map_eq_some_iff, h name a, h' name a, same]
  have unlocated (found : Option (Declared α)) : found.map (·.unlocated) =
      (found.map (·.decl)).map fun a => (⟨a, "", default⟩ : Declared α) := by
    rw [Option.map_map]
    rfl
  rw [getElem?_unlocatedTable, getElem?_unlocatedTable, unlocated, unlocated, decls]

namespace Symbols

/-- The declarations without the documents that they come from. -/
def unlocated (s : Symbols) : Symbols where
  types := unlocatedTable s.types
  elements := unlocatedTable s.elements
  attributes := unlocatedTable s.attributes
  groups := unlocatedTable s.groups
  attributeGroups := unlocatedTable s.attributeGroups

variable {s s' : Symbols} {schemas schemas' : List (Locator × Declarations)}

@[simp] theorem types_unlocated : s.unlocated.types = unlocatedTable s.types := rfl

@[simp] theorem elements_unlocated : s.unlocated.elements = unlocatedTable s.elements := rfl

@[simp] theorem attributes_unlocated : s.unlocated.attributes = unlocatedTable s.attributes := rfl

@[simp] theorem groups_unlocated : s.unlocated.groups = unlocatedTable s.groups := rfl

@[simp] theorem attributeGroups_unlocated :
    s.unlocated.attributeGroups = unlocatedTable s.attributeGroups := rfl

theorem HoldsAll.unlocated_eq (h : s.HoldsAll schemas) (h' : s'.HoldsAll schemas')
    (same : ∀ d, d ∈ schemas.map (·.2) ↔ d ∈ schemas'.map (·.2)) :
    s.unlocated = s'.unlocated := by
  have mem {α : Type} (of : Declarations → List (String × α)) (e : QName × α) :
      e ∈ declaredIn of schemas ↔ e ∈ declaredIn of schemas' := by
    simp only [mem_declaredIn, same]
  unfold unlocated
  congr 1
  · exact unlocated_eq_of_holds h.types h'.types (mem _)
  · exact unlocated_eq_of_holds h.elements h'.elements (mem _)
  · exact unlocated_eq_of_holds h.attributes h'.attributes (mem _)
  · exact unlocated_eq_of_holds h.groups h'.groups (mem _)
  · exact unlocated_eq_of_holds h.attributeGroups h'.attributeGroups (mem _)

/-! ## Leaves -/

@[simp] theorem elementLeaf_unlocated (context : String) (name : QName) (occurs : Occurs) :
    s.unlocated.elementLeaf context name occurs = s.elementLeaf context name occurs := by
  unfold elementLeaf
  rw [elements_unlocated, getElem?_unlocatedTable]
  cases s.elements[name]? with
  | none => rfl
  | some d => rfl

@[simp] theorem attributeRefLeaf_unlocated (context : String) (name : QName) (usage : Usage) :
    s.unlocated.attributeRefLeaf context name usage = s.attributeRefLeaf context name usage := by
  unfold attributeRefLeaf
  rw [attributes_unlocated, getElem?_unlocatedTable]
  cases s.attributes[name]? with
  | none => rfl
  | some d => rfl

theorem itemPieces_unlocated (context : String) (available : Groups) (occurs : Occurs)
    (optional : Bool) (place : Enclosure) (i : Nat) (items : List GroupItem) :
    s.unlocated.itemPieces context (unlocatedTable available) occurs optional place i items =
      s.itemPieces context available occurs optional place i items := by
  induction available, occurs, optional, place, i, items using itemPieces.induct with
  | case1 available occurs optional place i => rw [itemPieces, itemPieces]
  | case2 available occurs optional place i d own rest ih => rw [itemPieces, itemPieces, ih]
  | case3 available occurs optional place i name own rest ih =>
    rw [itemPieces, itemPieces, ih, elementLeaf_unlocated]
  | case4 available occurs optional place i compositor own items rest inner ih =>
    rw [itemPieces, itemPieces, inner, ih]
  | case5 available occurs optional place i name own rest inner ih =>
    rw [itemPieces_cons_groupRef, itemPieces_cons_groupRef, getElem?_unlocatedTable, ih]
    cases hfirst : available[name]? with
    | none => rw [Option.map_none, groups_unlocated, contains_unlocatedTable]
    | some first =>
      dsimp only [Option.map_some]
      rw [erase_unlocatedTable]
      exact congrArg (· ++ _) (inner first hfirst)
  | case6 available occurs optional place i own rest ih => rw [itemPieces, itemPieces, ih]

@[simp] theorem groupPieces_unlocated (context : String) (place : Enclosure) (g : ModelGroup) :
    s.unlocated.groupPieces context place g = s.groupPieces context place g :=
  itemPieces_unlocated ..

theorem attributePieces_unlocated (context : String) (available : AttributeGroups)
    (place : Enclosure) (i : Nat) (items : List AttributeItem) :
    s.unlocated.attributePieces context (unlocatedTable available) place i items =
      s.attributePieces context available place i items := by
  induction available, place, i, items using attributePieces.induct with
  | case1 available place i => rw [attributePieces, attributePieces]
  | case2 available place i d rest ih => rw [attributePieces, attributePieces, ih]
  | case3 available place i name usage rest ih =>
    rw [attributePieces, attributePieces, ih, attributeRefLeaf_unlocated]
  | case4 available place i name rest inner ih =>
    rw [attributePieces_cons_groupRef, attributePieces_cons_groupRef, getElem?_unlocatedTable, ih]
    cases hfirst : available[name]? with
    | none => rw [Option.map_none, attributeGroups_unlocated, contains_unlocatedTable]
    | some first =>
      dsimp only [Option.map_some]
      rw [erase_unlocatedTable]
      exact congrArg (· ++ _) (inner first hfirst)

@[simp] theorem elementsOf_unlocated (context : String) (place : Enclosure) (t : ComplexType) :
    s.unlocated.elementsOf context place t = s.elementsOf context place t := by
  have same : s.unlocated.groupPieces context (place.step 0) =
      s.groupPieces context (place.step 0) := funext fun g => groupPieces_unlocated ..
  unfold elementsOf
  rw [same]

@[simp] theorem attributesOf_unlocated (context : String) (place : Enclosure) (t : ComplexType) :
    s.unlocated.attributesOf context place t = s.attributesOf context place t := by
  unfold attributesOf
  rw [attributeGroups_unlocated, attributePieces_unlocated]

@[simp] theorem uses_unlocated (context : String) (place : Enclosure) (t : TypeDecl) :
    s.unlocated.uses context place t = s.uses context place t := by
  cases t with
  | simple t => rfl
  | complex t => rw [uses, uses, elementsOf_unlocated, attributesOf_unlocated]

/-! ## Types declared in place -/

@[simp] theorem inlineTypes_unlocated : s.unlocated.inlineTypes = s.inlineTypes := by
  unfold inlineTypes
  simp only [types_unlocated, elements_unlocated, attributes_unlocated, groups_unlocated,
    attributeGroups_unlocated, toList_unlocatedTable, List.flatMap_map, Declared.decl_unlocated]

@[simp] theorem locator?_unlocated (site : Site) :
    s.unlocated.locator? site = (s.locator? site).map fun _ => default := by
  unfold locator?
  cases site.kind with
  | type | element | attr | group | attributeGroup =>
    simp only [types_unlocated, elements_unlocated, attributes_unlocated, groups_unlocated,
      attributeGroups_unlocated, getElem?_unlocatedTable, Option.map_map]
    rfl
  | message | binding | portType => rfl

end Symbols

end Schema

end SoapBindings
