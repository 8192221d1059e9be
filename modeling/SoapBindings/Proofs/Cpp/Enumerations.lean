import SoapBindings.Proofs.Cpp.Scopes
import SoapBindings.Proofs.Cpp.Suffixes

/-!
# The scopes of enumerations

The values of an enumeration are of a type that its class holds, and their enumerators stand in the
scope of the class beside that type. All of these names are taken from one scope, which the name of
the class was put into as well; but the class was named before, and keeps its name also where that
is a name of this scope. Class names begin with no small letter, so this is the name of the type of
the values and no other: an enumeration has all its names for one thing each exactly where it is not
called `Type` itself (`nodup_enumerationScope_iff`).
-/

set_option autoImplicit false

namespace SoapBindings.Cpp

/-- The names in the scope of an enumeration: its own, those of its methods, the type of its values
and what asks for it, and the enumerators. -/
def EnumerationClass.scopeNames (c : EnumerationClass) : List String :=
  (Class.enumeration c).scopeNames ++ ["Type", "type"] ++ c.values.map (·.name)

namespace ClassContext

variable {c : ClassContext} {id : TypeId} {name : String} {n : TypeNode} {literals : List String}

theorem takes_enumerators (code : String) (literals : List String) (scope : Scope) :
    Takes scope ((enumerators code literals scope).1.map (·.name))
      (enumerators code literals scope).2 := by
  rw [List.map_eq_flatMap]
  exact .mapM (fun literal _ scope => .takeName (enumeratorCandidate literal) code scope) scope

theorem scopeNames_enumerationClass_perm (c : ClassContext) (id : TypeId) (name : String)
    (n : TypeNode) (literals : List String) :
    (c.enumerationClass id name n literals).scopeNames.Perm
      (name :: (c.enumerationClass id name n literals).values.map (·.name) ++
        enumerationNames) := by
  have own : (Class.enumeration (c.enumerationClass id name n literals)).scopeNames ++
      ["Type", "type"] = name :: ["toString", "fromString", "serialize", "deserialize", "Type",
        "type"] := rfl
  rw [EnumerationClass.scopeNames, own]
  refine List.Perm.cons name ?_
  refine List.perm_append_comm.trans (List.Perm.append_left _ ?_)
  decide

/-- The names differ unless the class is called like the type of its values. -/
theorem nodup_scopeNames_iff (h : IsClassName name) :
    (c.enumerationClass id name n literals).scopeNames.Nodup ↔ name ≠ "Type" := by
  rw [(c.scopeNames_enumerationClass_perm id name n literals).nodup_iff]
  constructor
  · rintro nodup rfl
    have twice : "Type" ∈ (c.enumerationClass id "Type" n literals).values.map (·.name) ++
        enumerationNames := List.mem_append_right _ (by decide)
    exact (List.nodup_cons.mp nodup).1 twice
  · intro other
    have free : name ∉ enumerationNames := by
      intro taken
      have small : ∀ r ∈ enumerationNames, r = "Type" ∨ ¬ NoSmallStart r.toList := by decide
      rcases small name taken with same | small
      · exact other same
      · exact small h.start
    exact nodup_scope h free (by decide) (takes_enumerators (c.code id.ns) literals _)

end ClassContext

/-- A class is called `Type` if that is the name its type would like to have, and it is free. -/
theorem takeName_eq_type_iff {candidate code : String} {taken : Scope} :
    (takeName candidate code taken).1 = "Type" ↔ candidate = "Type" ∧ "Type" ∉ taken.names := by
  have identifier : IsIdentifier "Type" := by decide
  have plain : '_' ∉ "Type".toList := by decide
  rw [takeName_eq_iff plain, sanitize_eq_iff identifier plain]

/-- Whatever class names are taken, all that the class of an enumeration calls by name in its scope
is called differently, but for an enumeration whose class gets the name of the type of its values:
one that would like to be called so where no other class is. -/
theorem nodup_enumerationScope_iff (types : TypeTable) (namespaces : List String)
    (wishes : NamespaceCodes.Wishes) (classNames : Std.ExtTreeMap TypeId String) (taken : Scope)
    (id : TypeId) (n : TypeNode) (literals : List String) :
    let c : ClassContext := ⟨types, .ofNamespaces namespaces wishes, classNames⟩
    let name := (takeName (classCandidate id) (c.code id.ns) taken).1
    (c.enumerationClass id name n literals).scopeNames.Nodup ↔
      ¬ (classCandidate id = "Type" ∧ "Type" ∉ taken.names) := by
  intro c name
  have code : IsIdentifier (c.code id.ns) := isIdentifier_code namespaces wishes id.ns
  have capital : IsClassName name :=
    isClassName_takeName (noSmallStart_classCandidate id) code
  rw [ClassContext.nodup_scopeNames_iff capital, ← takeName_eq_type_iff]

/-! ## An enumeration that is called like the type of its values -/

section

open OrderedGraph Relation

/-- A type that refers to no other is put in order, and its class is called as the type would
like. -/
theorem exists_single (id : TypeId) {n : TypeNode} (codes : NamespaceCodes)
    (alone : ∀ e ∈ n.needs, e.2.node? = none) :
    ∃ o, ofGraph ⟨(∅ : TypeTable).insert id n, ∅⟩ codes = .ok o ∧ id ∈ o.order ∧
      (contextOf o codes).types[id]? = some n ∧
      (contextOf o codes).classNames[id]? =
        some (takeName (classCandidate id) ((codes.code? id.ns).getD "ns") (.reserving [])).1 := by
  let g : TypeGraph := ⟨(∅ : TypeTable).insert id n, ∅⟩
  have acyclic : ∀ a, ¬ TransGen g.NeedsComplete a a := by
    intro a cycle
    obtain ⟨b, ⟨_, n', need, hn, hneed, _⟩, _⟩ := TransGen.head'_iff.mp cycle
    rcases getElem?_insert_eq_some_iff.mp hn with ⟨_, rfl⟩ | ⟨_, hn⟩
    · cases alone _ hneed
    · simp at hn
  obtain ⟨o, ok, graph⟩ := ofGraph_of_acyclic acyclic
  have order : o.order = [id] := by
    refine List.perm_singleton.mp ?_
    refine (List.perm_ext_iff_of_nodup ?_ (List.nodup_singleton id)).mpr fun a => ?_
    · exact (order_perm ok).nodup_iff.mpr (nodup_keys _)
    · rw [mem_order ok, graph, List.mem_singleton, mem_insert_iff]
      simp [eq_comm]
  refine ⟨o, ok, by rw [order]; exact List.mem_singleton_self id, ?_, ?_⟩
  · show o.graph.types[id]? = some n
    rw [graph]
    exact Std.ExtTreeMap.getElem?_insert_self
  · rw [contextOf, order]
    exact Std.ExtTreeMap.getElem?_insert_self

def kindId : TypeId := .named ⟨"urn:t", "Type"⟩

/-- A text that is one of two. -/
def kindNode : TypeNode where
  kind := .enumeration (.builtin .string) ["open", "closed"]
  base := none
  isAbstract := false
  documentation := none
  origin := default

/-- The class of an enumeration with the name `Type` is called like the type of its values. -/
theorem not_nodup_kind : ∃ o e,
    ofGraph ⟨(∅ : TypeTable).insert kindId kindNode, ∅⟩ (.ofNamespaces ["urn:t"] ∅) = .ok o ∧
      .enumeration e ∈ classes ⟨false, true, true, true⟩ o [] (.ofNamespaces ["urn:t"] ∅) ∧
      ¬ e.scopeNames.Nodup := by
  let codes : NamespaceCodes := .ofNamespaces ["urn:t"] ∅
  have needs : kindNode.needs = [(.simpleBase, .builtin .string)] := by cbv
  obtain ⟨o, ok, ordered, node, named⟩ := exists_single kindId codes (n := kindNode)
    (by simp [needs, TypeRef.node?])
  have candidate : classCandidate kindId = "Type" := by cbv
  have free : "Type" ∉ (Scope.reserving []).names := List.not_mem_nil
  rw [takeName_eq_type_iff.mpr ⟨candidate, free⟩] at named
  have capital : IsClassName "Type" := ⟨by decide, by decide⟩
  let e := (contextOf o codes).enumerationClass kindId "Type" kindNode ["open", "closed"]
  refine ⟨o, e, ok, mem_classes_of_typeClass? ordered ?_, ?_⟩
  · rw [ClassContext.typeClass?, node, named]
    rfl
  · exact fun nodup => (ClassContext.nodup_scopeNames_iff capital).mp nodup rfl

end

end SoapBindings.Cpp
