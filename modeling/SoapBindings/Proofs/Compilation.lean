import Mathlib
import SoapBindings.Compilation
import SoapBindings.Proofs.Cpp.Order
import SoapBindings.Proofs.Interface.Building
import SoapBindings.Proofs.Interface.Tainting
import SoapBindings.Proofs.Ordering.Linear

/-!
# Compilations without unused types

Unused types are dropped together with everything that could be missing
(`Interface.Stages.complete_pruned`), and the order names every type that is left. So the classes of
a compilation have all that their types and operations have (`classes_keepAll`). Whether they are
dropped or not, the classes can be written in the order in which they are listed
(`declaredInOrder_ofDocuments`).
-/

set_option autoImplicit false

namespace SoapBindings.Compilation

open Relation

variable {s : Settings} {ds : Documents} {c : Compilation}

/-- What classes are generated for. -/
def keptOf (s : Settings) (whole : Interface) : Interface :=
  if s.keepUnused then whole else whole.pruned

theorem ofDocuments_eq_ok (h : ofDocuments s ds = .ok c) : ∃ whole o,
    Interface.ofDocuments ds s.choices = .ok whole ∧
      OrderedGraph.ofGraph (keptOf s whole).graph (keptOf s whole).codes = .ok o ∧
      c.classes = Cpp.classes s.forms o (keptOf s whole).services (keptOf s whole).codes := by
  rw [ofDocuments] at h
  cases hwhole : Interface.ofDocuments ds s.choices with
  | error e =>
    rw [hwhole] at h
    cases h
  | ok whole =>
    cases ho : OrderedGraph.ofGraph (keptOf s whole).graph (keptOf s whole).codes with
    | error cycle =>
      rw [keptOf] at ho
      simp only [hwhole, bind, Except.bind, ho, Except.mapError] at h
      cases h
    | ok o =>
      rw [keptOf] at ho
      simp only [hwhole, bind, Except.bind, ho, Except.mapError] at h
      cases h
      exact ⟨whole, o, rfl, ho, rfl⟩

theorem ofDocuments_of_stages {whole : Interface} {o : OrderedGraph}
    (hwhole : Interface.ofDocuments ds s.choices = .ok whole)
    (ho : OrderedGraph.ofGraph (keptOf s whole).graph (keptOf s whole).codes = .ok o) :
    ∃ c, ofDocuments s ds = .ok c := by
  rw [keptOf] at ho
  simp only [ofDocuments, hwhole, bind, Except.bind, ho, Except.mapError]
  exact ⟨_, rfl⟩

/-- If unused types are dropped, every type that is left has a class with all that the type has, and
every valid operation is in the classes of its service with all parts of its messages. -/
theorem classes_keepAll (h : ofDocuments s ds = .ok c) (dropped : s.keepUnused = false) :
    ∃ whole o, Interface.ofDocuments ds s.choices = .ok whole ∧
      OrderedGraph.ofGraph whole.pruned.graph whole.pruned.codes = .ok o ∧
      (∀ id, id ∈ o.order ↔ id ∈ whole.pruned.graph.types) ∧
      Cpp.KeepAll s.forms o whole.services c.classes := by
  obtain ⟨whole, o, hwhole, ho, classes⟩ := ofDocuments_eq_ok h
  rw [keptOf, dropped, if_neg Bool.false_ne_true] at ho classes
  obtain ⟨symbols, stages⟩ := Interface.ofDocuments_eq_ok hwhole
  refine ⟨whole, o, hwhole, ho, fun id => ?_, classes ▸ Cpp.keepAll_classes s.forms ?_ ?_ ?_⟩
  · rw [(OrderedGraph.order_perm ho).mem_iff, Std.ExtTreeMap.mem_keys]
  · exact fun id => OrderedGraph.mem_order ho
  · exact OrderedGraph.complete_ofGraph ho stages.complete_pruned
  · intro service hs op hop r hr
    exact OrderedGraph.provides_ofGraph ho (stages.provides_pruned hs hop hr)

/-- The classes of a compilation can be written as they are listed, and what members point to are
classes only: nothing that is declared is held by a pointer until cycles are broken. -/
theorem declaredInOrder_ofDocuments (h : ofDocuments s ds = .ok c) :
    Cpp.DeclaredInOrder c.classes ∧
      ∀ cls ∈ c.classes, ∀ m ∈ cls.members, m.isShared → ∀ b, m.value.kind ≠ .builtin b := by
  obtain ⟨whole, o, hwhole, ho, classes⟩ := ofDocuments_eq_ok h
  rw [classes]
  refine ⟨Cpp.declaredInOrder_classes ho .., fun cls hcls m hm shared b kind => ?_⟩
  obtain ⟨id, n, hn, p, hp, byReference, _⟩ := Cpp.exists_pointer ho hcls hm shared kind
  obtain ⟨symbols, stages⟩ := Interface.ofDocuments_eq_ok hwhole
  obtain ⟨missed, hg⟩ := stages.graph
  have hn : whole.graph.types[id]? = some n := by
    unfold keptOf at hn
    split at hn
    · exact hn
    · exact (Interface.getElem?_pruned.mp hn).1
  rw [TypeGraph.holding_ofSymbols hg hn hp] at byReference
  cases byReference

/-! ## A type that one operation uses -/

open Interface

/-- Clients and jobs, and no type that is not used. -/
def plainSettings : Settings where
  start := default
  outputs := .header "c.h"
  server := false
  service := none
  codes := ∅
  style := .stdOptional
  keepUnused := false
  copies := []
  localOnly := true
  helpOnMissing := false
  noSync := false
  noAsync := false
  noJobs := false
  ns := none
  exportMacro := none
  description := none

/-- The only type has a member of a built-in type, so nothing needs a type complete. -/
theorem not_needsComplete_lacking {i : Interface} (graph : i.graph = lackingGraph) (a b : TypeId) :
    ¬ i.pruned.graph.NeedsComplete a b := by
  rintro ⟨_, n, need, hn, hneed, _⟩
  have hn := (getElem?_pruned.mp hn).1
  rw [graph, lackingGraph, TypeGraph.getElem?_draft (AnonymousPaths.named_ofSymbols lackingSymbols),
    ← TypeGraph.allEntries, allEntries_lackingSymbols] at hn
  obtain ⟨e, he, _, rfl⟩ := hn
  obtain rfl := List.mem_singleton.mp he
  have needs : (TypeGraph.node lackingSymbols (AnonymousPaths.ofSymbols lackingSymbols)
      lackingEntry).needs = [(.member 0 .byValue, .builtin .int)] := by cbv
  rw [needs] at hneed
  cases List.mem_singleton.mp hneed

/-- The documents compile, and the type of the part is among those that have classes. -/
theorem classes_keepAll_lackingDocuments : ∃ c, ofDocuments plainSettings lackingDocuments = .ok c ∧
    ∃ whole o, Interface.ofDocuments lackingDocuments plainSettings.choices = .ok whole ∧
      OrderedGraph.ofGraph whole.pruned.graph whole.pruned.codes = .ok o ∧
      .named typeName ∈ o.order ∧ Cpp.KeepAll plainSettings.forms o whole.services c.classes := by
  obtain ⟨i, hi, graph, hservice⟩ := ofDocuments_lackingDocuments
  have acyclic : ∀ a, ¬ TransGen i.pruned.graph.NeedsComplete a a := by
    intro a cycle
    obtain ⟨b, hab, _⟩ := TransGen.head'_iff.mp cycle
    exact not_needsComplete_lacking graph a b hab
  have ordered : ∃ o, OrderedGraph.ofGraph i.pruned.graph i.pruned.codes = .ok o ∧ o.graph = _ :=
    OrderedGraph.ofGraph_of_acyclic acyclic
  obtain ⟨o, ho, _⟩ := ordered
  obtain ⟨c, hc⟩ := ofDocuments_of_stages (s := plainSettings) hi ho
  obtain ⟨whole, o, hwhole, ho, order, keeps⟩ := classes_keepAll hc rfl
  refine ⟨c, hc, whole, o, hwhole, ho, (order _).mpr ?_, keeps⟩
  obtain rfl := Except.ok.inj (hi.symm.trans hwhole)
  obtain ⟨op, hop, hpart⟩ := lackingOperation_valid
  exact mem_pruned.mpr ⟨graph ▸ mem_lackingGraph, .named typeName,
    mem_roots.mpr ⟨lackingService, hservice, op, hop, hpart⟩, .refl⟩

end SoapBindings.Compilation
