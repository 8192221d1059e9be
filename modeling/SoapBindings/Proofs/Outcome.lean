import SoapBindings.Proofs.Compilation
import SoapBindings.Proofs.Files.Writing
import SoapBindings.Proofs.Interface.Conflicts
import SoapBindings.Proofs.Loading.Inclusion

/-!
# What a failing command leaves behind

A command touches no file before the texts of all files are there, so a command that fails before
that leaves everything as it was. The files are then written one after the other, and a file that
cannot be written stops this: the files before it stay written (`Arguments.run_failed`). A command
that fails has thus changed nothing exactly if the files before the one that was refused had held
their texts already, and `not_unchanged_blocked` is a command that fails and has changed something.
-/

set_option autoImplicit false

namespace SoapBindings

open Files

namespace Files

/-! ## Paths with different endings -/

theorem exists_getLast?_splitWhere (separates : Char → Bool) {cs : List Char} {c : Char}
    (last : cs.getLast? = some c) (inside : separates c = false) :
    ∃ part, (Text.splitWhere separates cs).getLast? = some part ∧ part.getLast? = some c := by
  induction cs with
  | nil => cases last
  | cons d cs ih =>
    -- A character before the last one changes the first part at most, and this may be the last.
    cases cs with
    | nil =>
      obtain rfl : d = c := Option.some.inj last
      exact ⟨[d], by simp [Text.splitWhere, inside]⟩
    | cons e es =>
      obtain ⟨part, hpart, hc⟩ := ih last
      rw [Text.splitWhere]
      cases hparts : Text.splitWhere separates (e :: es) with
      | nil => simp [hparts] at hpart
      | cons first more =>
        rw [hparts] at hpart
        split
        · exact ⟨part, by rw [List.getLast?_cons_cons, hpart], hc⟩
        · cases more with
          | nil =>
            obtain rfl : first = part := Option.some.inj hpart
            refine ⟨d :: first, rfl, ?_⟩
            rw [List.getLast?_cons, hc]
            rfl
          | cons second more => exact ⟨part, hpart, hc⟩

/-- A path that does not end with a slash or a dot ends with a name, which ends as the path does. -/
theorem exists_getLast?_components {path : String} {c : Char}
    (last : path.toList.getLast? = some c) (noSlash : c ≠ '/') (noDot : c ≠ '.') :
    ∃ name, (components path).getLast? = some (.name name) ∧ name.toList.getLast? = some c := by
  obtain ⟨part, hpart, hc⟩ := exists_getLast?_splitWhere (· == '/') last
    (beq_eq_false_iff_ne.mpr noSlash)
  obtain ⟨before, hbefore⟩ := List.getLast?_eq_some_iff.mp hpart
  refine ⟨String.ofList part, ?_, by rwa [String.toList_ofList]⟩
  have named : part ≠ [] ∧ part ≠ ['.'] ∧ part ≠ ['.', '.'] := by
    refine ⟨?_, ?_, ?_⟩ <;>
    · rintro rfl
      simp at hc
      try exact absurd hc.symm noDot
  rw [components, hbefore, List.filterMap_append]
  simp [named]

namespace Workspace

variable {w : Workspace} {place : Place}

theorem getLast?_absolute {path : String} {c : Char} (last : path.toList.getLast? = some c) :
    (w.absolute path).toList.getLast? = some c := by
  rw [absolute]
  split
  · exact last
  · rw [joinPath]
    split
    · exact last
    · split
      · rw [String.toList_append, List.getLast?_append, last]
        rfl
      · rw [String.toList_append, List.getLast?_append, last]
        rfl

theorem leads_apart {path other : String} {c d : Char} (hc : path.toList.getLast? = some c)
    (hd : other.toList.getLast? = some d) (differ : c ≠ d) (plain : ∀ e ∈ [c, d], e ∉ ['/', '.'])
    (leads : w.PathLeads path place) : ¬ w.PathLeads other place := by
  intro leads'
  simp only [List.mem_cons, List.not_mem_nil, or_false, forall_eq_or_imp, forall_eq, not_or]
    at plain
  obtain ⟨name, hname, namec⟩ :=
    exists_getLast?_components (getLast?_absolute hc) plain.1.1 plain.1.2
  obtain ⟨name', hname', named⟩ :=
    exists_getLast?_components (getLast?_absolute hd) plain.2.1 plain.2.2
  have atEnd := Tree.getLast?_of_walk (Tree.walk_of_locate leads) hname
  have atEnd' := Tree.getLast?_of_walk (Tree.walk_of_locate leads') hname'
  obtain rfl := Option.some.inj (atEnd.symm.trans atEnd')
  exact differ (Option.some.inj (namec.symm.trans named))

end Workspace

end Files

namespace OutputFile

/-- The file has its text. -/
def StandsIn (w : Workspace) (file : OutputFile) : Prop :=
  w.read file.path = .ok file.content.toUTF8

/-- Whatever else there is, the two files are not at one place. -/
def Apart (f g : OutputFile) : Prop :=
  ∀ (w : Workspace) (place : Place), w.PathLeads f.path place → ¬ w.PathLeads g.path place

theorem Apart.symm {f g : OutputFile} (h : f.Apart g) : g.Apart f :=
  fun w place leads leads' => h w place leads' leads

end OutputFile

namespace Compilation

variable {w w' : Workspace} {files : List OutputFile}

/-- Files are written, one after the other. -/
inductive Written : List OutputFile → Workspace → Workspace → Prop where
  | nil (w : Workspace) : Written [] w w
  | cons {file : OutputFile} {rest : List OutputFile} {w w₁ w₂ : Workspace}
      (wrote : w.write file.path file.content.toUTF8 = .ok w₁) (more : Written rest w₁ w₂) :
      Written (file :: rest) w w₂

namespace Written

theorem standsIn_of_apart {file : OutputFile} (h : Written files w w')
    (apart : ∀ g ∈ files, file.Apart g) (before : file.StandsIn w) : file.StandsIn w' := by
  induction h with
  | nil => exact before
  | cons wrote _ ih =>
    obtain ⟨first, rest⟩ := List.forall_mem_cons.mp apart
    exact ih rest (Workspace.read_of_write_elsewhere wrote (first.symm _) before)

/-- What is written stays if nothing is written to one place twice. -/
theorem standsIn (h : Written files w w') (apart : files.Pairwise OutputFile.Apart) :
    ∀ file ∈ files, file.StandsIn w' := by
  induction h with
  | nil => exact nofun
  | cons wrote more ih =>
    obtain ⟨first, rest⟩ := List.pairwise_cons.mp apart
    refine List.forall_mem_cons.mpr ⟨?_, ih rest⟩
    exact more.standsIn_of_apart first (Workspace.read_of_write wrote)

/-- Nothing changes where none of the files is. -/
theorem entry?_eq (h : Written files w w') {place : Place}
    (elsewhere : ∀ file ∈ files, ¬ w.PathLeads file.path place) :
    w'.tree.entry? place = w.tree.entry? place := by
  induction h with
  | nil => rfl
  | cons wrote _ ih =>
    obtain ⟨first, rest⟩ := List.forall_mem_cons.mp elsewhere
    refine (ih fun file hfile leads => ?_).trans (Workspace.entry?_of_write wrote first)
    exact rest file hfile (Workspace.leads_of_write wrote leads)

theorem eq_of_standsIn (h : Written files w w') (before : ∀ file ∈ files, file.StandsIn w) :
    w' = w := by
  induction h with
  | nil => rfl
  | cons wrote _ ih =>
    obtain ⟨first, rest⟩ := List.forall_mem_cons.mp before
    obtain rfl := Workspace.eq_of_write_of_read wrote first
    exact ih rest

end Written

/-- Where the writing of files has stopped: those before are written, and one is refused. -/
structure StopsAt (files : List OutputFile) (w w' : Workspace) (done : List OutputFile)
    (file : OutputFile) (refusal : Refusal) : Prop where
  before : done ++ [file] <+: files
  written : Written done w w'
  refused : w'.write file.path file.content.toUTF8 = .error refusal

/-- Writing files ends with all of them written, or it stops. -/
theorem writeFiles_cases {ε : Type} (files : List OutputFile) (w : Workspace) :
    (∃ told w', (writeFiles files w : Except (Failure ε) _ × _) = (.ok told, w') ∧
      Written files w w') ∨
    ∃ w' done file refusal, (writeFiles files w : Except (Failure ε) _ × _) =
      (.error (.write file.path refusal), w') ∧ StopsAt files w w' done file refusal := by
  induction files generalizing w with
  | nil => exact .inl ⟨[], w, rfl, .nil w⟩
  | cons file rest ih =>
    cases wrote : w.write file.path file.content.toUTF8 with
    | error refusal =>
      refine .inr ⟨w, [], file, refusal, ?_, ⟨rest, rfl⟩, .nil w, wrote⟩
      rw [writeFiles, wrote]
    | ok w₁ =>
      rcases ih w₁ with ⟨told, w₂, h, all⟩ | ⟨w₂, done, stopped, refusal, h, stops⟩
      · refine .inl ⟨(file.path ++ " file has been written") :: told, w₂, ?_, .cons wrote all⟩
        simp only [writeFiles, wrote, h, Except.map]
      · refine .inr ⟨w₂, file :: done, stopped, refusal, ?_, ?_, .cons wrote stops.written,
          stops.refused⟩
        · simp only [writeFiles, wrote, h, Except.map]
        · exact List.cons_prefix_cons.mpr ⟨rfl, stops.before⟩

/-! ## The files of a compilation -/

/-- The header and the implementation are at different places. -/
theorem apart_texts (s : Settings) (classes : List Cpp.Class) :
    (s.outputs.headerFile?.toList.map (OutputFile.mk · (Cpp.header s.layout classes)) ++
      s.outputs.implementationFile?.toList.map
        (OutputFile.mk · (Cpp.implementation s.layout classes))).Pairwise OutputFile.Apart := by
  cases s.outputs with
  | header path => exact List.pairwise_singleton _ _
  | implementation path included => exact List.pairwise_singleton _ _
  | both base =>
    refine List.pairwise_pair.mpr fun w place leads => ?_
    have header : (base ++ ".h").toList.getLast? = some 'h' := by simp
    have implementation : (base ++ ".cpp").toList.getLast? = some 'p' := by simp
    exact Workspace.leads_apart header implementation (by decide) (by simp) leads

/-- Files that are written before another one are the header and the implementation. -/
theorem apart_of_stopsAt {s : Settings} {classes : List Cpp.Class} {done : List OutputFile}
    {file : OutputFile} {refusal : Refusal}
    (h : StopsAt (outputFiles s classes) w w' done file refusal) :
    done.Pairwise OutputFile.Apart := by
  have single : (s.description.toList.map
      (OutputFile.mk · (Cpp.describe s.style classes))).length ≤ 1 := by
    cases s.description with
    | none => exact Nat.zero_le 1
    | some path => exact Nat.le_refl 1
  -- The description comes last, so it is not among the files before another one.
  have length := h.before.length_le
  rw [outputFiles, List.length_append, List.length_append, List.length_singleton] at length
  have prior : done <+: _ := List.prefix_of_prefix_length_le
    ((List.prefix_append done [file]).trans h.before) (List.prefix_append _ _) (by omega)
  exact (apart_texts s classes).sublist prior.sublist

theorem files_of_ofDocuments {s : Settings} {ds : Documents} {c : Compilation}
    (h : ofDocuments s ds = .ok c) : c.files = outputFiles s c.classes := by
  rw [ofDocuments] at h
  cases whole : Interface.ofDocuments ds s.choices with
  | error e => simp [whole, bind, Except.bind] at h
  | ok i =>
    simp only [whole, bind, Except.bind] at h
    split at h
    · cases h
    · cases h
      rfl

section

variable {σ ε : Type} {fetch : Fetcher σ ε} {bound : Nat} {s : Settings} {remote remote' : σ}

theorem files_of_ofSettings {c : Compilation}
    (h : ofSettings fetch w bound s remote = some (.ok c, remote')) :
    c.files = outputFiles s c.classes := by
  obtain ⟨⟨loaded, _⟩, _, result⟩ := Option.map_eq_some_iff.mp h
  cases loaded with
  | error error => cases (Prod.mk.inj result).1
  | ok ds =>
    cases compiled : ofDocuments s ds with
    | error error => simp [compiled, Except.mapError] at result
    | ok c' =>
      simp only [compiled, Except.mapError, Prod.mk.injEq, Except.ok.injEq] at result
      exact result.1 ▸ files_of_ofDocuments compiled

/-- Compiling writes nothing that could be refused. -/
theorem ne_write_of_ofSettings {failure : Failure ε}
    (h : ofSettings fetch w bound s remote = some (.error failure, remote')) (path : String)
    (refusal : Refusal) : failure ≠ .write path refusal := by
  obtain ⟨⟨loaded, _⟩, _, result⟩ := Option.map_eq_some_iff.mp h
  rintro rfl
  cases loaded with
  | error error => simp at result
  | ok ds => cases compiled : ofDocuments s ds <;> simp [compiled, Except.mapError] at result

end

/-- Some files are written, and nothing else is done. -/
structure Leaves (done : List OutputFile) (w w' : Workspace) : Prop where
  standing : ∀ file ∈ done, file.StandsIn w'
  elsewhere : ∀ place, (∀ file ∈ done, ¬ w.PathLeads file.path place) →
    w'.tree.entry? place = w.tree.entry? place
  unchanged_iff : w' = w ↔ ∀ file ∈ done, file.StandsIn w

theorem Written.leaves (h : Written files w w') (apart : files.Pairwise OutputFile.Apart) :
    Leaves files w w' where
  standing := h.standsIn apart
  elsewhere _ := h.entry?_eq
  unchanged_iff := ⟨fun same => same ▸ h.standsIn apart, h.eq_of_standsIn⟩

end Compilation

/-- A command that fails leaves everything as it was, unless a file cannot be written. Then the
files before that file are left, and all else is as it was. -/
theorem Arguments.run_failed {σ ε : Type} {fetch : Fetcher σ ε} {w : Workspace} {bound : Nat}
    {a : Arguments} {remote : σ} {out : Outcome σ ε} {failure : Failure ε}
    (h : a.run fetch w bound remote = some out) (failed : out.told = .error failure) :
    ((∀ path refusal, failure ≠ .write path refusal) ∧ out.workspace = w) ∨
    ∃ s c done file refusal, a.settings w = .ok s ∧
      Compilation.ofSettings fetch w bound s remote = some (.ok c, out.remote) ∧
      failure = .write file.path refusal ∧
      Compilation.StopsAt c.files w out.workspace done file refusal ∧
      Compilation.Leaves done w out.workspace := by
  rw [run] at h
  cases decided : a.settings w with
  | error fault =>
    simp only [decided, Option.some.injEq] at h
    subst h
    cases failed
    exact .inl ⟨nofun, rfl⟩
  | ok s =>
    simp only [decided] at h
    obtain ⟨⟨compiled, remote'⟩, hcompiled, hout⟩ := Option.map_eq_some_iff.mp h
    cases compiled with
    | error failure' =>
      subst hout
      cases failed
      exact .inl ⟨Compilation.ne_write_of_ofSettings hcompiled, rfl⟩
    | ok c =>
      rcases Compilation.writeFiles_cases (ε := ε) c.files w with
        ⟨told, w', wrote, _⟩ | ⟨w', done, file, refusal, wrote, stops⟩
      · simp only [wrote] at hout
        subst hout
        cases failed
      · simp only [wrote] at hout
        subst hout
        cases failed
        have files := Compilation.files_of_ofSettings hcompiled
        have apart := Compilation.apart_of_stopsAt (files ▸ stops)
        exact .inr ⟨s, c, done, file, refusal, rfl, hcompiled, rfl, stops,
          stops.written.leaves apart⟩

/-! ## A header in the place of a directory -/

section

open Loader Schema

/-- A schema that declares nothing. -/
def emptySchemaText : String := "<schema xmlns=\"http://www.w3.org/2001/XMLSchema\"/>"

/-- Whatever is asked for, it is that schema. -/
def emptySchemas : Fetcher Unit Unit := fun _ _ => (.ok emptySchemaText.toUTF8, ())

/-- An empty directory. -/
def emptyWorkspace : Workspace := ⟨Tree.empty, []⟩

/-- The description is to be written below the header. -/
def blockedArguments : Arguments where
  options := {
    document := some "http://h/c"
    outputs := ⟨some "o", none, none⟩
    description := some "o/j" }

def blockedSettings : Settings where
  start := page "c"
  outputs := .header "o"
  server := false
  service := none
  codes := ∅
  style := .stdOptional
  keepUnused := false
  copies := []
  localOnly := false
  helpOnMissing := false
  noSync := false
  noAsync := false
  noJobs := false
  ns := none
  exportMacro := none
  description := some "o/j"

def emptySchemaDocument : Document := schemaDocument "c" (plainSchema "" [] [])

theorem parse_start : Locator.parse emptyWorkspace "http://h/c" = .ok (page "c") := by cbv

theorem settings_blockedArguments :
    blockedArguments.settings emptyWorkspace = .ok blockedSettings := by
  have options : blockedArguments.settings emptyWorkspace =
      ((Locator.parse emptyWorkspace "http://h/c").mapError .invalidLocation).map fun start =>
        { blockedSettings with start } := rfl
  rw [options, parse_start]
  rfl

theorem load_emptySchema : Loader.load ⟨emptySchemas, blockedSettings.policy, emptyWorkspace⟩ 1
    (page "c") () = some (.ok ⟨[emptySchemaDocument]⟩, ()) := by
  have read : Document.read (page "c") none emptySchemaText.toUTF8 = .ok emptySchemaDocument :=
    Document.read_eq_ok_iff.mpr
      ⟨emptySchemaText, schemaElement "schema" [] [] 0, Text.Utf8.decode?_toUTF8 _, by cbv, rfl⟩
  have resolved : (Store.empty).resolve emptySchemas blockedSettings.policy emptyWorkspace
      (page "c") () = (.ok emptySchemaText.toUTF8,
        Store.empty.keep (page "c") emptySchemaText.toUTF8, ()) :=
    resolve_of_fetch (c := ⟨emptySchemas, blockedSettings.policy, emptyWorkspace⟩)
      Std.ExtTreeMap.getElem?_empty rfl rfl
  rw [Loader.load, loadAll_cons (m := ⟨page "c", none⟩) resolved read rfl]
  exact loadAll.eq_1 ..

/-- The directory with the header in it. -/
def headerWorkspace (content : ByteArray) : Workspace :=
  ⟨⟨(∅ : Std.ExtTreeMap Place Entry).insert ["o"] (.file content)⟩, []⟩

theorem write_header (content : ByteArray) :
    emptyWorkspace.write "o" content = .ok (headerWorkspace content) := by
  cbv

theorem write_description (content description : ByteArray) :
    (headerWorkspace content).write "o/j" description = .error .notDirectory := by
  cbv

theorem ofDocuments_emptySchema :
    ∃ c, Compilation.ofDocuments blockedSettings ⟨[emptySchemaDocument]⟩ = .ok c := by
  have symbols : Symbols.ofDocuments ⟨[emptySchemaDocument]⟩ = .ok .empty := rfl
  have services : (BindingContext.of ⟨[emptySchemaDocument]⟩ ⟨∅, ∅⟩).services
      blockedSettings.choices.service = .ok ⟨[], []⟩ := by cbv
  obtain ⟨i, hi, graph, _⟩ :=
    Interface.ofDocuments_of_stages symbols Interface.ofSymbols_empty services
  -- There are no types, so none that needs another.
  have acyclic : ∀ a, ¬ Relation.TransGen i.pruned.graph.NeedsComplete a a := by
    intro a cycle
    obtain ⟨b, ⟨_, n, need, hn, _⟩, _⟩ := Relation.TransGen.head'_iff.mp cycle
    have none := (Interface.getElem?_pruned.mp hn).1
    rw [graph] at none
    cases none
  have ordered : ∃ o, OrderedGraph.ofGraph i.pruned.graph i.pruned.codes = .ok o ∧ o.graph = _ :=
    OrderedGraph.ofGraph_of_acyclic acyclic
  obtain ⟨o, ho, _⟩ := ordered
  exact Compilation.ofDocuments_of_stages (s := blockedSettings) hi ho

/-- The header is written, and the description is refused because of it. -/
theorem run_blockedArguments : ∃ header : ByteArray,
    blockedArguments.run emptySchemas emptyWorkspace 1 () =
      some ⟨.error (.write "o/j" .notDirectory), headerWorkspace header, ()⟩ := by
  obtain ⟨c, hc⟩ := ofDocuments_emptySchema
  refine ⟨(Cpp.header blockedSettings.layout c.classes).toUTF8, ?_⟩
  have compiled : Compilation.ofSettings emptySchemas emptyWorkspace 1 blockedSettings () =
      some (.ok c, ()) := by
    simp only [Compilation.ofSettings, show blockedSettings.start = page "c" from rfl,
      load_emptySchema, Option.map_some, hc, Except.mapError]
  have files : c.files = [⟨"o", Cpp.header blockedSettings.layout c.classes⟩,
      ⟨"o/j", Cpp.describe blockedSettings.style c.classes⟩] :=
    Compilation.files_of_ofDocuments hc
  simp only [Arguments.run, settings_blockedArguments, compiled, Option.map_some, files,
    Compilation.writeFiles, write_header, write_description, Except.map]

/-- A command has created the header before it fails. -/
theorem not_unchanged_blocked : ∃ out,
    blockedArguments.run emptySchemas emptyWorkspace 1 () = some out ∧
      out.told = .error (.write "o/j" .notDirectory) ∧ out.workspace ≠ emptyWorkspace ∧
      emptyWorkspace.read "o" = .error .missing ∧
      ∃ header, out.workspace.read "o" = .ok header := by
  obtain ⟨header, ran⟩ := run_blockedArguments
  have before : emptyWorkspace.read "o" = .error .missing := by cbv
  have after : (headerWorkspace header).read "o" = .ok header :=
    Workspace.read_of_write (write_header header)
  refine ⟨_, ran, rfl, fun same => ?_, before, header, after⟩
  change headerWorkspace header = emptyWorkspace at same
  rw [same, before] at after
  cases after

/-- The same command: what it leaves are the files before the description. -/
theorem run_failed_blocked : ∃ (out : Outcome Unit Unit) (c : Compilation)
    (done : List OutputFile) (file : OutputFile),
    blockedArguments.run emptySchemas emptyWorkspace 1 () = some out ∧
      out.told = .error (.write "o/j" .notDirectory) ∧ file.path = "o/j" ∧
      Compilation.StopsAt c.files emptyWorkspace out.workspace done file .notDirectory ∧
      Compilation.Leaves done emptyWorkspace out.workspace := by
  obtain ⟨header, ran⟩ := run_blockedArguments
  rcases Arguments.run_failed ran rfl with ⟨compiling, _⟩ |
    ⟨s, c, done, file, refusal, decided, compiled, failure, stops, leaves⟩
  · exact absurd rfl (compiling _ _)
  · obtain ⟨path, rfl⟩ := Failure.write.inj failure
    exact ⟨_, c, done, file, ran, rfl, path.symm, stops, leaves⟩

end

end SoapBindings
