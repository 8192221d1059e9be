import Mathlib
import SoapBindings.Proofs.Loading.Closure
import SoapBindings.Proofs.Text.Utf8

/-!
# Included schemas without a namespace

An included schema that declares no namespace is to take that of the schema that includes it. What
it takes is the namespace of whoever asks for it first, for it is read once: if schemas with two
namespaces include it, the second goes without its declarations, and if a schema imports it before
another includes it, the other does (`load_included_iff`).
-/

set_option autoImplicit false

namespace SoapBindings.Loader

open Files Loading Schema Xml

variable {σ ε : Type} {c : Loader σ ε} {start : Locator} {reads : List ReadDocument}
  {remote remote' : σ} {bound : Nat} {ds : Documents} {d : Document} {s : Declarations} {i : Import}
  {m : Wanted} {l : Locator}

/-! ## Inclusions as askings -/

theorem location?_inclusion (inclusion : isInclusion i = true) : location? i = i.location := by
  simp [location?, inclusion]

/-- An inclusion asks for its document with the namespace of the including schema. -/
theorem ask?_inclusion {w : Workspace} {location : String} {target : Locator}
    (inclusion : isInclusion i = true) (hlocation : i.location = some location)
    (hjoin : l.join w location = .ok target) (named : i.importer ≠ "") :
    ask? w l i = some ⟨target, some i.importer⟩ := by
  have adopted : adoptedNamespace? i = some i.importer := by
    simp [adoptedNamespace?, inclusion, named]
  rw [ask?, location?_inclusion inclusion, hlocation, Option.bind_some, hjoin, adopted]
  rfl

theorem mem_asked {w : Workspace} {documents : List Document} (hd : d ∈ documents)
    (hi : i ∈ d.allImports) (h : ask? w d.locator i = some m) : m ∈ asked w start documents := by
  refine List.mem_cons_of_mem _ (List.mem_flatMap.mpr ⟨d, hd, ?_⟩)
  exact List.mem_filterMap.mpr ⟨i, hi, h⟩

namespace Loads

/-- All that is asked for was read, as it was asked for first. -/
theorem exists_read (h : c.Loads start reads)
    (hm : m ∈ asked c.workspace start (reads.map (·.document))) :
    ∃ r ∈ reads, (asked c.workspace start (reads.map (·.document))).find?
      (·.locator.toText == m.locator.toText) = some r.wanted := by
  obtain ⟨first, hfirst⟩ : ∃ first, (asked c.workspace start (reads.map (·.document))).find?
      (·.locator.toText == m.locator.toText) = some first := by
    rw [← Option.isSome_iff_exists, List.find?_isSome]
    exact ⟨m, hm, beq_self_eq_true _⟩
  have read := List.mem_of_find?_eq_some ((find?_firsts m.locator.toText).trans hfirst)
  rw [← h.order] at read
  obtain ⟨r, hr, rfl⟩ := List.mem_map.mp read
  exact ⟨r, hr, hfirst⟩

/-- No document was read twice. -/
theorem eq_of_toText (h : c.Loads start reads) {r r' : ReadDocument} (hr : r ∈ reads)
    (hr' : r' ∈ reads) (same : r.wanted.locator.toText = r'.wanted.locator.toText) : r = r' := by
  have nodup := nodup_texts_firsts (asked c.workspace start (reads.map (·.document)))
  rw [← h.order, texts, List.map_map] at nodup
  exact List.inj_on_of_nodup_map nodup hr hr' same

end Loads

/-- Only the schema that is first to ask for a document gives it a namespace. Let a schema with a
namespace include a location. The document there was read, once, and as it was asked for first; if
it is a schema that declares no namespace, its declarations are loaded in the namespace of the
including schema exactly if the first asking was an inclusion from that namespace too. -/
theorem load_included_iff (h : c.load bound start remote = some (.ok ds, remote'))
    (hd : d ∈ ds.inOrder) (hs : s ∈ d.schemas) (hi : i ∈ s.imports)
    (inclusion : isInclusion i = true) {location : String} (hlocation : i.location = some location)
    (named : s.targetNamespace ≠ "") :
    ∃ target first content loaded, d.locator.join c.workspace location = .ok target ∧
      ⟨target, some s.targetNamespace⟩ ∈ asked c.workspace start ds.inOrder ∧
      (asked c.workspace start ds.inOrder).find? (·.locator.toText == target.toText) =
        some first ∧
      c.Obtains first.locator content ∧
      Document.read first.locator first.adoptedNamespace content = .ok loaded ∧
      (∀ d', d' ∈ ds.inOrder ∧ d'.locator.toText = target.toText ↔ d' = loaded) ∧
      (Document.LacksNamespace content →
        ((∃ d' ∈ ds.inOrder,
            Document.read first.locator (some s.targetNamespace) content = .ok d') ↔
          first.adoptedNamespace = some s.targetNamespace)) := by
  obtain ⟨reads, loads, hds⟩ := loads_of_load h
  rw [hds] at hd ⊢
  obtain ⟨including, hincluding, rfl⟩ := List.mem_map.mp hd
  have readOf := loads.each including hincluding
  have importer := Document.importer_of_read readOf.read hs hi
  have hall : i ∈ including.document.allImports :=
    List.mem_append_right _ (List.mem_flatMap.mpr ⟨s, hs, hi⟩)
  obtain ⟨target, htarget⟩ :=
    readOf.joined i hall location ((location?_inclusion inclusion).trans hlocation)
  have ask := ask?_inclusion inclusion hlocation htarget (importer ▸ named)
  rw [importer] at ask
  have hasked : ⟨target, some s.targetNamespace⟩ ∈
      asked c.workspace start (reads.map (·.document)) := mem_asked hd hall ask
  obtain ⟨r, hr, hfirst⟩ := loads.exists_read hasked
  have there : r.wanted.locator.toText = target.toText := by
    have found := List.find?_some hfirst
    exact beq_iff_eq.mp found
  have own := loads.each r hr
  have locator := Document.locator_of_read own.read
  -- Whatever document is at the location, it is the one that was read for the first asking.
  have only : ∀ d', d' ∈ reads.map (·.document) ∧ d'.locator.toText = target.toText ↔
      d' = r.document := by
    intro d'
    constructor
    · intro ⟨hd', same⟩
      obtain ⟨r', hr', rfl⟩ := List.mem_map.mp hd'
      rw [Document.locator_of_read (loads.each r' hr').read, ← there] at same
      rw [loads.eq_of_toText hr' hr same]
    · intro same
      rw [same, locator]
      exact ⟨List.mem_map.mpr ⟨r, hr, rfl⟩, there⟩
  refine ⟨target, r.wanted, r.content, r.document, htarget, hasked, hfirst, own.obtained, own.read,
    only, fun lacks => ?_⟩
  constructor
  · intro ⟨d', hd', read⟩
    have locator' := Document.locator_of_read read
    have same : d' = r.document := (only d').mp ⟨hd', locator' ▸ there⟩
    have ns := Document.targetNamespace_of_read read lacks
    rw [same, Document.targetNamespace_of_read own.read lacks, Option.getD_some] at ns
    cases hadopted : r.wanted.adoptedNamespace with
    | none =>
      rw [hadopted] at ns
      exact absurd ns.symm named
    | some adopted =>
      rw [hadopted] at ns
      rw [← ns]
      rfl
  · intro adopted
    rw [← adopted]
    exact ⟨r.document, List.mem_map.mpr ⟨r, hr, rfl⟩, own.read⟩

/-! ## A schema that two schemas include -/

/-- The document with some name at one host. -/
def page (name : String) : Locator :=
  ⟨⟨"http", some ⟨"", .name "h", none⟩, .segments [name], none⟩⟩

/-- The schema of `urn:a` includes `c` and imports the schema of `urn:b`. -/
def textA : String :=
  "<schema xmlns=\"http://www.w3.org/2001/XMLSchema\" targetNamespace=\"urn:a\">" ++
    "<include schemaLocation=\"c\"/><import namespace=\"urn:b\" schemaLocation=\"b\"/></schema>"

/-- The schema of `urn:b` includes `c` as well. -/
def textB : String :=
  "<schema xmlns=\"http://www.w3.org/2001/XMLSchema\" targetNamespace=\"urn:b\">" ++
    "<include schemaLocation=\"c\"/></schema>"

/-- A schema that declares a type and no namespace. -/
def textC : String :=
  "<schema xmlns=\"http://www.w3.org/2001/XMLSchema\"><complexType name=\"C\"/></schema>"

/-- The three documents, all of them fetched. -/
def sharing : Loader Unit Unit where
  fetch l _ :=
    (match [("a", textA), ("b", textB), ("c", textC)].lookup l.fileName with
      | some text => .ok text.toUTF8
      | none => .error (), ())
  policy := ⟨[], false⟩
  workspace := ⟨Tree.empty, []⟩

/-- An element of the schema namespace, which is the default namespace. -/
def schemaElement (name : String) (attributes : List Xml.Attribute) (children : List Element)
    (position : Nat) : Element :=
  ⟨some Namespaces.schema, name, attributes, children, "", position,
    [(none, Namespaces.schema)]⟩

def rootA : Element :=
  schemaElement "schema" [⟨none, "targetNamespace", "urn:a"⟩]
    [schemaElement "include" [⟨none, "schemaLocation", "c"⟩] [] 73,
      schemaElement "import" [⟨none, "namespace", "urn:b"⟩, ⟨none, "schemaLocation", "b"⟩] [] 102] 0

def rootB : Element :=
  schemaElement "schema" [⟨none, "targetNamespace", "urn:b"⟩]
    [schemaElement "include" [⟨none, "schemaLocation", "c"⟩] [] 73] 0

def elementC : Element := schemaElement "complexType" [⟨none, "name", "C"⟩] [] 49

def rootC : Element := schemaElement "schema" [] [elementC] 0

/-- A schema with nothing but imports and types. -/
def plainSchema (ns : String) (imports : List Import) (types : List TypeDecl) : Declarations :=
  ⟨ns, .unqualified, .unqualified, imports, types, [], [], [], []⟩

def schemaA : Declarations :=
  plainSchema "urn:a" [⟨.included, some "urn:a", some "c", "urn:a"⟩,
    ⟨.imported, some "urn:b", some "b", "urn:a"⟩] []

def schemaB : Declarations :=
  plainSchema "urn:b" [⟨.included, some "urn:b", some "c", "urn:b"⟩] []

def schemaC (ns : String) : Declarations :=
  plainSchema ns [] [.complex (.mk (some "C") none false false .empty [] false none)]

def schemaDocument (name : String) (s : Declarations) : Document :=
  ⟨page name, .schema, s.targetNamespace, [], [s], [], [], [], [], []⟩

theorem read_textA : Document.read (page "a") none textA.toUTF8 =
    .ok (schemaDocument "a" schemaA) :=
  Document.read_eq_ok_iff.mpr ⟨textA, rootA, Text.Utf8.decode?_toUTF8 _, by cbv, rfl⟩

theorem read_textB : Document.read (page "b") none textB.toUTF8 =
    .ok (schemaDocument "b" schemaB) :=
  Document.read_eq_ok_iff.mpr ⟨textB, rootB, Text.Utf8.decode?_toUTF8 _, by cbv, rfl⟩

theorem readSchema_rootC (ns : String) (isAdopted : Bool) :
    readSchema ns isAdopted rootC = pure (schemaC ns) := by
  have type (ctx : Context) : readComplexType ctx elementC true =
      pure (.mk (some "C") none false false .empty [] false none) := by
    rw [readComplexType]
    rfl
  have unfolded : readSchema ns isAdopted rootC =
      ((readComplexType ⟨ns, isAdopted, .unqualified, .unqualified⟩ elementC true >>= fun type =>
        pure (plainSchema ns [] [.complex type])) >>= pure) := rfl
  rw [unfolded, type]
  rfl

theorem parse_textC : Element.ofText textC = .ok rootC := by cbv

/-- The schema is read into the namespace that it is included with. -/
theorem read_textC (including : Option String) : Document.read (page "c") including textC.toUTF8 =
    .ok (schemaDocument "c" (schemaC (including.getD ""))) := by
  refine Document.read_eq_ok_iff.mpr ⟨textC, rootC, Text.Utf8.decode?_toUTF8 _, parse_textC, ?_⟩
  have unfolded : Document.ofRoot (page "c") including rootC =
      (readSchema (including.getD "") including.isSome rootC).run [] >>= fun r =>
        pure ⟨page "c", .schema, including.getD "", [], [r.1], [], [], [], [], r.2.reverse⟩ :=
    rfl
  rw [unfolded, readSchema_rootC]
  rfl

theorem lacksNamespace_textC : Document.LacksNamespace textC.toUTF8 :=
  ⟨textC, rootC, Text.Utf8.decode?_toUTF8 _, parse_textC, rfl, rfl⟩

theorem join_page : (page "a").join sharing.workspace "c" = .ok (page "c") ∧
    (page "a").join sharing.workspace "b" = .ok (page "b") ∧
    (page "b").join sharing.workspace "c" = .ok (page "c") :=
  ⟨by cbv, by cbv, by cbv⟩

theorem toText_page : (page "a").toText = "http://h/a" ∧ (page "b").toText = "http://h/b" ∧
    (page "c").toText = "http://h/c" :=
  ⟨by cbv, by cbv, by cbv⟩

theorem location?_imported :
    location? ⟨.imported, some "urn:b", some "b", "urn:a"⟩ = some "b" :=
  rfl

theorem discover_schemaA : (discover sharing.workspace (page "a")
      (Std.ExtTreeSet.ofList [(page "a").toText]) (schemaDocument "a" schemaA).allImports :
        Except (LoadError Unit) (List Wanted × Std.ExtTreeSet String)) =
    .ok ([⟨page "c", some "urn:a"⟩, ⟨page "b", none⟩],
      ((Std.ExtTreeSet.ofList [(page "a").toText]).insert (page "c").toText).insert
        (page "b").toText) := by
  have adopted : adoptedNamespace? ⟨.included, some "urn:a", some "c", "urn:a"⟩ = some "urn:a" ∧
      adoptedNamespace? ⟨.imported, some "urn:b", some "b", "urn:a"⟩ = none :=
    ⟨rfl, rfl⟩
  have included := location?_inclusion (i := ⟨.included, some "urn:a", some "c", "urn:a"⟩) rfl
  simp [schemaDocument, Document.allImports, schemaA, plainSchema, discover, included,
    location?_imported, join_page, toText_page, adopted]

theorem discover_schemaB {known : Std.ExtTreeSet String} (h : (page "c").toText ∈ known) :
    (discover sharing.workspace (page "b") known (schemaDocument "b" schemaB).allImports :
        Except (LoadError Unit) (List Wanted × Std.ExtTreeSet String)) = .ok ([], known) := by
  have included := location?_inclusion (i := ⟨.included, some "urn:b", some "c", "urn:b"⟩) rfl
  simp [schemaDocument, Document.allImports, schemaB, plainSchema, discover, included, join_page, h]

theorem resolve_sharing {name text : String} {store : Store}
    (absent : store.content? (page name) = none)
    (hlookup : [("a", textA), ("b", textB), ("c", textC)].lookup name = some text) :
    store.resolve sharing.fetch sharing.policy sharing.workspace (page name) () =
      (.ok text.toUTF8, store.keep (page name) text.toUTF8, ()) := by
  refine resolve_of_fetch absent rfl ?_
  have named : (page name).fileName = name := rfl
  simp only [sharing, named, hlookup]

/-- All that the documents ask for. -/
def knownSharing : Std.ExtTreeSet String :=
  ((Std.ExtTreeSet.ofList [(page "a").toText]).insert (page "c").toText).insert (page "b").toText

def storeA : Store := Store.empty.keep (page "a") textA.toUTF8

def storeC : Store := storeA.keep (page "c") textC.toUTF8

/-- The document at `a` asks for both others, so `c` is read for `urn:a` before `b` asks for it. -/
theorem load_sharing : sharing.load 3 (page "a") () = some (.ok ⟨[schemaDocument "a" schemaA,
    schemaDocument "c" (schemaC "urn:a"), schemaDocument "b" schemaB]⟩, ()) := by
  have first : (Store.empty).content? (page "a") = none := Std.ExtTreeMap.getElem?_empty
  have second : storeA.content? (page "c") = none := by
    rw [storeA, content?_keep_of_ne (by simp [toText_page])]
    exact Std.ExtTreeMap.getElem?_empty
  have third : storeC.content? (page "b") = none := by
    rw [storeC, content?_keep_of_ne (by simp [toText_page]), storeA,
      content?_keep_of_ne (by simp [toText_page])]
    exact Std.ExtTreeMap.getElem?_empty
  have nothing : (discover sharing.workspace (page "c") knownSharing
      (schemaDocument "c" (schemaC "urn:a")).allImports :
        Except (LoadError Unit) (List Wanted × Std.ExtTreeSet String)) = .ok ([], knownSharing) :=
    rfl
  have known : (page "c").toText ∈ knownSharing := by
    rw [knownSharing, mem_insert_text, mem_insert_text]
    exact Or.inr (Or.inl rfl)
  calc sharing.load 3 (page "a") ()
      = sharing.loadAll 2 [⟨page "c", some "urn:a"⟩, ⟨page "b", none⟩] knownSharing
          [schemaDocument "a" schemaA] storeA () :=
        loadAll_cons (m := ⟨page "a", none⟩) (resolve_sharing first rfl) read_textA
          discover_schemaA
    _ = sharing.loadAll 1 [⟨page "b", none⟩] knownSharing
          [schemaDocument "a" schemaA, schemaDocument "c" (schemaC "urn:a")] storeC () :=
        loadAll_cons (m := ⟨page "c", some "urn:a"⟩) (resolve_sharing second rfl) (read_textC _)
          nothing
    _ = sharing.loadAll 0 [] knownSharing [schemaDocument "a" schemaA,
          schemaDocument "c" (schemaC "urn:a"), schemaDocument "b" schemaB]
          (storeC.keep (page "b") textB.toUTF8) () :=
        loadAll_cons (m := ⟨page "b", none⟩) (resolve_sharing third rfl) read_textB
          (discover_schemaB known)
    _ = _ := by rw [loadAll]

/-- The schema of `urn:b` includes `c` too, but nothing that `c` declares is loaded in `urn:b`. -/
theorem not_loaded_sharing : ∃ ds, sharing.load 3 (page "a") () = some (.ok ds, ()) ∧
    ∃ d ∈ ds.inOrder, ∃ s ∈ d.schemas, s.targetNamespace = "urn:b" ∧
      (∃ i ∈ s.imports, isInclusion i = true ∧ i.location = some "c") ∧
      d.locator.join sharing.workspace "c" = .ok (page "c") ∧
      sharing.fetch (page "c") () = (.ok textC.toUTF8, ()) ∧
      Document.LacksNamespace textC.toUTF8 ∧
      (∀ d' ∈ ds.inOrder, ∀ s' ∈ d'.schemas, s'.targetNamespace = "urn:b" → s'.types = []) ∧
      ¬ ∃ d' ∈ ds.inOrder, Document.read (page "c") (some "urn:b") textC.toUTF8 = .ok d' := by
  have empty : ∀ d' ∈ [schemaDocument "a" schemaA, schemaDocument "c" (schemaC "urn:a"),
      schemaDocument "b" schemaB], ∀ s' ∈ d'.schemas, s'.targetNamespace = "urn:b" →
        s'.types = [] := by
    intro d' hd' s' hs' ns
    simp only [List.mem_cons, List.not_mem_nil, or_false] at hd'
    rcases hd' with rfl | rfl | rfl
    · rw [List.mem_singleton.mp hs'] at ns
      exact absurd ns (by decide)
    · rw [List.mem_singleton.mp hs'] at ns
      exact absurd ns (by decide)
    · rw [List.mem_singleton.mp hs']
      rfl
  refine ⟨_, load_sharing, schemaDocument "b" schemaB, by simp, schemaB, List.mem_cons_self, rfl,
    ⟨_, List.mem_cons_self, rfl, rfl⟩, join_page.2.2, rfl, lacksNamespace_textC, empty, ?_⟩
  intro ⟨d', hd', read⟩
  rw [read_textC] at read
  cases read
  have none := empty _ hd' _ List.mem_cons_self rfl
  exact absurd none (List.cons_ne_nil _ _)

theorem eq_textC_of_obtains {content : ByteArray} (h : sharing.Obtains (page "c") content) :
    content = textC.toUTF8 := by
  rcases h with h | ⟨_, _, _, h⟩
  · cases h
  · cases h
    rfl

theorem asked_sharing : asked sharing.workspace (page "a") [schemaDocument "a" schemaA,
    schemaDocument "c" (schemaC "urn:a"), schemaDocument "b" schemaB] =
      [⟨page "a", none⟩, ⟨page "c", some "urn:a"⟩, ⟨page "b", none⟩, ⟨page "c", some "urn:b"⟩] := by
  have asksC (name ns : String) (join : (page name).join sharing.workspace "c" = .ok (page "c"))
      (named : ns ≠ "") : ask? sharing.workspace (page name)
        ⟨.included, some ns, some "c", ns⟩ = some ⟨page "c", some ns⟩ :=
    ask?_inclusion rfl rfl join named
  have asksB : ask? sharing.workspace (page "a") ⟨.imported, some "urn:b", some "b", "urn:a"⟩ =
      some ⟨page "b", none⟩ := by
    rw [ask?, location?_imported, Option.bind_some, join_page.2.1]
    rfl
  simp [asked, asking, schemaDocument, Document.allImports, schemaA, schemaB, schemaC, plainSchema,
    asksB, asksC "a" "urn:a" join_page.1 (by decide), asksC "b" "urn:b" join_page.2.2 (by decide)]

/-- Of the two inclusions the one that asks first has its declarations. -/
theorem load_included_iff_sharing : ∃ ds, sharing.load 3 (page "a") () = some (.ok ds, ()) ∧
    (∃ d ∈ ds.inOrder, Document.read (page "c") (some "urn:a") textC.toUTF8 = .ok d) ∧
      ¬ ∃ d ∈ ds.inOrder, Document.read (page "c") (some "urn:b") textC.toUTF8 = .ok d := by
  have first : (asked sharing.workspace (page "a") [schemaDocument "a" schemaA,
      schemaDocument "c" (schemaC "urn:a"), schemaDocument "b" schemaB]).find?
        (·.locator.toText == (page "c").toText) = some ⟨page "c", some "urn:a"⟩ := by
    rw [asked_sharing]
    simp [toText_page]
  refine ⟨_, load_sharing, ?_, ?_⟩
  · obtain ⟨target, asker, content, _, hjoin, _, hfirst, obtained, _, _, adopts⟩ :=
      load_included_iff load_sharing (d := schemaDocument "a" schemaA) (by simp)
        (s := schemaA) List.mem_cons_self List.mem_cons_self rfl rfl (by decide)
    rw [show (schemaDocument "a" schemaA).locator = page "a" from rfl, join_page.1] at hjoin
    cases hjoin
    rw [first] at hfirst
    cases hfirst
    rw [eq_textC_of_obtains obtained] at adopts
    exact (adopts lacksNamespace_textC).mpr rfl
  · obtain ⟨target, asker, content, _, hjoin, _, hfirst, obtained, _, _, adopts⟩ :=
      load_included_iff load_sharing (d := schemaDocument "b" schemaB) (by simp)
        (s := schemaB) List.mem_cons_self List.mem_cons_self rfl rfl (by decide)
    rw [show (schemaDocument "b" schemaB).locator = page "b" from rfl, join_page.2.2] at hjoin
    cases hjoin
    rw [first] at hfirst
    cases hfirst
    rw [eq_textC_of_obtains obtained] at adopts
    intro loaded
    exact absurd ((adopts lacksNamespace_textC).mp loaded) (by decide)

end SoapBindings.Loader
