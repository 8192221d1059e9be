import Mathlib.Data.List.Nodup
import SoapBindings.Proofs.Xml.Nesting

/-!
# What names in a document are bound to

An element of a finished tree carries a list of declarations that was put together while tags were
opened and closed. Here the same is said by the tree and the text alone: a name is bound by the
nearest of the element and those around it whose start tag has an attribute that declares it
(`nearest?`). This is what values, elements and attributes are resolved by (`namesResolve_ofText`).
-/

set_option autoImplicit false

namespace SoapBindings.Xml

open Text

/-! ## Declarations on a tag -/

/-- The key of the attribute that declares a name; the absent name is the default namespace. -/
def declaringKey : Option String → List Char
  | none => ['x', 'm', 'l', 'n', 's']
  | some bound => ['x', 'm', 'l', 'n', 's', ':'] ++ bound.toList

/-- The key is that of a declaration. -/
def declares (key : List Char) : Bool :=
  key == ['x', 'm', 'l', 'n', 's'] || ['x', 'm', 'l', 'n', 's', ':'].isPrefixOf key

/-- The value that an attribute of a tag stands for. -/
def RawAttribute.text (a : RawAttribute) : String := String.ofList (attributeValue a.value)

/-- What is declared for a name among the attributes of a tag. -/
def declaredIn (raw : List RawAttribute) (name : Option String) : Option String :=
  (raw.find? (·.key = declaringKey name)).map (·.text)

theorem declaration?_eq_some_iff {a : RawAttribute} {name : Option String} {ns : String} :
    declaration? a = some (name, ns) ↔ a.key = declaringKey name ∧ a.text = ns := by
  rw [declaration?]
  split
  · next plain => cases name <;> simp [declaringKey, plain, RawAttribute.text]
  · next other =>
    cases name with
    | none => simp [declaringKey, other]
    | some bound =>
      simp only [Option.map_eq_some_iff, after?_eq_some_iff, declaringKey, Prod.mk.injEq,
        Option.some.injEq]
      constructor
      · rintro ⟨rest, whole, rfl, rfl⟩
        exact ⟨by rw [String.toList_ofList, whole], rfl⟩
      · rintro ⟨key, rfl⟩
        exact ⟨bound.toList, key.symm, String.ofList_toList, rfl⟩

theorem declares_iff {key : List Char} : declares key ↔ ∃ name, key = declaringKey name := by
  rw [declares, Bool.or_eq_true, beq_iff_eq, List.isPrefixOf_iff_prefix]
  constructor
  · rintro (plain | ⟨rest, whole⟩)
    · exact ⟨none, plain⟩
    · exact ⟨some (String.ofList rest), by rw [declaringKey, String.toList_ofList, whole]⟩
  · rintro ⟨name, rfl⟩
    cases name with
    | none => exact Or.inl rfl
    | some bound => exact Or.inr (List.prefix_append _ _)

theorem isNone_declaration? (a : RawAttribute) : (declaration? a).isNone = !declares a.key := by
  rw [Bool.eq_iff_iff, Option.isNone_iff_eq_none, Bool.not_eq_true', ← Bool.not_eq_true,
    declares_iff, Option.eq_none_iff_forall_ne_some]
  constructor
  · rintro none ⟨name, key⟩
    exact none _ (declaration?_eq_some_iff.mpr ⟨key, rfl⟩)
  · rintro none ⟨name, ns⟩ declared
    exact none ⟨name, (declaration?_eq_some_iff.mp declared).1⟩

/-! ### Keys -/

theorem key_ne_of_readAttribute {earlier : List RawAttribute} {first : Char} {cs : List Char}
    {offset : Nat} {read : ReadAttribute (first :: cs)}
    (h : readAttribute earlier first cs offset = .ok read) :
    read.raw.key ∉ earlier.map (·.key) := by
  unfold readAttribute at h
  dsimp only at h
  split at h
  · next body _ =>
    split at h
    · cases h
    · next absent =>
      split at h
      · cases h
      · cases h
        simpa using absent
  · cases h

/-- No two attributes of a tag have one key. -/
theorem nodup_keys_readAttributes {earlier : List RawAttribute} {cs : List Char} {offset : Nat}
    {raw : List RawAttribute} (h : readAttributes earlier cs offset = .ok raw)
    (nodup : (earlier.map (·.key)).Nodup) : (raw.map (·.key)).Nodup := by
  fun_induction readAttributes earlier cs offset with
  | case1 =>
    cases h
    rwa [List.map_reverse, List.nodup_reverse]
  | case2 => cases h
  | case3 earlier _ _ _ _ _ read step _ ih =>
    exact ih h (List.nodup_cons.mpr ⟨key_ne_of_readAttribute step, nodup⟩)

theorem nodup_keys {content : List Char} {raw : List RawAttribute}
    (h : tagAttributes content = .ok raw) : (raw.map (·.key)).Nodup :=
  nodup_keys_readAttributes h List.nodup_nil

/-! ## The nearest declaration -/

theorem declaredIn_cons_of_eq {a : RawAttribute} {raw : List RawAttribute} {name : Option String}
    (h : a.key = declaringKey name) : declaredIn (a :: raw) name = some a.text := by
  rw [declaredIn, List.find?_cons_of_pos (by simpa using h), Option.map_some]

theorem declaredIn_cons_of_ne {a : RawAttribute} {raw : List RawAttribute} {name : Option String}
    (h : a.key ≠ declaringKey name) : declaredIn (a :: raw) name = declaredIn raw name := by
  rw [declaredIn, List.find?_cons_of_neg (by simpa using h), declaredIn]

/-- With one attribute at most for each name it does not matter from which end they are searched. -/
theorem lookup_declarations {raw : List RawAttribute} (nodup : (raw.map (·.key)).Nodup)
    (name : Option String) :
    (raw.filterMap declaration?).reverse.lookup name = declaredIn raw name := by
  induction raw with
  | nil => rfl
  | cons a raw ih =>
    obtain ⟨apart, rest⟩ := List.nodup_cons.mp nodup
    have later := ih rest
    by_cases here : a.key = declaringKey name
    · have declared := declaration?_eq_some_iff.mpr ⟨here, rfl⟩
      have absent : declaredIn raw name = none := by
        rw [declaredIn, Option.map_eq_none_iff, List.find?_eq_none]
        intro b hb same
        exact apart (List.mem_map.mpr ⟨b, hb, (of_decide_eq_true same).trans here.symm⟩)
      rw [declaredIn_cons_of_eq here, List.filterMap_cons_some declared, List.reverse_cons,
        List.lookup_append, later, absent]
      simp
    · rw [declaredIn_cons_of_ne here]
      cases declared : declaration? a with
      | none => rw [List.filterMap_cons_none declared, later]
      | some d =>
        have other : (name == d.1) = false := by
          rw [beq_eq_false_iff_ne]
          rintro rfl
          exact here (declaration?_eq_some_iff.mp declared).1
        rw [List.filterMap_cons_some declared, List.reverse_cons, List.lookup_append, later,
          List.lookup_cons, other]
        simp

/-- What is declared for a name on the start tag of an element, given all start tags. -/
def declaredOn (tags : List (Nat × List Char)) (e : Element) (name : Option String) :
    Option String :=
  (tags.lookup e.position).bind fun content =>
    (tagAttributes (bareTag content)).toOption.bind fun raw => declaredIn raw name

/-- What a name is bound to: the namespace that the first of some elements declares for it which
declares it at all. The name `xml` is bound everywhere. -/
def nearest? (tags : List (Nat × List Char)) (lineage : List Element) (name : Option String) :
    Option String :=
  if name = some "xml" then some Namespaces.xml
  else lineage.findSome? fun e => declaredOn tags e name

/-- The start tag of an element is found by its offset. -/
theorem StandsIn.opened {scope : Scope} {start : Nat} {tokens : List Token} {e : Element}
    (h : StandsIn scope start tokens e) :
    ∃ tag, (startTags start tokens).lookup tag.1 = some tag.2 ∧ Opened scope tag e := by
  obtain ⟨before, content, inside, after, _, rfl, opened, _⟩ := h
  refine ⟨_, lookup_startTags.mpr ?_, opened⟩
  rw [startTags_append, startTags_opening]
  exact List.mem_append_right _ List.mem_cons_self

variable {text : String} {root e : Element} {above : List Element}

/-- The start tag of an element gives it its declarations, in front of those around it. -/
theorem Opened.lookup_scope {tags : List (Nat × List Char)} {scope : Scope}
    {tag : Nat × List Char} (h : Opened scope tag e) (found : tags.lookup tag.1 = some tag.2)
    (name : Option String) :
    e.scope.lookup name = (declaredOn tags e name).or (scope.lookup name) := by
  obtain ⟨start, children, pieces, opened, rfl⟩ := h
  obtain ⟨raw, attributes, joined, _, _, _, position⟩ := openElement_eq_ok opened
  change start.scope.lookup name = _
  rw [joined, List.lookup_append, lookup_declarations (nodup_keys attributes), declaredOn,
    show (start.filled children pieces).position = tag.1 from position, found, Option.bind_some,
    attributes]
  rfl

/-- The declarations on the elements around an element are searched from the nearest on. -/
theorem lookup_scopeAround (h : Element.ofText text = .ok root) (under : StandsUnder root e above)
    (name : Option String) :
    (scopeAround above).lookup name =
      above.findSome? fun e => declaredOn (startTags 0 (documentTokens text)) e name := by
  induction under with
  | root => rfl
  | @child e above _ under _ ih =>
    obtain ⟨tag, found, opened⟩ := (standsIn_ofText h under).opened
    change e.scope.lookup name = _
    rw [opened.lookup_scope found name, ih, List.findSome?_cons]
    cases declaredOn (startTags 0 (documentTokens text)) e name <;> rfl

/-- The scope of an element binds a name as the nearest declaration does. -/
theorem find?_scope (h : Element.ofText text = .ok root) (under : StandsUnder root e above)
    (name : Option String) :
    e.scope.find? name = nearest? (startTags 0 (documentTokens text)) (e :: above) name := by
  obtain ⟨tag, found, opened⟩ := (standsIn_ofText h under).opened
  rw [Scope.find?, nearest?, opened.lookup_scope found name, lookup_scopeAround h under name,
    List.findSome?_cons]
  cases declaredOn (startTags 0 (documentTokens text)) e name <;> rfl

/-! ## Names -/

/-- A written name is that of `name` in the namespace `ns`: with a prefix, in what the prefix is
bound to, which has to be something; without one, in `plain`. -/
def NameIn (bound? : Option String → Option String) (plain : Option String) (written : List Char)
    (name : String) (ns : Option String) : Prop :=
  (':' ∉ written ∧ written = name.toList ∧ ns = plain) ∨
    ∃ bound, ':' ∉ bound ∧ written = bound ++ ':' :: name.toList ∧
      (bound? (some (String.ofList bound))).isSome ∧ ns = bound? (some (String.ofList bound))

/-- An attribute as written is that of the element: its value with the references resolved, in the
namespace of its prefix or in none. -/
def AttributeOf (bound? : Option String → Option String) (a : Attribute) (raw : RawAttribute) :
    Prop :=
  NameIn bound? none raw.key a.name a.ns ∧ a.value = raw.text

/-- Everything that is named on an element goes by what names are bound to where it stands. -/
structure NamesResolve (tags : List (Nat × List Char)) (lineage : List Element) (e : Element) :
    Prop where
  /-- A value with a prefix. -/
  prefixed : ∀ value bound name, ':' ∉ bound → (trim value).toList = bound ++ ':' :: name →
    e.resolve value = match nearest? tags lineage (some (String.ofList bound)) with
      | some ns => .ok ⟨ns, String.ofList name⟩
      | none => .error (String.ofList bound)
  /-- A value without prefix. -/
  plain : ∀ value, ':' ∉ (trim value).toList →
    e.resolve value = .ok ⟨(nearest? tags lineage none).getD "", trim value⟩
  /-- The element and its attributes. -/
  tag : ∃ content raw, tags.lookup e.position = some content ∧
    tagAttributes (bareTag content) = .ok raw ∧
    NameIn (nearest? tags lineage) ((nearest? tags lineage none).filter (· ≠ ""))
      (tagName (bareTag content)) e.name e.ns ∧
    List.Forall₂ (AttributeOf (nearest? tags lineage)) e.attributes
      (raw.filter fun a => !declares a.key)

theorem map_boundNamespace_eq_ok {α : Type} {scope : Scope} {bound : String} {f : String → α}
    {a : α} : (boundNamespace scope bound).map f = .ok a ↔
      ∃ ns, scope.find? (some bound) = some ns ∧ f ns = a := by
  rw [boundNamespace]
  cases scope.find? (some bound) <;> simp [Except.map]

theorem splitName_cases (written : List Char) :
    (':' ∉ written ∧ splitName written = (none, String.ofList written)) ∨
      ∃ bound name, ':' ∉ bound ∧ written = bound ++ ':' :: name ∧
        splitName written = (some (String.ofList bound), String.ofList name) := by
  rw [splitName]
  cases split : splitFirst ':' written with
  | none => exact Or.inl ⟨splitFirst_eq_none_iff.mp split, rfl⟩
  | some parts =>
    obtain ⟨absent, whole⟩ := splitFirst_eq_some_iff.mp split
    exact Or.inr ⟨parts.1, parts.2, absent, whole, rfl⟩

theorem nameIn_elementNamespace {scope : Scope} {written : List Char} {ns : Option String}
    (h : elementNamespace scope (splitName written).1 = .ok ns) :
    NameIn scope.find? ((scope.find? none).filter (· ≠ "")) written (splitName written).2 ns := by
  rcases splitName_cases written with ⟨absent, split⟩ | ⟨bound, name, absent, whole, split⟩
  · rw [split] at h ⊢
    cases h
    exact Or.inl ⟨absent, String.toList_ofList.symm, rfl⟩
  · rw [split, elementNamespace, map_boundNamespace_eq_ok] at h
    obtain ⟨space, found, rfl⟩ := h
    rw [split]
    exact Or.inr ⟨bound, absent, by rw [String.toList_ofList, whole],
      Option.isSome_of_eq_some found, found.symm⟩

theorem attributeOf_resolveAttribute {scope : Scope} {raw : RawAttribute} {a : Attribute}
    (h : resolveAttribute scope raw = .ok a) : AttributeOf scope.find? a raw := by
  unfold resolveAttribute at h
  rcases splitName_cases raw.key with ⟨absent, split⟩ | ⟨bound, name, absent, whole, split⟩
  · rw [split] at h
    cases h
    exact ⟨Or.inl ⟨absent, String.toList_ofList.symm, rfl⟩, rfl⟩
  · simp only [split, map_boundNamespace_eq_ok] at h
    obtain ⟨space, found, rfl⟩ := h
    exact ⟨Or.inr ⟨bound, absent, by rw [String.toList_ofList, whole],
      Option.isSome_of_eq_some found, found.symm⟩, rfl⟩

/-- A run of an operation over a list, if it succeeds, gives one result for each member. -/
theorem forall₂_of_mapM {ε α β : Type} {f : α → Except ε β} {R : β → α → Prop}
    (each : ∀ a b, f a = .ok b → R b a) {as : List α} {bs : List β} (h : as.mapM f = .ok bs) :
    List.Forall₂ R bs as := by
  induction as generalizing bs with
  | nil =>
    cases h
    exact .nil
  | cons a as ih =>
    rw [List.mapM_cons] at h
    cases first : f a with
    | error fault =>
      rw [first] at h
      cases h
    | ok b =>
      cases rest : as.mapM f with
      | error fault =>
        rw [first, rest] at h
        cases h
      | ok others =>
        rw [first, rest] at h
        cases h
        exact .cons (each a b first) (ih rest)

/-- Values, elements and attributes are resolved by the nearest declarations, for every element of
the tree of a document. -/
theorem namesResolve_ofText (h : Element.ofText text = .ok root)
    (under : StandsUnder root e above) :
    NamesResolve (startTags 0 (documentTokens text)) (e :: above) e := by
  have bound : nearest? (startTags 0 (documentTokens text)) (e :: above) = e.scope.find? :=
    (funext (find?_scope h under)).symm
  obtain ⟨tag, found, start, children, pieces, opened, rfl⟩ := (standsIn_ofText h under).opened
  obtain ⟨raw, attributes, _, own, resolved, name, position⟩ := openElement_eq_ok opened
  refine ⟨fun value before localName absent whole => ?_, fun value absent => ?_,
    tag.2, raw, ?_, attributes, ?_, ?_⟩
  · rewrite [bound, Element.resolve, whole, splitFirst_append absent]
    rfl
  · rw [bound, Element.resolve, splitFirst_of_not_mem absent]
  · rw [show (start.filled children pieces).position = tag.1 from position, found]
  · rw [bound]
    change NameIn start.scope.find? _ _ start.name start.ns
    rw [name]
    exact nameIn_elementNamespace own
  · rw [bound]
    have kept : (raw.filter fun a => !declares a.key) =
        raw.filter (declaration? · |>.isNone) := by
      simp only [isNone_declaration?]
    rw [kept]
    exact forall₂_of_mapM (fun _ _ => attributeOf_resolveAttribute) resolved

/-- On the innermost element the prefix is what the element around it declares anew, and the default
namespace is none. -/
theorem namesResolve_ofText_nested : Element.ofText nested = .ok nestedA ∧
    StandsUnder nestedA nestedD [nestedC, nestedA] ∧
    NamesResolve (startTags 0 (documentTokens nested)) [nestedD, nestedC, nestedA] nestedD ∧
    nestedD.resolve "p:x" = .ok ⟨"w", "x"⟩ ∧ nestedD.resolve " x" = .ok ⟨"", "x"⟩ ∧
    nestedD.resolve "q:x" = .error "q" := by
  have inside : StandsUnder nestedA nestedC [nestedA] :=
    .child .root (List.mem_cons_of_mem _ List.mem_cons_self)
  have under : StandsUnder nestedA nestedD [nestedC, nestedA] :=
    .child inside List.mem_cons_self
  exact ⟨ofText_nested, under, namesResolve_ofText ofText_nested under, by cbv, by cbv, by cbv⟩

end SoapBindings.Xml
