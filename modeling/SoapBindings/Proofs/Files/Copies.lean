import Mathlib
import SoapBindings.Files.Tree
import SoapBindings.Locator
import SoapBindings.Proofs.Text.Split
import SoapBindings.Proofs.Url.Special

/-!
# Where copies stand

What a path names if nothing on the way is a link: each `..` takes back the name in front of it, and
there is nothing above the root (`lexical`). A name that is joined to a path goes to its end
(`lexical_foldl_joinPath`).

A copy of a remote document is looked for in a directory of copies, under a directory that is called
as the host and by the names in the path. The path that was read has no dots left in it. The host is
not looked at in this way, and a domain name may well be a dot or two: such a host is lost, or leads
out of the directory of copies (`copyPath?_leaves`). With every other host the copy stands below the
directory of the host (`copyPath?_within_iff`).
-/

set_option autoImplicit false

namespace SoapBindings.Files

open Text

/-! ## Components of a joined path -/

/-- What a part between slashes is in a path. -/
def partComponent? (part : List Char) : Option Component :=
  if part.isEmpty || part == ['.'] then none
  else if part == ['.', '.'] then some .parent
  else some (.name (String.ofList part))

theorem components_eq (path : String) :
    components path = (splitWhere (· == '/') path.toList).filterMap partComponent? := rfl

/-- Joined paths have a slash between them, be it that of the first. -/
theorem components_of_slash {path before after : String}
    (h : path.toList = before.toList ++ '/' :: after.toList) :
    components path = components before ++ components after := by
  rw [components_eq, h, splitWhere_append (by rfl), List.filterMap_append]
  rfl

theorem isAbsolute_of_not_mem {text : String} (solid : '/' ∉ text.toList) :
    isAbsolute text = false := by
  rw [isAbsolute, beq_eq_false_iff_ne]
  intro first
  exact solid (List.mem_of_head? first)

/-- A part that is joined to a path stands at its end. -/
theorem components_joinPath (base : String) {text : String} (solid : '/' ∉ text.toList) :
    components (joinPath base text) = components base ++ components text := by
  rw [joinPath, isAbsolute_of_not_mem solid, Bool.false_or]
  split
  · next empty =>
    obtain rfl : base = "" := by simpa using empty
    rfl
  · split
    · next ends =>
      obtain ⟨front, whole⟩ := List.getLast?_eq_some_iff.mp (beq_iff_eq.mp ends)
      have base_eq : components base = components (String.ofList front) ++ components "" :=
        components_of_slash (by rw [whole, String.toList_ofList]; rfl)
      rw [base_eq, List.append_assoc]
      exact components_of_slash (by simp [whole])
    · exact components_of_slash (by simp)

theorem isAbsolute_joinPath (base : String) {text : String} (solid : '/' ∉ text.toList) :
    isAbsolute (joinPath base text) = isAbsolute base := by
  rw [joinPath, isAbsolute_of_not_mem solid, Bool.false_or]
  split
  · next empty =>
    obtain rfl : base = "" := by simpa using empty
    rw [isAbsolute_of_not_mem solid]
    rfl
  · next nonempty =>
    cases whole : base.toList with
    | nil => exact absurd whole (by simpa using nonempty)
    | cons c front => split <;> simp [isAbsolute, whole]

/-- The text can stand between slashes and is the name of something there. -/
def IsName (text : String) : Prop :=
  '/' ∉ text.toList ∧ text ≠ "" ∧ text ≠ "." ∧ text ≠ ".."

/-- A name is the only component of what it says. -/
theorem components_of_isName {text : String} (h : IsName text) :
    components text = [.name text] := by
  obtain ⟨solid, nonempty, dot, dots⟩ := h
  have parts : splitWhere (· == '/') text.toList = [text.toList] :=
    splitWhere_of_forall fun c hc => beq_eq_false_iff_ne.mpr fun same => solid (same ▸ hc)
  have component : partComponent? text.toList = some (.name text) := by
    have dot' : text.toList ≠ ['.'] := fun same => dot (String.toList_inj.mp same)
    have dots' : text.toList ≠ ['.', '.'] := fun same => dots (String.toList_inj.mp same)
    simp [partComponent?, nonempty, dot', dots']
  rw [components_eq, parts, List.filterMap_cons_some component]
  rfl

/-- No component is called by what stands for a directory. -/
theorem ne_dots_of_mem_components {path text : String} (h : .name text ∈ components path) :
    text ≠ "." ∧ text ≠ ".." := by
  rw [components_eq, List.mem_filterMap] at h
  obtain ⟨part, _, component⟩ := h
  unfold partComponent? at component
  split at component
  · cases component
  · next dot =>
    split at component
    · cases component
    · next dots =>
      obtain rfl : String.ofList part = text := Component.name.inj (Option.some.inj component)
      constructor <;> intro same
      · have : part = ['.'] := by simpa using congrArg String.toList same
        simp [this] at dot
      · have : part = ['.', '.'] := by simpa using congrArg String.toList same
        simp [this] at dots

/-! ## Names taken back -/

/-- One more component of a path, whose components come last first. -/
def descend (rooted : Bool) : List Component → Component → List Component
  | kept, .name text => .name text :: kept
  | .name _ :: above, .parent => above
  | .parent :: above, .parent => .parent :: .parent :: above
  | [], .parent => if rooted then [] else [.parent]

/-- The components of a path once its dots are removed. -/
def lexical (path : String) : List Component :=
  ((components path).foldl (descend (isAbsolute path)) []).reverse

theorem foldl_descend_names (rooted : Bool) (kept : List Component) (names : List String) :
    (names.map Component.name).foldl (descend rooted) kept =
      (names.map Component.name).reverse ++ kept := by
  induction names generalizing kept with
  | nil => rfl
  | cons name names ih => simp [descend, ih]

theorem mem_descend {rooted : Bool} {kept : List Component} {part : Component} {text : String}
    (h : .name text ∈ descend rooted kept part) : .name text = part ∨ .name text ∈ kept := by
  cases part with
  | name other => exact List.mem_cons.mp h
  | parent =>
    right
    cases kept with
    | nil => cases rooted <;> simp [descend] at h
    | cons last above =>
      cases last with
      | parent => simpa [descend] using h
      | name other => exact List.mem_cons_of_mem _ h

/-- A name of a path without its dots is one of the path. -/
theorem mem_components_of_mem_lexical {path text : String} (h : .name text ∈ lexical path) :
    .name text ∈ components path := by
  suffices kept : ∀ (rooted : Bool) (parts before : List Component),
      .name text ∈ parts.foldl (descend rooted) before → .name text ∈ parts ∨ .name text ∈ before by
    rcases kept _ _ _ (List.mem_reverse.mp h) with has | has
    · exact has
    · cases has
  intro rooted parts
  induction parts with
  | nil => exact fun before has => Or.inr has
  | cons part parts ih =>
    intro before has
    rcases ih _ has with later | here
    · exact Or.inl (List.mem_cons_of_mem _ later)
    · rcases mem_descend here with rfl | kept
      · exact Or.inl List.mem_cons_self
      · exact Or.inr kept

/-- Names that are joined to a path stand at its end, whatever dots there are in it. -/
theorem lexical_foldl_joinPath (base : String) {names : List String}
    (h : ∀ name ∈ names, IsName name) :
    isAbsolute (names.foldl joinPath base) = isAbsolute base ∧
      lexical (names.foldl joinPath base) = lexical base ++ names.map .name := by
  have joined : isAbsolute (names.foldl joinPath base) = isAbsolute base ∧
      components (names.foldl joinPath base) = components base ++ names.map .name := by
    induction names generalizing base with
    | nil => exact ⟨rfl, (List.append_nil _).symm⟩
    | cons name names ih =>
      obtain ⟨here, later⟩ := List.forall_mem_cons.mp h
      obtain ⟨root, parts⟩ := ih (joinPath base name) later
      rw [isAbsolute_joinPath base here.1] at root
      rw [components_joinPath base here.1, components_of_isName here] at parts
      exact ⟨root, by simpa using parts⟩
  refine ⟨joined.1, ?_⟩
  rw [lexical, joined.1, joined.2, List.foldl_append, foldl_descend_names, List.reverse_append,
    List.reverse_reverse, lexical]

end SoapBindings.Files

namespace SoapBindings.Locator

open Files Url

/-- Locators that are made from texts: of the command line, or of documents that are reached from
there. -/
inductive FromText : Locator → Prop
  | parsed {w text l} (h : parse w text = .ok l) : FromText l
  | joined {w base reference l} (origin : FromText base) (h : base.join w reference = .ok l) :
      FromText l

theorem scheme_ofPath (w : Workspace) (path : String) :
    (ofPath w path).address.scheme = "file" := by
  unfold ofPath
  dsimp only
  split <;> rfl

/-- A locator of a special scheme is the address that was read. -/
theorem isProper_ofAddress {w : Workspace} {a : Address}
    (h : SchemeKind.of a.scheme = .special → a.IsProper)
    (special : SchemeKind.of (ofAddress w a).address.scheme = .special) :
    (ofAddress w a).address.IsProper := by
  unfold ofAddress at special ⊢
  split at special
  · next isFile =>
    rw [beq_iff_eq] at isFile
    split at special
    · cases special
    · rw [isFile] at special
      cases special
  · next notFile =>
    rw [if_neg notFile]
    exact h special

theorem FromText.isProper {l : Locator} (h : FromText l)
    (special : SchemeKind.of l.address.scheme = .special) : l.address.IsProper := by
  induction h with
  | parsed h =>
    unfold parse at h
    split at h
    · next a read =>
      cases h
      split at special
      · next long =>
        rw [if_pos long]
        exact isProper_ofAddress (Address.isProper_read (by simp) read) special
      · rw [scheme_ofPath] at special
        cases special
    · cases h
      rw [scheme_ofPath] at special
      cases special
    · cases h
  | joined _ h ih =>
    unfold join at h
    split at h
    · next a read =>
      cases h
      exact isProper_ofAddress (Address.isProper_read (fun b hb => by cases hb; exact ih) read)
        special
    · cases h

/-- With each host but one that is made of one or two dots, and with no such host, what a copy is
called without dots is what the directory is called, then the host, then names of the path. -/
theorem copyPath?_within_iff {l : Locator} (h : FromText l)
    (remote : l.address.scheme = "http" ∨ l.address.scheme = "https") (directory : String) :
    ∃ host place, l.address.host? = some host ∧ l.copyPath? directory = some place ∧
      isAbsolute place = isAbsolute directory ∧
      ((∃ names, lexical place = lexical directory ++ .name host.toText :: names) ↔
        host.toText ≠ "." ∧ host.toText ≠ "..") := by
  have special : SchemeKind.of l.address.scheme = .special := by
    rcases remote with scheme | scheme <;> rw [scheme] <;> rfl
  obtain ⟨⟨info, host, port, authority, solid⟩, parts, path, nonempty, segments⟩ :=
    h.isProper special
  have own : l.address.host? = some host := by
    simp [Address.host?, authority, Host.isEmpty_of_isSolid solid]
  have segments? : l.address.segments? = some parts := by
    obtain ⟨part, parts, rfl⟩ := List.exists_cons_of_ne_nil nonempty
    rw [Address.segments?, path]
  let names := parts.filter (!·.isEmpty)
  have isName : ∀ name ∈ names, IsName name := by
    intro name has
    obtain ⟨inside, nonempty⟩ := List.mem_filter.mp has
    obtain ⟨slash, dot, dots⟩ := segments name inside
    exact ⟨slash, by simpa using nonempty, dot, dots⟩
  refine ⟨host, names.foldl joinPath (joinPath directory host.toText), own, ?_, ?_, ?_⟩
  · rw [copyPath?, own, segments?]
  · rw [(lexical_foldl_joinPath _ isName).1, isAbsolute_joinPath directory solid.1]
  constructor
  · -- A host of dots is no component of the copy at all, so none of what is left can be the host.
    rintro ⟨more, whole⟩
    have has : Component.name host.toText ∈
        lexical (names.foldl joinPath (joinPath directory host.toText)) := by simp [whole]
    exact ne_dots_of_mem_components (mem_components_of_mem_lexical has)
  · rintro ⟨dot, dots⟩
    have here : IsName host.toText := ⟨solid.1, solid.2, dot, dots⟩
    have all := lexical_foldl_joinPath directory (List.forall_mem_cons.mpr ⟨here, isName⟩)
    exact ⟨names.map .name, all.2⟩

def unlinked : Workspace := ⟨Tree.empty, []⟩

def plainHost : Locator :=
  ⟨⟨"http", some ⟨"", .name "h", none⟩, .segments ["b", "", "c"], none⟩⟩

theorem copyPath?_within_iff_plainHost :
    parse unlinked "http://h/a/../b//c" = .ok plainHost ∧
      plainHost.copyPath? "/opt/schemas" = some "/opt/schemas/h/b/c" ∧
      ∃ host place, plainHost.address.host? = some host ∧
        plainHost.copyPath? "/opt/schemas" = some place ∧
        isAbsolute place = isAbsolute "/opt/schemas" ∧
        ((∃ names, lexical place = lexical "/opt/schemas" ++ .name host.toText :: names) ↔
          host.toText ≠ "." ∧ host.toText ≠ "..") := by
  have parsed : parse unlinked "http://h/a/../b//c" = .ok plainHost := by cbv
  exact ⟨parsed, rfl, copyPath?_within_iff (.parsed parsed) (Or.inl rfl) "/opt/schemas"⟩

def dottedHost : Locator :=
  ⟨⟨"http", some ⟨"", .name "..", none⟩, .segments ["x"], none⟩⟩

/-- The host leads to the directory above. -/
theorem copyPath?_leaves :
    FromText dottedHost ∧ dottedHost.address.scheme = "http" ∧
      dottedHost.copyPath? "/opt/schemas" = some "/opt/schemas/../x" ∧
      ∀ names, lexical "/opt/schemas/../x" ≠ lexical "/opt/schemas" ++ names := by
  have parsed : parse unlinked "http://../x" = .ok dottedHost := by cbv
  have left : lexical "/opt/schemas/../x" = [.name "opt", .name "x"] := by cbv
  have directory : lexical "/opt/schemas" = [.name "opt", .name "schemas"] := by cbv
  refine ⟨.parsed parsed, rfl, rfl, fun names same => ?_⟩
  rw [left, directory] at same
  simp at same

end SoapBindings.Locator
