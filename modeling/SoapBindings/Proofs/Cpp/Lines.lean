import SoapBindings.Cpp.Codec
import SoapBindings.Proofs.Text.Split

/-!
# What generated lines say

Two things are read off the lines that are generated for members. Those that write a member say by
which name and namespace its values go (`writtenName?`, `writtenNs?`). Those that read members are a
chain of branches, of which the first that asks for the name of a value is taken (`branchTaken?`).
Names stand in literals, so it comes first what a literal stands for.
-/

set_option autoImplicit false

namespace SoapBindings.Cpp

open Text

/-! ## Literals -/

/-- What a literal stands for, from behind its opening quote. -/
def unquoted : List Char → List Char
  | [] => []
  | '"' :: _ => []
  | '\\' :: 'n' :: rest => '\n' :: unquoted rest
  | '\\' :: c :: rest => c :: unquoted rest
  | c :: rest => c :: unquoted rest

/-- The text that the first literal of a line stands for. -/
def firstLiteral? : List Char → Option (List Char)
  | [] => none
  | c :: rest => if c = '"' then some (unquoted rest) else firstLiteral? rest

theorem unquoted_of_ne {c : Char} (quote : c ≠ '"') (backslash : c ≠ '\\') (rest : List Char) :
    unquoted (c :: rest) = c :: unquoted rest := by
  rw [unquoted]
  · exact quote
  · exact fun _ h _ => backslash h
  · exact fun _ _ h _ => backslash h

theorem unquoted_escaped (text rest : List Char) :
    unquoted (text.flatMap escapeChar ++ '"' :: rest) = text := by
  induction text with
  | nil => rfl
  | cons c text ih =>
    rw [List.flatMap_cons, List.append_assoc]
    unfold escapeChar
    split
    · exact congrArg _ ih
    · exact congrArg _ ih
    · exact congrArg _ ih
    · next quote backslash _ =>
      rw [List.singleton_append, unquoted_of_ne quote backslash]
      exact congrArg _ ih

theorem firstLiteral?_skip {before : List Char} (quoteless : '"' ∉ before) (rest : List Char) :
    firstLiteral? (before ++ rest) = firstLiteral? rest := by
  induction before with
  | nil => rfl
  | cons c before ih =>
    rw [List.mem_cons, not_or] at quoteless
    rw [List.cons_append, firstLiteral?, if_neg (Ne.symm quoteless.1)]
    exact ih quoteless.2

theorem firstLiteral?_literal (text : String) (after : List Char) :
    firstLiteral? ((literal text).toList ++ after) = some text.toList := by
  have shape : (literal text).toList ++ after =
      '"' :: (text.toList.flatMap escapeChar ++ '"' :: after) := by
    show ("\"" ++ String.ofList (text.toList.flatMap escapeChar) ++ "\"").toList ++ after = _
    simp [String.toList_append]
  rw [shape, firstLiteral?, if_pos rfl, unquoted_escaped]

theorem firstLiteral?_stringOf (text : String) (after : List Char) :
    firstLiteral? ((stringOf text).toList ++ after) = some text.toList := by
  have shape : (stringOf text).toList ++ after =
      "QString::fromLatin1(".toList ++ ((literal text).toList ++ (")".toList ++ after)) := by
    show ("QString::fromLatin1(" ++ literal text ++ ")").toList ++ after = _
    rw [String.toList_append, String.toList_append, List.append_assoc, List.append_assoc]
  rw [shape, firstLiteral?_skip (by decide), firstLiteral?_literal]

/-- The name can stand in a literal as it is. Names of elements and attributes can. -/
def IsPlain (name : String) : Prop := ∀ c ∈ name.toList, c ≠ '"' ∧ c ≠ '\\' ∧ c ≠ '\n'

theorem escaped_of_isPlain {name : String} (h : IsPlain name) :
    name.toList.flatMap escapeChar = name.toList := by
  have each : ∀ c ∈ name.toList, escapeChar c = [c] := by
    intro c hc
    obtain ⟨quote, backslash, lineFeed⟩ := h c hc
    unfold escapeChar
    split
    · exact absurd rfl quote
    · exact absurd rfl backslash
    · exact absurd rfl lineFeed
    · rfl
  rw [List.flatMap_congr each, List.flatMap_singleton']

theorem firstLiteral?_comparedName {name : String} (h : IsPlain name) (after : List Char) :
    firstLiteral? ((comparedName name).toList ++ after) = some name.toList := by
  have shape : (comparedName name).toList ++ after =
      "QLatin1String(".toList ++ ((literal name).toList ++ (')' :: after)) := by
    show ("QLatin1String(\"" ++ name ++ "\")").toList ++ after = _ ++
      (("\"" ++ String.ofList (name.toList.flatMap escapeChar) ++ "\"").toList ++ _)
    simp [String.toList_append, escaped_of_isPlain h]
  rw [shape, firstLiteral?_skip (by decide), firstLiteral?_literal]

/-! ## The branch that is taken -/

/-- The name that a line asks for where it opens a branch. -/
def askedFor? (line : String) : Option (List Char) :=
  let test := "name == "
  ((after? ("if (" ++ test).toList line.toList).or
    (after? ("\x7d else if (" ++ test).toList line.toList)).bind firstLiteral?

/-- The branch that a value of the name takes in a chain, counted from the first. -/
def branchTaken? (name : List Char) : List String → Option Nat
  | [] => none
  | line :: rest =>
    match askedFor? line with
    | none => branchTaken? name rest
    | some asked => if asked = name then some 0 else (branchTaken? name rest).map (· + 1)

theorem askedFor?_indented (line : String) : askedFor? ("    " ++ line) = none := by
  simp [askedFor?, String.toList_append, after?]

variable {style : OptionalStyle} {name : List Char}

/-- Lines that stand deeper open no branch of the chain. -/
theorem branchTaken?_indented (body rest : List String) :
    branchTaken? name (indented body ++ rest) = branchTaken? name rest := by
  induction body with
  | nil => rfl
  | cons line body ih =>
    show branchTaken? name (("    " ++ line) :: (indented body ++ rest)) = _
    rw [branchTaken?, askedFor?_indented]
    exact ih

theorem askedFor?_first (m : Member) (h : IsPlain m.xml.name) :
    askedFor? ("if (" ++ (m.readBranch style).1 ++ ") \x7b") = some m.xml.name.toList := by
  have line : ("if (" ++ (m.readBranch style).1 ++ ") \x7b").toList =
      ("if (" ++ "name == ").toList ++ ((comparedName m.xml.name).toList ++ ") \x7b".toList) := by
    simp [Member.readBranch, String.toList_append]
  rw [askedFor?, line, after?_append, Option.some_or, Option.bind_some,
    firstLiteral?_comparedName h]

theorem askedFor?_later (m : Member) (h : IsPlain m.xml.name) :
    askedFor? ("\x7d else if (" ++ (m.readBranch style).1 ++ ") \x7b") =
      some m.xml.name.toList := by
  have line : ("\x7d else if (" ++ (m.readBranch style).1 ++ ") \x7b").toList =
      ("\x7d else if (" ++ "name == ").toList ++
        ((comparedName m.xml.name).toList ++ ") \x7b".toList) := by
    simp [Member.readBranch, String.toList_append]
  have notFirst : after? ("if (" ++ "name == ").toList
      ("\x7d else if (" ++ (m.readBranch style).1 ++ ") \x7b").toList = none := by
    simp [String.toList_append, after?]
  rw [askedFor?, notFirst, line, after?_append, Option.none_or, Option.bind_some,
    firstLiteral?_comparedName h]

/-- A branch that opens with its member's name is taken for that name, or left to the rest. -/
theorem branchTaken?_branch {opening : String} {m : Member} (body rest : List String)
    (opens : askedFor? opening = some m.xml.name.toList) :
    branchTaken? name (opening :: indented body ++ rest) =
      if m.xml.name.toList = name then some 0 else (branchTaken? name rest).map (· + 1) := by
  show branchTaken? name (opening :: (indented body ++ rest)) = _
  rw [branchTaken?, opens]
  simp only [branchTaken?_indented]

/-- The first member of the name is read. -/
theorem branchTaken?_elseBranches {ms : List Member} (plain : ∀ m ∈ ms, IsPlain m.xml.name) :
    branchTaken? name (elseBranches (ms.map (·.readBranch style))) =
      ms.findIdx? (·.xml.name.toList = name) := by
  induction ms with
  | nil => rfl
  | cons m ms ih =>
    rw [List.map_cons, elseBranches, List.findIdx?_cons,
      branchTaken?_branch _ _ (askedFor?_later m (plain m List.mem_cons_self)),
      ih fun m hm => plain m (List.mem_cons_of_mem _ hm)]
    simp only [decide_eq_true_eq]

theorem branchTaken?_choose {ms : List Member} (plain : ∀ m ∈ ms, IsPlain m.xml.name) :
    branchTaken? name (choose (ms.map (·.readBranch style))) =
      ms.findIdx? (·.xml.name.toList = name) := by
  cases ms with
  | nil => rfl
  | cons m ms =>
    rw [List.map_cons, choose, List.findIdx?_cons,
      branchTaken?_branch _ _ (askedFor?_first m (plain m List.mem_cons_self)),
      branchTaken?_elseBranches fun m hm => plain m (List.mem_cons_of_mem _ hm)]
    simp only [decide_eq_true_eq]

/-! ## What is written -/

/-- What a text gives, first of all, to the line that begins with the opening. -/
def argument? (opening : String) (lines : List String) : Option (List Char) :=
  lines.findSome? fun line =>
    (after? opening.toList (line.toList.dropWhile (· == ' '))).bind firstLiteral?

/-- The name of the values that are written. -/
def writtenName? (lines : List String) : Option (List Char) :=
  argument? "KDSoapValue value = " lines

/-- The namespace that is put on the values that are written. -/
def writtenNs? (lines : List String) : Option (List Char) :=
  argument? "value.setNamespaceUri(" lines

theorem argument?_indented (opening : String) (body : List String) :
    argument? opening (indented body) = argument? opening body := by
  rw [argument?, indented, List.findSome?_map]
  congr 1
  funext line
  simp [String.toList_append, List.dropWhile]

theorem argument?_append (opening : String) (lines more : List String) :
    argument? opening (lines ++ more) = (argument? opening lines).or (argument? opening more) :=
  List.findSome?_append

/-- Nothing is found on a line that begins otherwise. -/
theorem argument?_of_ne {opening line : String} {o c : Char} {os : List Char}
    (hopening : opening.toList = o :: os) (hline : line.toList.head? = some c) (blank : c ≠ ' ')
    (other : o ≠ c) : argument? opening [line] = none := by
  obtain ⟨cs, hline⟩ := List.head?_eq_some_iff.mp hline
  simp [argument?, hopening, hline, blank, after?, other]

theorem argument?_block {opening line closing : String} (body : List String)
    (first : argument? opening [line] = none) (last : argument? opening [closing] = none) :
    argument? opening (block line body closing) = argument? opening body := by
  show argument? opening ([line] ++ (indented body ++ [closing])) = _
  rw [argument?_append, argument?_append, first, last, argument?_indented, Option.none_or,
    Option.or_none]

/-- What a member is written as: its field, what the field points to, or an entry of it. -/
def Member.expressions (m : Member) : List String :=
  [m.field, s!"(*{m.field})", "item", "(*item)"]

/-- What surrounds the values of a member gives them no name and no namespace. -/
theorem argument?_write {opening : String} {o : Char} {os : List Char}
    (hopening : opening.toList = o :: os) (other : o ∉ ['\x7b', '\x7d', 'i', 'f', 'c'])
    (m : Member) :
    ∃ e ∈ m.expressions, argument? opening m.write = argument? opening (m.appendValue e) := by
  simp only [List.mem_cons, List.not_mem_nil, or_false, not_or] at other
  obtain ⟨opened, closed, conditional, loop, next⟩ := other
  have close : argument? opening ["\x7d"] = none := argument?_of_ne hopening rfl (by decide) closed
  have ifLine (condition : String) :
      argument? opening ["if (" ++ condition ++ ") \x7b"] = none := by
    refine argument?_of_ne hopening ?_ (by decide) conditional
    rw [String.toList_append, String.toList_append]
    rfl
  have forLine (item source : String) :
      argument? opening ["for (" ++ item ++ " : " ++ source ++ ") \x7b"] = none := by
    refine argument?_of_ne hopening ?_ (by decide) loop
    rw [String.toList_append, String.toList_append, String.toList_append, String.toList_append]
    rfl
  rw [Member.write]
  split
  · have brace : argument? opening ["\x7b"] = none :=
      argument?_of_ne hopening rfl (by decide) opened
    exact ⟨_, .head _, argument?_block _ brace close⟩
  · exact ⟨_, .tail _ (.head _), argument?_block _ (ifLine _) close⟩
  · exact ⟨_, .tail _ (.head _), argument?_block _ (ifLine _) close⟩
  · exact ⟨_, .tail _ (.tail _ (.head _)), argument?_block _ (forLine _ _) close⟩
  · have entry : argument? opening (ifThen "!item" ["continue;"]) = none := by
      rw [ifThen, argument?_block _ (ifLine _) close]
      exact argument?_of_ne hopening rfl (by decide) next
    refine ⟨_, .tail _ (.tail _ (.tail _ (.head _))), ?_⟩
    rw [forEach, argument?_block _ (forLine _ _) close, argument?_append, entry, Option.none_or]

/-- The first literal in what makes a value is its name. -/
theorem firstLiteral?_written (v : ValueType) (name : String) {expression : String}
    (quoteless : '"' ∉ expression.toList) (after : List Char) :
    firstLiteral? ((v.written name expression).toList ++ after) = some name.toList := by
  unfold ValueType.written
  split
  · simp only [toString, String.toList_append, List.append_assoc]
    rw [firstLiteral?_skip (by decide), firstLiteral?_stringOf]
  · simp only [toString, String.toList_append, List.append_assoc]
    rw [firstLiteral?_skip (by decide), firstLiteral?_stringOf]
  · simp only [toString, String.toList_append, List.append_assoc]
    rw [firstLiteral?_skip quoteless, firstLiteral?_skip (by decide), firstLiteral?_stringOf]
  · simp only [toString, String.toList_append, List.append_assoc]
    rw [firstLiteral?_skip quoteless, firstLiteral?_skip (by decide), firstLiteral?_stringOf]

/-- The line that begins with the opening is found. -/
theorem argument?_line {opening line : String} {rest text : List Char}
    (solid : opening.toList.head?.any (· != ' ')) (begins : line.toList = opening.toList ++ rest)
    (first : firstLiteral? rest = some text) (lines : List String) :
    argument? opening (line :: lines) = some text := by
  have kept : line.toList.dropWhile (· == ' ') = opening.toList ++ rest := by
    rw [begins]
    cases hopening : opening.toList with
    | nil => simp [hopening] at solid
    | cons o os =>
      simp only [hopening, List.head?_cons, Option.any_some, bne_iff_ne] at solid
      rw [List.cons_append, List.dropWhile_cons_of_neg (by simpa using solid)]
  rw [argument?, List.findSome?_cons, kept, after?_append, Option.bind_some, first]

variable {m : Member} {expression : String}

theorem writtenName?_appendValue (quoteless : '"' ∉ expression.toList) :
    writtenName? (m.appendValue expression) = some m.xml.name.toList := by
  refine argument?_line (by decide) ?_ (firstLiteral?_written m.value m.xml.name quoteless [';']) _
  simp only [toString, String.toList_append, List.append_assoc]
  rfl

theorem writtenNs?_appendValue :
    writtenNs? (m.appendValue expression) = m.xml.ns.map String.toList := by
  have opening : "value.setNamespaceUri(".toList = 'v' :: "alue.setNamespaceUri(".toList := by
    decide
  have value : argument? "value.setNamespaceUri("
      [s!"KDSoapValue value = {m.value.written m.xml.name expression};"] = none := by
    refine argument?_of_ne opening (c := 'K') ?_ (by decide) (by decide)
    simp only [toString, String.toList_append, List.append_assoc]
    rfl
  have target (list : String) (h : list.toList.head? = some 'a') :
      argument? "value.setNamespaceUri(" [s!"{list}.append(value);"] = none := by
    refine argument?_of_ne opening (c := 'a') ?_ (by decide) (by decide)
    simp only [toString, String.toList_append, List.head?_append, h, Option.some_or]
  rw [writtenNs?, Member.appendValue, argument?_append, argument?_append, value, Option.none_or,
    target _ (by split <;> rfl), Option.or_none]
  cases m.xml.ns with
  | none => rfl
  | some ns =>
    refine argument?_line (by decide) ?_ (firstLiteral?_stringOf ns ");".toList) _
    simp only [toString, String.toList_append, List.append_assoc]

theorem quoteless_expressions (h : '"' ∉ m.name.toList) :
    ∀ e ∈ m.expressions, '"' ∉ e.toList := by
  have field : '"' ∉ m.field.toList := by
    rw [Member.field, String.toList_append, List.mem_append, not_or]
    exact ⟨by decide, h⟩
  have pointed : '"' ∉ s!"(*{m.field})".toList := by
    simp only [toString, String.toList_append, List.mem_append, not_or]
    exact ⟨⟨by decide, field⟩, by decide⟩
  intro e he
  simp only [Member.expressions, List.mem_cons, List.not_mem_nil, or_false] at he
  rcases he with rfl | rfl | rfl | rfl
  · exact field
  · exact pointed
  · decide
  · decide

theorem writtenName?_write (h : '"' ∉ m.name.toList) :
    writtenName? m.write = some m.xml.name.toList := by
  have opening : "KDSoapValue value = ".toList = 'K' :: "DSoapValue value = ".toList := by decide
  obtain ⟨e, he, same⟩ := argument?_write opening (by decide) m
  exact same.trans (writtenName?_appendValue (quoteless_expressions h e he))

theorem writtenNs?_write : writtenNs? m.write = m.xml.ns.map String.toList := by
  have opening : "value.setNamespaceUri(".toList = 'v' :: "alue.setNamespaceUri(".toList := by
    decide
  obtain ⟨e, _, same⟩ := argument?_write opening (by decide) m
  exact same.trans writtenNs?_appendValue

end SoapBindings.Cpp
