import PageAccessors.Proofs.KotlinSource

/-!
# The parts of a source

What else a source tells of its class: the package on the first line that starts with one, the
imports, the name on the last line that a class starts with, and how each member looks its elements
up. The header holds comments only and stands in front of the package, and nothing below the class's
own line looks like one, so that the package (`packageName?_source`), the name (`className?_source`)
and the lookups (`lookups_source`) come back whatever the header and the imports hold. The imports
come back (`imports_source`) if none of them breaks its line, and with them all the lines that the
source was written from (`splitOn_source`).
-/

namespace PageAccessors.Kotlin

/-! ## The package -/

/-- What follows the word for a package on the first line that starts with it. Lines end at line
feeds only here, whereas those of `Kotlin.lines` end at carriage returns as well. -/
def packageName? (source : String) : Option String :=
  ((source.toList.splitOn '\n').findSome? (past? "package ")).map String.ofList

theorem past?_commentLine (line : List Char) :
    past? "package " (Source.commentLine line).toList = none := by
  refine past?_eq_none ?_
  rintro ⟨_, h⟩
  unfold Source.commentLine at h
  split_ifs at h <;> simp at h

theorem newline_notMem_commentLine {line : List Char} (h : '\n' ∉ line) :
    '\n' ∉ (Source.commentLine line).toList := by
  have trimmed : '\n' ∉ Text.trimEnd line := fun hm => h ((Text.trimEnd_prefix line).subset hm)
  unfold Source.commentLine
  split_ifs
  · decide
  · simp [trimmed]

/-- The lines of a header are comments, and an empty one. -/
theorem mem_headerLines {header l : String} (h : l ∈ Source.headerLines header) :
    (∃ line ∈ Text.lines header.toList, l = Source.commentLine line) ∨ l = "" := by
  unfold Source.headerLines at h
  split_ifs at h
  · cases h
  · rw [List.mem_append, List.mem_map, List.mem_singleton] at h
    exact h.imp_left fun ⟨line, hm, he⟩ => ⟨line, hm, he.symm⟩

/-- A line of a header stays one line, and starts with no package. -/
theorem headerLines_spec (header : String) : ∀ l ∈ Source.headerLines header,
    '\n' ∉ l.toList ∧ past? "package " l.toList = none := by
  intro l hl
  rcases mem_headerLines hl with ⟨line, hm, rfl⟩ | rfl
  · exact ⟨newline_notMem_commentLine (Text.newline_notMem_of_mem_lines hm),
      past?_commentLine line⟩
  · exact ⟨by decide, rfl⟩

theorem packageName?_source {c : AccessorClass} (h : '\n' ∉ c.package.toList) :
    packageName? c.source = some c.package := by
  have header := headerLines_spec c.header
  have lines : ∀ l ∈ (Source.headerLines c.header ++ ["package " ++ c.package]).map String.toList,
      '\n' ∉ l := by
    intro l hl
    rw [List.mem_map] at hl
    obtain ⟨s, hs, rfl⟩ := hl
    rw [List.mem_append, List.mem_singleton] at hs
    rcases hs with hs | rfl
    · exact (header s hs).1
    · simp [h]
  have front : Source.classLines c = (Source.headerLines c.header ++ ["package " ++ c.package]) ++
      ("" :: Source.importLines c.imports ++
        ["context(WebDriver)", "public class " ++ c.name.text ++ " \x7b"] ++ blockLines c ++
        ["\x7d"]) := by
    simp [Source.classLines, blockLines]
  have none : ((Source.headerLines c.header).map String.toList).findSome? (past? "package ") =
      none := by
    rw [List.findSome?_eq_none_iff]
    intro l hl
    obtain ⟨s, hs, rfl⟩ := List.mem_map.1 hl
    exact (header s hs).2
  rw [packageName?, toList_source_append front, splitOn_lines_append _ lines, List.map_append,
    List.append_assoc, List.findSome?_append, none, Option.none_or, List.map_singleton,
    List.singleton_append, List.findSome?_cons, String.toList_append, past?_append,
    Option.map_some, String.ofList_toList]

/-! ## The imports -/

/-- A source in which no import breaks its line has the lines that it was written from. -/
theorem splitOn_source {c : AccessorClass} (package : '\n' ∉ c.package.toList)
    (imports : ∀ x ∈ c.imports, '\n' ∉ x.toList) (members : ∀ m ∈ c.members, IsReadable m) :
    c.source.toList.splitOn '\n' = (Source.classLines c).map String.toList ++ [[]] := by
  have importLine : ∀ l ∈ Source.importLines c.imports, '\n' ∉ l.toList := by
    intro l hl
    unfold Source.importLines at hl
    split_ifs at hl
    · cases hl
    rw [List.mem_append, List.mem_map, List.mem_singleton] at hl
    rcases hl with ⟨x, hx, rfl⟩ | rfl
    · simpa using imports x hx
    · decide
  have header : ∀ l ∈ Source.headerLines c.header, '\n' ∉ l.toList :=
    fun l hl => (headerLines_spec _ l hl).1
  have packageLine : '\n' ∉ ("package " ++ c.package).toList := by simpa using package
  have name := (isWord_identifier c.name).notMem (c := '\n') (by decide)
  have own : '\n' ∉ ("public class " ++ c.name.text ++ " \x7b").toList := by simpa using name
  have body : ∀ l ∈ blockLines c, '\n' ∉ l.toList :=
    fun l hl => (isBodyLine_blockLines members l hl).1
  have lines : ∀ l ∈ Source.classLines c, '\n' ∉ l.toList := by
    simp only [Source.classLines, List.forall_mem_append, List.forall_mem_cons]
    have nil : ∀ l ∈ [], '\n' ∉ String.toList l := List.forall_mem_nil _
    exact ⟨⟨⟨⟨⟨header, packageLine, by decide, nil⟩, importLine⟩, by decide, own, nil⟩, body⟩,
      by decide⟩
  have all : Source.classLines c = Source.classLines c ++ [] := (List.append_nil _).symm
  rw [toList_source_append all]
  simpa using splitOn_lines (List.forall_mem_map.2 lines)

/-- What follows the word for an import on the lines that start with it. -/
def imports (source : String) : List String :=
  ((source.toList.splitOn '\n').filterMap (past? "import ")).map String.ofList

theorem past?_import_of_head? {line : List Char} (h : line.head? ≠ some 'i') :
    past? "import " line = none := by
  refine past?_eq_none ?_
  rintro ⟨rest, rfl⟩
  exact h rfl

theorem head?_headerLines (header : String) :
    ∀ l ∈ Source.headerLines header, l.toList.head? ≠ some 'i' := by
  intro l hl
  rcases mem_headerLines hl with ⟨line, -, rfl⟩ | rfl
  · unfold Source.commentLine
    split_ifs <;> simp
  · decide

theorem head?_memberLine (m : Member) : (Source.memberLine m).toList.head? = some ' ' := by
  cases m with
  | property p =>
    rw [Source.memberLine]
    unfold Source.propertyLine
    simp
  | function f =>
    rw [Source.memberLine, functionLine_eq]
    simp

theorem head?_blockLines (c : AccessorClass) :
    ∀ l ∈ blockLines c, l.toList.head? ≠ some 'i' := by
  refine forall_mem_blockLines (by decide) ?_ fun m _ => ?_
  · simp [Source.initializerLines]
  · rw [head?_memberLine]
    decide

theorem filterMap_importLines (imports : List String) :
    ((Source.importLines imports).map String.toList).filterMap (past? "import ") =
      imports.map String.toList := by
  have one (x : String) : past? "import " ("import " ++ x).toList = some x.toList := by
    rw [String.toList_append, past?_append]
  unfold Source.importLines
  split_ifs with h
  · rw [List.isEmpty_iff.1 h]
    rfl
  · have last : ([""].map String.toList).filterMap (past? "import ") = [] := rfl
    rw [List.map_append, List.map_map, List.filterMap_append, List.filterMap_map, last,
      List.append_nil, ← List.filterMap_eq_map']
    exact List.filterMap_congr fun x _ => one x

/-- The imports of a class come back from its source, if none of them breaks its line. -/
theorem imports_source {c : AccessorClass} (package : '\n' ∉ c.package.toList)
    (lines : ∀ x ∈ c.imports, '\n' ∉ x.toList) (members : ∀ m ∈ c.members, IsReadable m) :
    imports c.source = c.imports := by
  have none {texts : List String} (h : ∀ l ∈ texts, l.toList.head? ≠ some 'i') :
      (texts.map String.toList).filterMap (past? "import ") = [] :=
    List.filterMap_eq_nil_iff.2 (List.forall_mem_map.2 fun l hl => past?_import_of_head? (h l hl))
  have split : Source.classLines c =
      (Source.headerLines c.header ++ ["package " ++ c.package, ""]) ++
        Source.importLines c.imports ++
        (["context(WebDriver)", "public class " ++ c.name.text ++ " \x7b"] ++ blockLines c ++
          ["\x7d"]) := by
    simp [Source.classLines, blockLines]
  have front : ∀ l ∈ Source.headerLines c.header ++ ["package " ++ c.package, ""],
      l.toList.head? ≠ some 'i' := by
    rw [List.forall_mem_append]
    exact ⟨head?_headerLines _, by simp⟩
  have body : ∀ l ∈ ["context(WebDriver)", "public class " ++ c.name.text ++ " \x7b"] ++
      blockLines c ++ ["\x7d"], l.toList.head? ≠ some 'i' := by
    rw [List.forall_mem_append, List.forall_mem_append]
    exact ⟨⟨by simp, head?_blockLines c⟩, by simp⟩
  have last : [[]].filterMap (past? "import ") = [] := rfl
  rw [imports, splitOn_source package lines members, split, List.map_append, List.map_append,
    List.filterMap_append, List.filterMap_append, List.filterMap_append, none front, none body,
    filterMap_importLines, last]
  simp

/-! ## The class -/

/-- The name on the last line that a class starts with, where lines end at line feeds only. -/
def className? (source : String) : Option String :=
  ((source.toList.splitOn '\n').reverse.findSome? (past? "public class ")).map fun s => (word s).1

theorem past?_of_not_isClassLine {line : List Char} (h : isClassLine line = false) :
    past? "public class " line = none := by
  refine past?_eq_none fun hp => ?_
  rw [isClassLine, List.isPrefixOf_iff_prefix.2 hp] at h
  cases h

theorem className?_source {c : AccessorClass} (h : ∀ m ∈ c.members, IsReadable m) :
    className? c.source = some c.name.text := by
  obtain ⟨front, hf⟩ := exists_splitOn_source (isBodyLine_blockLines h)
  have none : ((blockLines c).map String.toList ++ ["\x7d".toList, []]).reverse.findSome?
      (past? "public class ") = none := by
    rw [List.findSome?_eq_none_iff]
    intro l hl
    rw [List.mem_reverse, List.mem_append, List.mem_map] at hl
    rcases hl with ⟨s, hs, rfl⟩ | hl
    · exact past?_of_not_isClassLine (isBodyLine_blockLines h s hs).2
    · revert l
      decide
  have own : past? "public class " ("public class " ++ c.name.text ++ " \x7b").toList =
      some (c.name.text.toList ++ " \x7b".toList) := by
    rw [String.toList_append, String.toList_append, List.append_assoc, past?_append]
  rw [className?, hf, List.reverse_append, List.reverse_cons, List.append_assoc,
    List.findSome?_append, none, Option.none_or, List.singleton_append, List.findSome?_cons, own,
    Option.map_some, word_append (isWord_identifier c.name) rfl]

/-! ## Lookups -/

/-- How a member looks its elements up: with a type and a delegate when it is first used, or by a
factory at once. -/
inductive Lookup where
  | lazily (type delegate : String)
  | atOnce (factory : String)
  deriving DecidableEq

def delegate? (line : List Char) : Option Lookup := do
  let name := word (← past? "  public val " line)
  let type := word (← past? ": " name.2)
  let delegate := word (← past? " by " type.2)
  some (.lazily type.1 delegate.1)

/-- The factory at the start of a text, without the class that it belongs to. -/
def factoryName (s : List Char) : String := (word ((past? "By." s).getD s)).1

def factory? (line : List Char) : Option Lookup := do
  let name := word (← past? "  public fun " line)
  let s ← past? "(" name.2
  let s ← past? "): WebElement = findElement(" (s.dropWhile (· ≠ ')'))
  some (.atOnce (factoryName s))

def lookupOf? (line : List Char) : Option Lookup :=
  match delegate? line with
  | some l => some l
  | none => factory? line

/-- How the members of a source look their elements up. -/
def lookups (source : String) : List Lookup := (bodyLines source).filterMap lookupOf?

/-- The factory of a strategy, or the class that stands for the one without. -/
def factoryOf (s : Strategy) : String := s.byFactory?.getD "ByIdOrName"

/-- How a member is read to look its elements up. -/
def readLookup : Member → Lookup
  | .property p => .lazily p.locator.cardinality.typeName p.locator.strategy.delegate
  | .function f => .atOnce (factoryOf f.strategy)

theorem delegate?_eq_none {line : List Char} (h : ¬ "  public val ".toList <+: line) :
    delegate? line = none := by
  unfold delegate?
  rw [past?_eq_none h]
  rfl

theorem factory?_eq_none {line : List Char} (h : ¬ "  public fun ".toList <+: line) :
    factory? line = none := by
  unfold factory?
  rw [past?_eq_none h]
  rfl

theorem delegate?_propertyLine (p : Property) :
    delegate? (Source.propertyLine p).toList = some (readLookup (.property p)) := by
  unfold delegate? Source.propertyLine
  simp only [Option.bind_eq_bind, String.toList_append, List.append_assoc, -String.reduceToList]
  rw [bind_past?, word_append (isWord_identifier p.name) rfl, bind_past?,
    word_append (isWord_typeName p.locator.cardinality) rfl, bind_past?,
    word_append (isWord_delegate p.locator.strategy) rfl, readLookup]

theorem factoryName_lookupText (s : Strategy) (rest : List Char) :
    factoryName ((lookupText s).toList ++ rest) = factoryOf s := by
  unfold factoryName lookupText factoryOf
  cases h : s.byFactory? with
  | none =>
    have hn : past? "By." ("ByIdOrName(".toList ++ rest) = none := by
      refine past?_eq_none ?_
      rintro ⟨_, h⟩
      simp at h
    have split : "ByIdOrName(".toList ++ rest = "ByIdOrName".toList ++ '(' :: rest := rfl
    simp only
    rw [hn, Option.getD_none, split, word_append (by decide) rfl, Option.getD_none]
  | some factory =>
    simp only
    rw [String.toList_append, String.toList_append, List.append_assoc, List.append_assoc,
      past?_append, Option.getD_some, word_append (isWord_byFactory? h) rfl, Option.getD_some]

theorem factory?_functionLine (f : Function) :
    factory? (Source.functionLine f).toList = some (readLookup (.function f)) := by
  unfold factory?
  rw [functionLine_eq]
  simp only [Option.bind_eq_bind, String.toList_append, List.append_assoc, -String.reduceToList]
  rw [bind_past?, word_append (isWord_identifier f.name) rfl, bind_past?, dropWhile_paramsText,
    bind_past?, factoryName_lookupText, readLookup]

theorem lookupOf?_memberLine : ∀ m : Member,
    lookupOf? (Source.memberLine m).toList = some (readLookup m)
  | .property p => by rw [lookupOf?, Source.memberLine, delegate?_propertyLine]
  | .function f => by
    have hv : ¬ "  public val ".toList <+: (Source.functionLine f).toList := by
      rw [functionLine_eq]
      rintro ⟨_, h⟩
      simp at h
    rw [lookupOf?, Source.memberLine, delegate?_eq_none hv]
    exact factory?_functionLine f

theorem lookupOf?_initializerLines (url : String) :
    (Source.initializerLines url).filterMap (fun l => lookupOf? l.toList) = [] := by
  have h0 : lookupOf? "  init \x7b".toList = none := by decide
  have h1 : lookupOf? "  \x7d".toList = none := by decide
  have h2 : lookupOf? ("    get(" ++ Source.quoted url ++ ")").toList = none := by
    rw [lookupOf?, delegate?_eq_none]
    · refine factory?_eq_none ?_
      rintro ⟨_, h⟩
      simp at h
    · rintro ⟨_, h⟩
      simp at h
  simp only [Source.initializerLines, List.filterMap_cons, h0, h1, h2, List.filterMap_nil]

theorem lookups_source {c : AccessorClass} (h : ∀ m ∈ c.members, IsReadable m) :
    lookups c.source = c.members.map readLookup := by
  have member : c.members.filterMap (fun m => lookupOf? (Source.memberLine m).toList) =
      c.members.filterMap fun m => some (readLookup m) :=
    List.filterMap_congr fun m _ => lookupOf?_memberLine m
  rw [lookups, filterMap_bodyLines h (by decide) (by decide), member, List.filterMap_eq_map']
  simp [lookupOf?_initializerLines]

end PageAccessors.Kotlin
