import Mathlib.Data.List.TakeWhile
import PageAccessors.Proofs.KotlinLiteral

/-!
# Sources read back

The members of a class, read off the lines of its source: a property with the literal that it looks
its elements up by, and a function with its parameters and its literal (`Kotlin.accessors`). The
addresses that the class opens are read the same way (`Kotlin.openings`).

A class's own line is the last that starts as such lines do, whatever the header and the imports
hold, and every line below it was written for one block of the body and holds no line feed. So the
members come back from the source in their order (`accessors_source`), and so does the address
(`openings_source`).
-/

namespace PageAccessors.Kotlin

/-- A member as it is read: its name, its parameters if it is a function, and its literal. -/
inductive Accessor where
  | property (name : String) (argument : List Part)
  | function (name : String) (params : List String) (argument : List Part)
  deriving DecidableEq

/-! ## Reading lines -/

/-- What follows a text that must stand at the start. -/
def past? (text : String) (s : List Char) : Option (List Char) :=
  if text.toList <+: s then some (s.drop text.length) else none

/-- The word at the start, and what follows it. -/
def word (s : List Char) : String × List Char :=
  (String.ofList (s.takeWhile isNameChar), s.dropWhile isNameChar)

def property? (line : List Char) : Option Accessor := do
  let name := word (← past? "  public val " line)
  let type := word (← past? ": " name.2)
  let delegate := word (← past? " by " type.2)
  let again := word (← past? "<" delegate.2)
  let (argument, s) ← literal? (← past? ">(" again.2)
  if again.1 = type.1 ∧ s = [')'] then some (.property name.1 argument) else none

def param? (s : List Char) : Option String :=
  let name := word (s.dropWhile (· = ' '))
  if name.2 = ": String".toList then some name.1 else none

/-- What follows the name of a lookup and its opening parenthesis. -/
def lookup? (s : List Char) : Option (List Char) :=
  match past? "ByIdOrName(" s with
  | some s => some s
  | none => (past? "By." s).bind fun s => past? "(" (word s).2

def function? (line : List Char) : Option Accessor := do
  let name := word (← past? "  public fun " line)
  let s ← past? "(" name.2
  let params ← ((s.takeWhile (· ≠ ')')).splitOn ',').mapM param?
  let s ← past? "): WebElement = findElement(" (s.dropWhile (· ≠ ')'))
  let (argument, s) ← literal? (← lookup? s)
  if s = [')', ')'] then some (.function name.1 params argument) else none

def accessor? (line : List Char) : Option Accessor :=
  match property? line with
  | some a => some a
  | none => function? line

/-- The address of a line that opens one. -/
def opening? (line : List Char) : Option (List Part) := do
  let (argument, s) ← literal? (← past? "    get(" line)
  if s = [')'] then some argument else none

/-- The line that a class starts with. -/
def isClassLine (line : List Char) : Bool := "public class ".toList.isPrefixOf line

/-- The lines below the last line that a class starts with. -/
def bodyLines (source : String) : List (List Char) :=
  ((source.toList.splitOn '\n').reverse.takeWhile fun line => !isClassLine line).reverse

def accessors (source : String) : List Accessor := (bodyLines source).filterMap accessor?

def openings (source : String) : List (List Part) := (bodyLines source).filterMap opening?

/-! ## Words and what stands between them -/

theorem past?_append (text : String) (rest : List Char) :
    past? text (text.toList ++ rest) = some rest := by
  rw [past?, if_pos (List.prefix_append _ _), ← String.length_toList, List.drop_left]

theorem past?_eq_none {text : String} {s : List Char} (h : ¬ text.toList <+: s) :
    past? text s = none :=
  if_neg h

/-- Every character may stand in a name. -/
def IsWord (text : String) : Prop := ∀ c ∈ text.toList, isNameChar c = true

instance (text : String) : Decidable (IsWord text) :=
  decidable_of_iff (text.toList.all isNameChar = true) List.all_eq_true

theorem isWord_identifier (i : Identifier) : IsWord i.text := (nameChars i.accepted).2

theorem isWord_typeName (c : Cardinality) : IsWord c.typeName := by cases c <;> decide

theorem isWord_delegate (s : Strategy) : IsWord s.delegate := by cases s <;> decide

theorem IsWord.notMem {text : String} (h : IsWord text) {c : Char} (hc : isNameChar c = false) :
    c ∉ text.toList := notMem_of_nameChars h hc

/-- A word ends at the first character that cannot stand in it. -/
theorem word_append {name : String} (h : IsWord name) {s : List Char}
    (hs : s.head?.all (! isNameChar ·) = true) : word (name.toList ++ s) = (name, s) := by
  have ht : s.takeWhile isNameChar = [] ∧ s.dropWhile isNameChar = s := by
    cases s with
    | nil => exact ⟨rfl, rfl⟩
    | cons c s => simp_all
  rw [word, List.takeWhile_append_of_pos h, List.dropWhile_append_of_pos h, ht.1, ht.2,
    List.append_nil, String.ofList_toList]

theorem bind_past? {α : Type} (text : String) (rest : List Char) (f : List Char → Option α) :
    (past? text (text.toList ++ rest)).bind f = f rest := by
  rw [past?_append, Option.bind_some]

/-! ## Members -/

theorem property?_propertyLine (p : Property) :
    property? (Source.propertyLine p).toList =
      some (.property p.name.text (p.locator.value.toList.map .char)) := by
  have type := isWord_typeName p.locator.cardinality
  have delegate := isWord_delegate p.locator.strategy
  unfold property? Source.propertyLine
  simp only [Option.bind_eq_bind, String.toList_append, List.append_assoc, -String.reduceToList]
  rw [bind_past?, word_append (isWord_identifier p.name) rfl, bind_past?, word_append type rfl,
    bind_past?, word_append delegate rfl, bind_past?, word_append type rfl, bind_past?,
    show (")" : String).toList = [')'] from rfl, literal?_quoted _ (by decide), Option.bind_some,
    if_pos ⟨rfl, rfl⟩]

/-- The parameters of a function as they stand between its parentheses. -/
def paramsText (params : List Identifier) : String :=
  ", ".intercalate (params.map fun p => p.text ++ ": String")

theorem param?_append (i : Identifier) {blanks : List Char} (hb : ∀ c ∈ blanks, c = ' ') :
    param? (blanks ++ (i.text ++ ": String").toList) = some i.text := by
  obtain ⟨first, rest, hi⟩ := List.exists_cons_of_ne_nil (nameChars i.accepted).1
  have hf : first ≠ ' ' := by
    rintro rfl
    have := (nameChars i.accepted).2 ' ' (by simp [hi])
    exact absurd this (by decide)
  have hd : (blanks ++ (i.text ++ ": String").toList).dropWhile (· = ' ') =
      i.text.toList ++ ": String".toList := by
    rw [List.dropWhile_append_of_pos (by simpa using hb), String.toList_append, hi,
      List.cons_append, List.dropWhile_cons_of_neg (by simpa using hf)]
  rw [param?, hd, word_append (isWord_identifier i) rfl]
  simp

theorem notMem_param {c : Char} (hc : isNameChar c = false) (hs : c ∉ ": String".toList)
    (i : Identifier) : c ∉ (i.text ++ ": String").toList := by
  rw [String.toList_append, List.mem_append, not_or]
  exact ⟨(isWord_identifier i).notMem hc, hs⟩

theorem paramsText_cons_cons (i j : Identifier) (params : List Identifier) :
    (paramsText (i :: j :: params)).toList =
      (i.text ++ ": String").toList ++ ',' :: ' ' :: (paramsText (j :: params)).toList := by
  simp [paramsText]

theorem notMem_paramsText {c : Char} (hc : isNameChar c = false) (hs : c ∉ ": String".toList)
    (ha : c ∉ ", ".toList) : ∀ params : List Identifier, c ∉ (paramsText params).toList
  | [] => by simp [paramsText]
  | [i] => by simpa [paramsText] using notMem_param hc hs i
  | i :: j :: params => by
    rw [paramsText_cons_cons, List.mem_append, not_or]
    refine ⟨notMem_param hc hs i, ?_⟩
    simpa using ⟨fun h => ha (by simp [h]), fun h => ha (by simp [h]),
      notMem_paramsText hc hs ha (j :: params)⟩

theorem mapM_param?_splitOn : ∀ (blanks : List Char) (i : Identifier) (params : List Identifier),
    (∀ c ∈ blanks, c = ' ') →
    ((blanks ++ (paramsText (i :: params)).toList).splitOn ',').mapM param? =
      some ((i :: params).map Identifier.text)
  | blanks, i, params, hb => by
    have hn : ',' ∉ blanks ++ (i.text ++ ": String").toList := by
      rw [List.mem_append, not_or]
      exact ⟨fun h => absurd (hb _ h) (by decide), notMem_param (by decide) (by decide) i⟩
    cases params with
    | nil =>
      rw [show (paramsText [i]).toList = (i.text ++ ": String").toList by simp [paramsText],
        List.splitOn_eq_singleton hn, List.mapM_cons, param?_append i hb]
      rfl
    | cons j params =>
      rw [paramsText_cons_cons, ← List.append_assoc, List.splitOn_append_cons_self_of_not_mem hn,
        List.mapM_cons, param?_append i hb]
      have ih := mapM_param?_splitOn [' '] j params (by simp)
      rw [List.singleton_append] at ih
      simp [ih]

/-- What stands in front of the literal that a function looks its element up by. -/
def lookupText (s : Strategy) : String :=
  match s.byFactory? with
  | some factory => "By." ++ factory ++ "("
  | none => "ByIdOrName("

theorem byExpression_eq (s : Strategy) (argument : String) :
    Source.byExpression s argument = lookupText s ++ argument ++ ")" := by
  unfold Source.byExpression lookupText
  cases s.byFactory? <;> rfl

theorem functionLine_eq (f : Function) : Source.functionLine f =
    "  public fun " ++ f.name.text ++ "(" ++ paramsText f.params ++
      "): WebElement = findElement(" ++
      (lookupText f.strategy ++ Source.templateLiteral f.template ++ ")") ++ ")" := by
  unfold Source.functionLine paramsText
  rw [byExpression_eq]

theorem isWord_byFactory? {s : Strategy} {factory : String} (h : s.byFactory? = some factory) :
    IsWord factory := by
  cases s <;> simp only [Strategy.byFactory?, Option.some.injEq, reduceCtorEq] at h <;>
    subst h <;> decide

theorem lookup?_lookupText (s : Strategy) (rest : List Char) :
    lookup? ((lookupText s).toList ++ rest) = some rest := by
  unfold lookup? lookupText
  cases h : s.byFactory? with
  | none =>
    simp only
    rw [past?_append]
  | some factory =>
    have hn : past? "ByIdOrName(" (("By." ++ factory ++ "(").toList ++ rest) = none := by
      refine past?_eq_none ?_
      rintro ⟨_, h⟩
      simp at h
    simp only
    rw [hn, String.toList_append, String.toList_append, List.append_assoc, List.append_assoc]
    simp only [-String.reduceToList]
    rw [bind_past?, word_append (isWord_byFactory? h) rfl, past?_append]

theorem takeWhile_paramsText (params : List Identifier) (rest : List Char) :
    ((paramsText params).toList ++ ("): WebElement = findElement(".toList ++ rest)).takeWhile
      (· ≠ ')') = (paramsText params).toList := by
  have hn := notMem_paramsText (c := ')') (by decide) (by decide) (by decide) params
  rw [List.takeWhile_append_of_pos fun c hc => decide_eq_true (ne_of_mem_of_not_mem hc hn)]
  simp

theorem dropWhile_paramsText (params : List Identifier) (rest : List Char) :
    ((paramsText params).toList ++ ("): WebElement = findElement(".toList ++ rest)).dropWhile
      (· ≠ ')') = "): WebElement = findElement(".toList ++ rest := by
  have hn := notMem_paramsText (c := ')') (by decide) (by decide) (by decide) params
  rw [List.dropWhile_append_of_pos fun c hc => decide_eq_true (ne_of_mem_of_not_mem hc hn)]
  simp

theorem function?_functionLine {f : Function} (hp : f.params ≠ [])
    (hn : ∀ name ∈ f.template.parameters, IsName name) :
    function? (Source.functionLine f).toList =
      some (.function f.name.text (f.params.map Identifier.text)
        (f.template.segments.flatMap segmentParts)) := by
  obtain ⟨i, params, hi⟩ := List.exists_cons_of_ne_nil hp
  have hm := mapM_param?_splitOn [] i params (by simp)
  rw [List.nil_append, ← hi] at hm
  unfold function?
  rw [functionLine_eq]
  simp only [Option.bind_eq_bind, String.toList_append, List.append_assoc, -String.reduceToList]
  rw [bind_past?, word_append (isWord_identifier f.name) rfl, bind_past?, takeWhile_paramsText, hm,
    Option.bind_some, dropWhile_paramsText, bind_past?, lookup?_lookupText, Option.bind_some,
    show (")" : String).toList = [')'] from rfl, List.singleton_append,
    literal?_templateLiteral hn (by decide), Option.bind_some, if_pos rfl]

/-- A member that can be read back: a function has parameters, and names in its template. -/
def IsReadable : Member → Prop
  | .property _ => True
  | .function f => f.params ≠ [] ∧ ∀ name ∈ f.template.parameters, IsName name

/-- What a member is read as. -/
def readMember : Member → Accessor
  | .property p => .property p.name.text (p.locator.value.toList.map .char)
  | .function f => .function f.name.text (f.params.map Identifier.text)
      (f.template.segments.flatMap segmentParts)

theorem property?_eq_none {line : List Char} (h : ¬ "  public val ".toList <+: line) :
    property? line = none := by
  unfold property?
  rw [past?_eq_none h]
  rfl

theorem function?_eq_none {line : List Char} (h : ¬ "  public fun ".toList <+: line) :
    function? line = none := by
  unfold function?
  rw [past?_eq_none h]
  rfl

theorem opening?_eq_none {line : List Char} (h : ¬ "    get(".toList <+: line) :
    opening? line = none := by
  unfold opening?
  rw [past?_eq_none h]
  rfl

theorem accessor?_eq_none {line : List Char} (h : ¬ "  public ".toList <+: line) :
    accessor? line = none := by
  have hv := (show "  public ".toList <+: "  public val ".toList by decide)
  have hf := (show "  public ".toList <+: "  public fun ".toList by decide)
  rw [accessor?, property?_eq_none fun hp => h (hv.trans hp)]
  exact function?_eq_none fun hp => h (hf.trans hp)

theorem accessor?_memberLine : ∀ {m : Member}, IsReadable m →
    accessor? (Source.memberLine m).toList = some (readMember m)
  | .property p, _ => by rw [accessor?, Source.memberLine, property?_propertyLine, readMember]
  | .function f, h => by
    have hv : ¬ "  public val ".toList <+: (Source.functionLine f).toList := by
      rw [functionLine_eq]
      rintro ⟨_, h⟩
      simp at h
    rw [accessor?, Source.memberLine, property?_eq_none hv]
    exact function?_functionLine h.1 h.2

theorem opening?_memberLine (m : Member) : opening? (Source.memberLine m).toList = none := by
  refine opening?_eq_none ?_
  rintro ⟨_, h⟩
  cases m with
  | property p =>
    rw [Source.memberLine] at h
    unfold Source.propertyLine at h
    simp at h
  | function f =>
    rw [Source.memberLine, functionLine_eq] at h
    simp at h

theorem opening?_getLine (url : String) :
    opening? ("    get(" ++ Source.quoted url ++ ")").toList = some (url.toList.map .char) := by
  unfold opening?
  simp only [Option.bind_eq_bind, String.toList_append, List.append_assoc, -String.reduceToList]
  rw [bind_past?, show (")" : String).toList = [')'] from rfl, literal?_quoted _ (by decide),
    Option.bind_some, if_pos rfl]

theorem accessor?_getLine (url : String) :
    accessor? ("    get(" ++ Source.quoted url ++ ")").toList = none := by
  refine accessor?_eq_none ?_
  rintro ⟨_, h⟩
  simp at h

/-! ## Lines -/

theorem digitChar_ne_newline : ∀ d < 16, Nat.digitChar d ≠ '\n' := by decide

theorem newline_notMem_escapeChar (c : Char) : '\n' ∉ Source.escapeChar c := by
  unfold Source.escapeChar
  split
  case h_7 h1 h2 h3 h4 h5 h6 =>
    split_ifs with hc
    · have digit : ∀ m, '\n' ≠ Nat.digitChar (m % 16) := fun m =>
        (digitChar_ne_newline _ (Nat.mod_lt _ (by decide))).symm
      simp [Source.fourHex, digit]
    · simpa using Ne.symm h4
  all_goals decide

theorem newline_notMem_escape (text : List Char) : '\n' ∉ Source.escape text := by
  rw [Source.escape, List.mem_flatMap]
  rintro ⟨c, -, hc⟩
  exact newline_notMem_escapeChar c hc

theorem newline_notMem_quoted (text : String) : '\n' ∉ (Source.quoted text).toList := by
  simp [Source.quoted, newline_notMem_escape]

theorem newline_notMem_templateLiteral {t : Template} (h : ∀ name ∈ t.parameters, IsName name) :
    '\n' ∉ (Source.templateLiteral t).toList := by
  have segment : ∀ s ∈ t.segments, '\n' ∉ printed s := by
    intro s hs
    cases s with
    | literal text => exact newline_notMem_escape _
    | placeholder name =>
      have := (h name (Template.mem_parameters.2 (List.mem_filterMap.2 ⟨_, hs, rfl⟩))).notMem
        (c := '\n') (by decide)
      simpa [printed] using this
  simp only [templateLiteral_eq, String.toList_ofList, List.mem_append, List.mem_cons,
    List.mem_flatMap, not_or]
  refine ⟨⟨by decide, ?_⟩, by decide⟩
  rintro ⟨s, hs, hm⟩
  exact segment s hs hm

theorem newline_notMem_memberLine : ∀ {m : Member}, IsReadable m →
    '\n' ∉ (Source.memberLine m).toList
  | .property p, _ => by
    have name := (isWord_identifier p.name).notMem (c := '\n') (by decide)
    have type := (isWord_typeName p.locator.cardinality).notMem (c := '\n') (by decide)
    have delegate := (isWord_delegate p.locator.strategy).notMem (c := '\n') (by decide)
    have value := newline_notMem_quoted p.locator.value
    rw [Source.memberLine]
    unfold Source.propertyLine
    simp [name, type, delegate, value]
  | .function f, h => by
    have name := (isWord_identifier f.name).notMem (c := '\n') (by decide)
    have params := notMem_paramsText (c := '\n') (by decide) (by decide) (by decide) f.params
    have template := newline_notMem_templateLiteral h.2
    have lookup : '\n' ∉ (lookupText f.strategy).toList := by cases f.strategy <;> decide
    rw [Source.memberLine, functionLine_eq]
    simp [name, params, template, lookup]

/-- Lines without a line feed come back from the front of a text. -/
theorem splitOn_lines_append (rest : List Char) : ∀ {lines : List (List Char)},
    (∀ l ∈ lines, '\n' ∉ l) →
    (lines.flatMap (· ++ ['\n']) ++ rest).splitOn '\n' = lines ++ rest.splitOn '\n'
  | [], _ => rfl
  | l :: lines, h => by
    rw [List.forall_mem_cons] at h
    rw [List.flatMap_cons, List.append_assoc, List.append_assoc, List.singleton_append,
      List.splitOn_append_cons_self_of_not_mem h.1, splitOn_lines_append rest h.2,
      List.cons_append]

/-- Lines without a line feed come back from the text that ends each of them with one. -/
theorem splitOn_lines {lines : List (List Char)} (h : ∀ l ∈ lines, '\n' ∉ l) :
    (lines.flatMap (· ++ ['\n'])).splitOn '\n' = lines ++ [[]] := by
  simpa using splitOn_lines_append [] h

theorem exists_splitOn_append (rest : List Char) : ∀ lines : List (List Char),
    ∃ front, (lines.flatMap (· ++ ['\n']) ++ rest).splitOn '\n' = front ++ rest.splitOn '\n'
  | [] => ⟨[], rfl⟩
  | l :: lines => by
    obtain ⟨front, h⟩ := exists_splitOn_append rest lines
    refine ⟨l.splitOn '\n' ++ front, ?_⟩
    rw [List.flatMap_cons, List.append_assoc, List.append_assoc, List.singleton_append,
      List.splitOn_append_cons_self, h, List.append_assoc]

/-- The last of some elements is where the others are found behind it. -/
theorem reverse_takeWhile_reverse {α : Type} {p : α → Bool} {x : α} {front body : List α}
    (hx : p x = false) (hb : ∀ y ∈ body, p y = true) :
    ((front ++ x :: body).reverse.takeWhile p).reverse = body := by
  rw [List.reverse_append, List.reverse_cons, List.append_assoc,
    List.takeWhile_append_of_pos fun y hy => hb y (List.mem_reverse.1 hy), List.singleton_append,
    List.takeWhile_cons_of_neg (by simp [hx]), List.append_nil, List.reverse_reverse]

theorem filterMap_intercalate {α β : Type} {f : α → Option β} {sep : List α}
    (hs : sep.filterMap f = []) : ∀ blocks : List (List α),
    (sep.intercalate blocks).filterMap f = blocks.flatMap (List.filterMap f)
  | [] => rfl
  | [b] => by simp
  | b :: b' :: blocks => by
    rw [List.intercalate_cons_cons, List.filterMap_append, List.filterMap_append, hs,
      filterMap_intercalate hs (b' :: blocks), List.append_nil]
    rfl

theorem forall_mem_intercalate {α : Type} {P : α → Prop} {sep : List α} (hs : ∀ a ∈ sep, P a) :
    ∀ {blocks : List (List α)}, (∀ b ∈ blocks, ∀ a ∈ b, P a) → ∀ a ∈ sep.intercalate blocks, P a
  | [], _ => by simp
  | [b], h => by simpa using h
  | b :: b' :: blocks, h => by
    rw [List.forall_mem_cons] at h
    rw [List.intercalate_cons_cons, List.forall_mem_append, List.forall_mem_append]
    exact ⟨⟨h.1, hs⟩, forall_mem_intercalate hs h.2⟩

/-- The lines above the one that a class starts with. -/
def frontLines (c : AccessorClass) : List String :=
  Source.headerLines c.header ++ ["package " ++ c.package, ""] ++ Source.importLines c.imports ++
    ["context(WebDriver)"]

/-- The lines below the one that a class starts with, except for the last brace. -/
def blockLines (c : AccessorClass) : List String := [""].intercalate (Source.blocks c)

theorem toList_source_append {c : AccessorClass} {front rest : List String}
    (h : Source.classLines c = front ++ rest) :
    c.source.toList = (front.map String.toList).flatMap (· ++ ['\n']) ++
      (rest.map String.toList).flatMap (· ++ ['\n']) := by
  unfold AccessorClass.source
  rw [h, String.toList_join, List.flatMap_map, List.flatMap_map, List.flatMap_map,
    ← List.flatMap_append]
  exact List.flatMap_congr fun l _ => by simp

/-- A line that stays one line, and starts no class. -/
def IsBodyLine (line : String) : Prop := '\n' ∉ line.toList ∧ isClassLine line.toList = false

/-- The last lines of a source are the class's own line and what is written below it. -/
theorem exists_splitOn_source {c : AccessorClass} (h : ∀ l ∈ blockLines c, IsBodyLine l) :
    ∃ front, c.source.toList.splitOn '\n' = front ++ ("public class " ++ c.name.text ++
      " \x7b").toList :: ((blockLines c).map String.toList ++ ["\x7d".toList, []]) := by
  have split : Source.classLines c = frontLines c ++
      (("public class " ++ c.name.text ++ " \x7b") :: blockLines c ++ ["\x7d"]) := by
    simp [Source.classLines, frontLines, blockLines]
  have name := (isWord_identifier c.name).notMem (c := '\n') (by decide)
  have hl : ∀ l ∈ (("public class " ++ c.name.text ++ " \x7b") :: blockLines c ++ ["\x7d"]).map
      String.toList, '\n' ∉ l := by
    intro l hm
    rw [List.mem_map] at hm
    obtain ⟨s, hs, rfl⟩ := hm
    rw [List.cons_append, List.mem_cons, List.mem_append, List.mem_singleton] at hs
    rcases hs with rfl | hs | rfl
    · simp [name]
    · exact (h s hs).1
    · decide
  obtain ⟨front, hf⟩ := exists_splitOn_append
    (((("public class " ++ c.name.text ++ " \x7b") :: blockLines c ++ ["\x7d"]).map
        String.toList).flatMap (· ++ ['\n'])) ((frontLines c).map String.toList)
  refine ⟨front, ?_⟩
  rw [toList_source_append split, hf, splitOn_lines hl, List.cons_append, List.map_cons,
    List.cons_append, List.map_append, List.append_assoc]
  rfl

/-- The lines of a class's body, as they are read, are the lines written below its own. -/
theorem bodyLines_source {c : AccessorClass} (h : ∀ l ∈ blockLines c, IsBodyLine l) :
    bodyLines c.source = (blockLines c).map String.toList ++ ["\x7d".toList, []] := by
  obtain ⟨front, hf⟩ := exists_splitOn_source h
  rw [bodyLines, hf]
  refine reverse_takeWhile_reverse ?_ ?_
  · simp [isClassLine]
  · intro l hm
    rw [List.mem_append, List.mem_map] at hm
    rcases hm with ⟨s, hs, rfl⟩ | hm
    · rw [(h s hs).2]
      rfl
    · revert l
      decide

theorem isBodyLine_memberLine {m : Member} (h : IsReadable m) :
    IsBodyLine (Source.memberLine m) := by
  refine ⟨newline_notMem_memberLine h, ?_⟩
  cases m with
  | property p =>
    rw [Source.memberLine]
    unfold Source.propertyLine
    simp [isClassLine, List.isPrefixOf]
  | function f =>
    rw [Source.memberLine, functionLine_eq]
    simp [isClassLine, List.isPrefixOf]

theorem isBodyLine_initializerLines (url : String) :
    ∀ l ∈ Source.initializerLines url, IsBodyLine l := by
  have quoted := newline_notMem_quoted url
  simp [Source.initializerLines, IsBodyLine, isClassLine, List.isPrefixOf, quoted]

/-- The lines of a body are those of its blocks, and empty ones. -/
theorem forall_mem_blockLines {c : AccessorClass} {P : String → Prop} (gap : P "")
    (initializer : ∀ url, ∀ l ∈ Source.initializerLines url, P l)
    (member : ∀ m ∈ c.members, P (Source.memberLine m)) : ∀ l ∈ blockLines c, P l := by
  refine forall_mem_intercalate (List.forall_mem_singleton.2 gap) fun b hb => ?_
  rw [Source.blocks, List.mem_append, List.mem_map, List.mem_map] at hb
  rcases hb with ⟨url, -, rfl⟩ | ⟨m, hm, rfl⟩
  · exact initializer url
  · exact List.forall_mem_singleton.2 (member m hm)

theorem isBodyLine_blockLines {c : AccessorClass} (h : ∀ m ∈ c.members, IsReadable m) :
    ∀ l ∈ blockLines c, IsBodyLine l :=
  forall_mem_blockLines (by simp [IsBodyLine, isClassLine]) isBodyLine_initializerLines
    fun m hm => isBodyLine_memberLine (h m hm)

/-- What is read off the lines of a body is read off its blocks. -/
theorem filterMap_bodyLines {α : Type} {c : AccessorClass} (h : ∀ m ∈ c.members, IsReadable m)
    {f : List Char → Option α} (h0 : f [] = none) (h1 : f ['\x7d'] = none) :
    (bodyLines c.source).filterMap f =
      (c.initializer.toList.flatMap fun url =>
        (Source.initializerLines url).filterMap fun l => f l.toList) ++
      c.members.filterMap fun m => f (Source.memberLine m).toList := by
  have sep : [""].filterMap (fun l => f l.toList) = [] := by simp [h0]
  have member : c.members.flatMap (fun m => [Source.memberLine m].filterMap fun l => f l.toList) =
      c.members.filterMap fun m => f (Source.memberLine m).toList := by
    rw [List.filterMap_eq_flatMap_toList]
    exact List.flatMap_congr fun m _ => by cases hm : f (Source.memberLine m).toList <;> simp [hm]
  rw [bodyLines_source (isBodyLine_blockLines h), List.filterMap_append, List.filterMap_map,
    blockLines, Function.comp_def, filterMap_intercalate sep, Source.blocks, List.flatMap_append,
    List.flatMap_map, List.flatMap_map, member]
  simp [h0, h1]

/-- The members of a class come back from its source. -/
theorem accessors_source {c : AccessorClass} (h : ∀ m ∈ c.members, IsReadable m) :
    accessors c.source = c.members.map readMember := by
  have init : ∀ url,
      (Source.initializerLines url).filterMap (fun l => accessor? l.toList) = [] := by
    intro url
    have h0 : accessor? "  init \x7b".toList = none := by decide
    have h1 : accessor? "  \x7d".toList = none := by decide
    simp only [Source.initializerLines, List.filterMap_cons, h0, accessor?_getLine, h1,
      List.filterMap_nil]
  rw [accessors, filterMap_bodyLines h (by decide) (by decide)]
  have member : c.members.filterMap (fun m => accessor? (Source.memberLine m).toList) =
      c.members.filterMap fun m => some (readMember m) :=
    List.filterMap_congr fun m hm => accessor?_memberLine (h m hm)
  rw [member, List.filterMap_eq_map']
  simp [init]

/-- The address that a class opens comes back from its source. -/
theorem openings_source {c : AccessorClass} (h : ∀ m ∈ c.members, IsReadable m) :
    openings c.source = c.initializer.toList.map fun url => url.toList.map .char := by
  have init : ∀ url, (Source.initializerLines url).filterMap (fun l => opening? l.toList) =
      [url.toList.map .char] := by
    intro url
    have h0 : opening? "  init \x7b".toList = none := by decide
    have h1 : opening? "  \x7d".toList = none := by decide
    simp only [Source.initializerLines, List.filterMap_cons, h0, opening?_getLine, h1,
      List.filterMap_nil]
  rw [openings, filterMap_bodyLines h (by decide) (by decide)]
  simp only [init, opening?_memberLine]
  cases c.initializer <;> simp

end PageAccessors.Kotlin
