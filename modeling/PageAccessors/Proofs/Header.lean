import PageAccessors.Proofs.Locations

/-!
# Headers

A header is written line by line, each line behind two slashes, and its lines are those between its
line feeds. For Kotlin a line ends at a carriage return as well (`Kotlin.lines`), so that a carriage
return in the middle of a line ends the comment, and what follows it is read as code, unless it
happens to start with two slashes itself. Nothing else leads out of the comment
(`headerIsComment_iff`): white space at the end of a line is cut off, a line of white space is
written as an empty comment, and a header of nothing else is replaced.
-/

namespace PageAccessors

namespace Kotlin

/-! ## Lines -/

/-- A text with one line feed for each end of a line: for a carriage return, for a line feed, and
for a line feed behind a carriage return. -/
def unified (behindReturn : Bool) : List Char → List Char
  | [] => []
  | c :: rest =>
    if c = '\n' ∧ behindReturn then unified false rest
    else (if c = '\r' then '\n' else c) :: unified (c = '\r') rest

/-- The lines of a text, and what follows the last end of one. -/
def lines (s : List Char) : List (List Char) := (unified false s).splitOn '\n'

theorem unified_append_newline (rest : List Char) : ∀ (s : List Char) (behindReturn : Bool),
    s.getLast? ≠ some '\r' → (s = [] → behindReturn = false) →
    unified behindReturn (s ++ '\n' :: rest) = unified behindReturn s ++ '\n' :: unified false rest
  | [], b, _, hb => by
    rw [hb rfl]
    rfl
  | c :: s, b, hl, _ => by
    have last : s.getLast? ≠ some '\r' := by
      cases s with
      | nil => simp
      | cons d s => rwa [List.getLast?_cons_cons] at hl
    have alone : s = [] → decide (c = '\r') = false := by
      rintro rfl
      simpa using hl
    rw [List.cons_append, unified, unified]
    split_ifs
    · exact unified_append_newline rest s false last fun _ => rfl
    · rw [unified_append_newline rest s _ last alone, List.cons_append]
    · rw [unified_append_newline rest s _ last alone, List.cons_append]

/-- A line feed ends what stands before it, unless that ends in a carriage return. -/
theorem lines_append_newline {s : List Char} (h : s.getLast? ≠ some '\r') (rest : List Char) :
    lines (s ++ '\n' :: rest) = lines s ++ lines rest := by
  rw [lines, unified_append_newline rest s false h fun _ => rfl, List.splitOn_append_cons_self]
  rfl

theorem lines_flatMap_append (rest : List Char) : ∀ {texts : List (List Char)},
    (∀ s ∈ texts, s.getLast? ≠ some '\r') →
    lines (texts.flatMap (· ++ ['\n']) ++ rest) = texts.flatMap lines ++ lines rest
  | [], _ => rfl
  | s :: texts, h => by
    rw [List.forall_mem_cons] at h
    rw [List.flatMap_cons, List.flatMap_cons, List.append_assoc, List.append_assoc,
      List.singleton_append, lines_append_newline h.1, lines_flatMap_append rest h.2,
      List.append_assoc]

/-- Without line feeds, lines end at the carriage returns. -/
theorem lines_of_notMem {s : List Char} (h : '\n' ∉ s) : lines s = s.splitOn '\r' := by
  have all : ∀ (s : List Char) (b : Bool), '\n' ∉ s →
      (unified b s).splitOn '\n' = s.splitOn '\r' := by
    intro s
    induction s with
    | nil => exact fun _ _ => rfl
    | cons c s ih =>
      intro b hn
      rw [List.mem_cons, not_or] at hn
      rw [unified, if_neg (fun hc => hn.1 hc.1.symm), List.splitOn_cons_eq_if_modifyHead,
        List.splitOn_cons_eq_if_modifyHead, ih _ hn.2]
      by_cases hr : c = '\r'
      · simp [hr]
      · simp [hr, Ne.symm hn.1]
  exact all s false h

/-! ## Comments -/

/-- The line is a comment. -/
def IsComment (line : List Char) : Prop := "//".toList <+: line

instance (line : List Char) : Decidable (IsComment line) :=
  inferInstanceAs (Decidable ("//".toList <+: line))

/-- Right behind each carriage return of a text stand two slashes. -/
def ReturnsToComments (s : List Char) : Prop :=
  ∀ front rest, s = front ++ '\r' :: rest → IsComment rest

theorem isComment_append_cons {c : Char} (hc : c ≠ '/') (rest : List Char) :
    ∀ s : List Char, IsComment (s ++ c :: rest) ↔ IsComment s
  | [] => by simp [IsComment, hc.symm]
  | [a] => by simp [IsComment, hc.symm]
  | a :: b :: s => by simp [IsComment]

theorem returnsToComments_append {s : List Char} (h : '\r' ∉ s) {rest : List Char} :
    ReturnsToComments (s ++ rest) ↔ ReturnsToComments rest := by
  constructor
  · intro hr front after he
    exact hr (s ++ front) after (by rw [he, List.append_assoc])
  · intro hr front after he
    rcases List.append_eq_append_iff.1 he with ⟨more, -, he⟩ | ⟨_ | ⟨c, more⟩, hs, he⟩
    · exact hr more after he
    · exact hr [] after he.symm
    · -- The carriage return would stand in the text without one.
      refine absurd ?_ h
      rw [hs, (List.cons.inj he).1]
      exact List.mem_append_right _ (.head _)

theorem returnsToComments_cons {rest : List Char} :
    ReturnsToComments ('\r' :: rest) ↔ IsComment rest ∧ ReturnsToComments rest := by
  constructor
  · intro h
    exact ⟨h [] rest rfl, fun front after he => h ('\r' :: front) after (by rw [he]; rfl)⟩
  · rintro ⟨first, others⟩ front after he
    cases front with
    | nil => exact (List.cons.inj he).2 ▸ first
    | cons c front => exact others front after (List.cons.inj he).2

/-- All parts between the carriage returns of a text are comments exactly if the text starts as one
and so does what stands behind each carriage return. -/
theorem forall_isComment_splitOn_iff (s : List Char) :
    (∀ l ∈ s.splitOn '\r', IsComment l) ↔ IsComment s ∧ ReturnsToComments s := by
  -- The first carriage return ends the first part, and what stands behind it is shorter.
  by_cases hr : '\r' ∈ s
  · obtain ⟨front, rest, hs, hf⟩ := List.eq_append_cons_of_mem hr
    have ih := forall_isComment_splitOn_iff rest
    rw [hs, List.splitOn_append_cons_self_of_not_mem hf, List.forall_mem_cons, ih,
      isComment_append_cons (by decide), returnsToComments_append hf, returnsToComments_cons]
  · rw [List.splitOn_eq_singleton hr, List.forall_mem_singleton]
    refine (and_iff_left ?_).symm
    intro front rest he
    rw [he] at hr
    exact absurd (List.mem_append_right _ (.head _)) hr
termination_by s.length
decreasing_by
  rw [hs, List.length_append, List.length_cons]
  omega

/-- The comment for a line of a header has the line cut at its end behind the slashes. -/
theorem toList_commentLine (line : List Char) : ∃ slashes : List Char,
    (Source.commentLine line).toList = slashes ++ Text.trimEnd line ∧ IsComment slashes ∧
      '\r' ∉ slashes ∧ '\n' ∉ slashes ∧ slashes.getLast? ≠ some '\r' := by
  rw [Source.commentLine]
  split_ifs with hb
  · rw [Text.trimEnd_eq_nil_iff.2 hb]
    exact ⟨"//".toList, rfl, List.prefix_rfl, by decide, by decide, by decide⟩
  · refine ⟨"// ".toList, ?_, by decide, by decide, by decide, by decide⟩
    simp

theorem getLast?_commentLine (line : List Char) :
    (Source.commentLine line).toList.getLast? ≠ some '\r' := by
  obtain ⟨slashes, h, -, -, -, hl⟩ := toList_commentLine line
  rw [h, List.getLast?_append]
  cases ht : (Text.trimEnd line).getLast? with
  | none => simpa using hl
  | some c =>
    have := Text.trimEnd_last ht
    rintro ⟨⟩
    exact absurd this (by decide)

theorem forall_isComment_commentLine_iff {line : List Char} (hn : '\n' ∉ line) :
    (∀ l ∈ lines (Source.commentLine line).toList, IsComment l) ↔
      ReturnsToComments (Text.trimEnd line) := by
  rw [lines_of_notMem (newline_notMem_commentLine hn), forall_isComment_splitOn_iff]
  obtain ⟨slashes, h, hc, hr, -, -⟩ := toList_commentLine line
  have comment : IsComment (slashes ++ Text.trimEnd line) := hc.trans (List.prefix_append _ _)
  rw [h, returnsToComments_append hr, and_iff_right comment]

instance (s : List Char) : Decidable (ReturnsToComments s) :=
  decidable_of_iff (∀ l ∈ ("//".toList ++ s).splitOn '\r', IsComment l) <| by
    have comment : IsComment ("//".toList ++ s) := List.prefix_append _ _
    rw [forall_isComment_splitOn_iff, and_iff_right comment, returnsToComments_append (by decide)]

/-- No line of a header leads out of its comment: up to its last character that is no blank, right
behind each carriage return stand two slashes. -/
def StaysInComments (header : String) : Prop :=
  ∀ line ∈ header.toList.splitOn '\n', ReturnsToComments (Text.trimEnd line)

instance (header : String) : Decidable (StaysInComments header) :=
  inferInstanceAs (Decidable (∀ line ∈ header.toList.splitOn '\n', _))

end Kotlin

namespace AccessorClass

/-- The source of a class starts with comments, one line or more, and one empty line behind them,
and from the package line on it is what it would be without a header. -/
def HeaderIsComment (c : AccessorClass) : Prop :=
  ∃ comments rest : List (List Char), comments ≠ [] ∧ (∀ l ∈ comments, Kotlin.IsComment l) ∧
    Kotlin.lines c.source.toList = comments ++ [] :: ("package " ++ c.package).toList :: rest ∧
    Kotlin.lines { c with header := "" }.source.toList = ("package " ++ c.package).toList :: rest

variable {c : AccessorClass}

theorem toList_source_eq (c : AccessorClass) : c.source.toList =
    ((Source.headerLines c.header).map String.toList).flatMap (· ++ ['\n']) ++
      { c with header := "" }.source.toList := by
  have lines : Source.classLines c =
      Source.headerLines c.header ++ Source.classLines { c with header := "" } := by
    simp [Source.classLines, Source.headerLines, Source.blocks]
  have bare : Source.classLines { c with header := "" } =
      [] ++ Source.classLines { c with header := "" } := rfl
  rw [Kotlin.toList_source_append lines, Kotlin.toList_source_append bare]
  rfl

theorem lines_source (h : c.header ≠ "") : Kotlin.lines c.source.toList =
    ((Text.lines c.header.toList).flatMap fun line =>
      Kotlin.lines (Source.commentLine line).toList) ++
        [] :: Kotlin.lines { c with header := "" }.source.toList := by
  have ends : ∀ l ∈ (Source.headerLines c.header).map String.toList,
      l.getLast? ≠ some '\r' := by
    rw [List.forall_mem_map]
    intro l hl
    rcases Kotlin.mem_headerLines hl with ⟨line, -, rfl⟩ | rfl
    · exact Kotlin.getLast?_commentLine line
    · decide
  have last : ([""].map String.toList).flatMap Kotlin.lines = [[]] := rfl
  rw [toList_source_eq, Kotlin.lines_flatMap_append _ ends, Source.headerLines,
    if_neg (by simpa using h), List.map_append, List.map_map, List.flatMap_append,
    List.flatMap_map, last, List.append_assoc, List.singleton_append]
  simp only [Function.comp_apply]

/-- What follows the header starts with the package line. -/
theorem exists_lines_bare (hn : '\n' ∉ c.package.toList) (hr : '\r' ∉ c.package.toList) :
    ∃ rest, Kotlin.lines { c with header := "" }.source.toList =
      ("package " ++ c.package).toList :: rest := by
  have text : ∃ rest, { c with header := "" }.source.toList =
      ("package " ++ c.package).toList ++ '\n' :: rest := by
    have bare : Source.classLines { c with header := "" } = ["package " ++ c.package] ++ _ := rfl
    rw [Kotlin.toList_source_append bare, List.map_singleton, List.flatMap_singleton,
      List.append_assoc]
    exact ⟨_, rfl⟩
  obtain ⟨rest, h⟩ := text
  have newline : '\n' ∉ ("package " ++ c.package).toList := by simpa using hn
  have noReturn : '\r' ∉ ("package " ++ c.package).toList := by simpa using hr
  refine ⟨Kotlin.lines rest, ?_⟩
  rw [h, Kotlin.lines_append_newline fun hl => noReturn (List.mem_of_getLast? hl),
    Kotlin.lines_of_notMem newline, List.splitOn_eq_singleton noReturn, List.singleton_append]

theorem headerIsComment_iff_staysInComments (h : c.header ≠ "") (hn : '\n' ∉ c.package.toList)
    (hr : '\r' ∉ c.package.toList) :
    c.HeaderIsComment ↔ Kotlin.StaysInComments c.header := by
  obtain ⟨rest, hrest⟩ := exists_lines_bare hn hr
  have front := lines_source h
  have comments : (∀ l ∈ (Text.lines c.header.toList).flatMap fun line =>
      Kotlin.lines (Source.commentLine line).toList, Kotlin.IsComment l) ↔
        Kotlin.StaysInComments c.header := by
    rw [Kotlin.StaysInComments, ← Text.forall_mem_lines_iff (by simp [Kotlin.ReturnsToComments])]
    have one {line : List Char} (hl : line ∈ Text.lines c.header.toList) :=
      Kotlin.forall_isComment_commentLine_iff (Text.newline_notMem_of_mem_lines hl)
    constructor
    · exact fun hc line hl => (one hl).1 fun l hm => hc l (List.mem_flatMap.2 ⟨line, hl, hm⟩)
    · intro hc l hm
      obtain ⟨line, hl, hm⟩ := List.mem_flatMap.1 hm
      exact (one hl).2 (hc line hl) l hm
  constructor
  · rintro ⟨lines, others, -, hc, hs, ho⟩
    rw [hrest] at ho front
    obtain rfl := (List.cons.inj ho).2
    rw [front] at hs
    rw [← comments, List.append_cancel_right hs]
    exact hc
  · intro hc
    refine ⟨_, rest, ?_, comments.2 hc, hrest ▸ front, hrest⟩
    rw [ne_eq, List.flatMap_eq_nil_iff, not_forall]
    have some : Text.lines c.header.toList ≠ [] := Text.lines_ne_nil (by simpa using h)
    obtain ⟨line, hl⟩ := List.exists_mem_of_ne_nil _ some
    exact ⟨line, fun he => List.splitOn_ne_nil _ _ (he hl)⟩

end AccessorClass

/-- The header of the class of an accepted page stays inside comments exactly if none of its lines
leads out of them. -/
theorem headerIsComment_iff {parse : Url.Parser} {p : Page} {d : Declaration}
    (h : validateWith parse p = .ok d) (o : Options) :
    (d.toClass o).HeaderIsComment ↔ Kotlin.StaysInComments o.provenance := by
  have header : (d.toClass o).header ≠ "" := by
    rw [header_toClass, Options.provenance]
    split_ifs with hb
    · decide
    · intro he
      exact hb (by rw [he]; rfl)
  rw [AccessorClass.headerIsComment_iff_staysInComments header
    (notMem_package h o (by decide) (by decide)) (notMem_package h o (by decide) (by decide)),
    header_toClass]

/-- Blank lines, blanks at the ends of lines, and each end of a line; the one that only Kotlin takes
for one leads to a comment. -/
def Options.carefulHeader : Options :=
  { header := "Made by CI \r\n\r\n\t// again\r// by hand\r" }

theorem headerIsComment_search :
    validate Page.search = .ok Page.searchDeclaration ∧
      (Page.searchDeclaration.toClass .carefulHeader).HeaderIsComment :=
  ⟨validate_search, (headerIsComment_iff validate_search .carefulHeader).2 (by decide)⟩

/-- A carriage return in the middle of a line leads out of the comment. -/
theorem not_forall_headerIsComment : ¬ ∀ (p : Page) (d : Declaration) (o : Options),
    validate p = .ok d → (d.toClass o).HeaderIsComment := by
  intro all
  have outside : ¬ Kotlin.StaysInComments ({ header := "Made by\rCI" } : Options).provenance := by
    decide
  have comment := all _ _ { header := "Made by\rCI" } validate_search
  exact outside ((AccessorClass.headerIsComment_iff_staysInComments (by decide) (by decide)
    (by decide)).1 comment)

end PageAccessors
