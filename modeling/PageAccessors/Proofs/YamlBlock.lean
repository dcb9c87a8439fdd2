import Mathlib.Data.List.Basic
import Mathlib.Tactic.SplitIfs
import PageAccessors.Proofs.YamlScalar

/-!
# Lines below a bar read back

The lines of a text are written below a bar, behind which marks say what becomes of the line breaks
at its end; for that, a text is divided into these and what comes before them (`Ends`). Line by
line, with the breaks behind each line (`blockLines_indented`), the text is read back
(`readBlock_block`).
-/

namespace PageAccessors.Yaml

/-! ## Lines below a bar -/

theorem lineStart_cases {after : List Char} (h : Stops isSpace after) :
    after = [] ∨ ∃ c rest, after = c :: rest ∧ c ≠ ' ' ∧ c ≠ '\t' ∧ isBreak c = false := by
  cases after with
  | nil => exact .inl rfl
  | cons c rest =>
    have := h.head
    simp only [isSpace, isBlank, Bool.or_eq_false_iff, decide_eq_false_iff_not] at this
    exact .inr ⟨c, rest, rfl, this.1.1, this.1.2, this.2⟩

/-- Line breaks are collected up to a line that is not indented. -/
theorem leadingBreaks_outside {after : List Char} (ha : Stops isSpace after) {g : List Char}
    (hg : ∀ c ∈ g, isBreak c = true) (deepest : Nat) (breaks : List Char) {m : Mark}
    (hm : m.column = 0) :
    ∃ d m', leadingBreaks (some 2) deepest breaks (g ++ after) m =
      some (breaks ++ g, d, ⟨after, m'⟩) ∧ m'.column = 0 := by
  induction g generalizing deepest breaks m with
  | nil =>
    rcases lineStart_cases ha with rfl | ⟨c, rest, rfl, space, tab, hb⟩
    · exact ⟨max deepest m.column, m, by simp [leadingBreaks], hm⟩
    · exact ⟨max deepest m.column, m, by simp [leadingBreaks, space, tab, hb], hm⟩
  | cons b g ih =>
    rw [List.forall_mem_cons] at hg
    obtain ⟨d, m', read, column⟩ := ih hg.2 (max deepest m.column) (breaks ++ [b])
      (m := m.after b) (m.column_after_break hg.1)
    refine ⟨d, m', ?_, column⟩
    have space : b ≠ ' ' := by rintro rfl; cases hg.1
    have tab : b ≠ '\t' := by rintro rfl; cases hg.1
    simpa [leadingBreaks, space, tab, hg.1] using read

/-- Line breaks are collected up to a line, the indentation of which is skipped. -/
theorem leadingBreaks_inside {c : Char} (hc : isBreak c = false) (after : List Char)
    {g : List Char} (hg : ∀ c ∈ g, isBreak c = true) (deepest : Nat) (breaks : List Char)
    {m : Mark} (hm : m.column = 0) :
    ∃ d m', leadingBreaks (some 2) deepest breaks (g ++ ' ' :: ' ' :: c :: after) m =
      some (breaks ++ g, d, ⟨c :: after, m'⟩) ∧ m'.column = 2 := by
  induction g generalizing deepest breaks m with
  | nil =>
    have first : (m.after ' ').column = 1 := by rw [m.column_after rfl, hm]
    have second : ((m.after ' ').after ' ').column = 2 := by rw [Mark.column_after _ rfl, first]
    exact ⟨max deepest 2, (m.after ' ').after ' ',
      by simp [leadingBreaks, hm, first, second, hc], second⟩
  | cons b g ih =>
    rw [List.forall_mem_cons] at hg
    obtain ⟨d, m', read, column⟩ := ih hg.2 (max deepest m.column) (breaks ++ [b])
      (m := m.after b) (m.column_after_break hg.1)
    refine ⟨d, m', ?_, column⟩
    have space : b ≠ ' ' := by rintro rfl; cases hg.1
    have tab : b ≠ '\t' := by rintro rfl; cases hg.1
    simpa [leadingBreaks, space, tab, hg.1] using read

/-- The depth of a line shows by itself if it starts with a character. -/
theorem leadingBreaks_found {c : Char} (hc : isSpace c = false) (after : List Char) {m : Mark}
    (hm : m.column = 0) :
    ∃ m', leadingBreaks none 0 [] (' ' :: ' ' :: c :: after) m =
      some ([], 2, ⟨c :: after, m'⟩) ∧ m'.column = 2 := by
  have first : (m.after ' ').column = 1 := by rw [m.column_after rfl, hm]
  have second : ((m.after ' ').after ' ').column = 2 := by rw [Mark.column_after _ rfl, first]
  have hs := hc
  simp only [isSpace, isBlank, Bool.or_eq_false_iff, decide_eq_false_iff_not] at hs
  exact ⟨(m.after ' ').after ' ', by simp [leadingBreaks, hs, second], second⟩

/-- How a text divides into what comes before the breaks at its end and these; without any, a line
break is written behind it. -/
inductive Ends (s : List Char) : List Char → Char → List Char → Prop
  | line (h : s.getLast?.any isBreak = false) : Ends s s '\n' []
  | breaks {text more : List Char} {b : Char} (hs : s = text ++ b :: more)
    (ht : text.getLast?.any isBreak = false) (ne : text ≠ []) (hb : isBreak b = true)
    (hm : ∀ c ∈ more, isBreak c = true) : Ends s text b more

theorem getLast?_append_of_ne_nil {α : Type} (front : List α) {s : List α} (hs : s ≠ []) :
    (front ++ s).getLast? = s.getLast? := by
  rw [List.getLast?_append, List.getLast?_eq_some_getLast hs]
  rfl

theorem Ends.behind {s text more : List Char} {b : Char} (h : Ends s text b more) (hs : s ≠ [])
    (front : List Char) : Ends (front ++ s) (front ++ text) b more := by
  cases h with
  | line h => exact .line (by rwa [getLast?_append_of_ne_nil front hs])
  | breaks he ht ne hb hm =>
    refine .breaks (by rw [he, List.append_assoc]) ?_ (by simp [ne]) hb hm
    rwa [getLast?_append_of_ne_nil front ne]

/-- The line break that is written behind a text without one. -/
def closing (s : List Char) : List Char := if s.getLast?.any isBreak then [] else ['\n']

def sameChar (c : Char) : List Char := [c]

theorem flatMap_sameChar (s : List Char) : s.flatMap sameChar = s := List.flatMap_singleton' s

theorem blockLines_ends (fuel : Nat) {blank : Bool} {first : Option Char} {breaks : List Char}
    {c : Cursor} (h : c.column = 0) :
    blockLines true 2 (fuel + 1) blank first breaks c = some ⟨[], first, breaks, c⟩ := by
  obtain ⟨rest, m⟩ := c
  cases rest with
  | nil => rfl
  | cons a rest => simp [blockLines, h]

/-- A line is read with the break at its end and the breaks behind that. -/
theorem blockLines_line {line rest more : List Char} {b : Char} {m : Mark} {d : Nat} {c : Cursor}
    (ne : line ≠ []) (hl : ∀ c ∈ line, isBreak c = false) (hb : isBreak b = true)
    (hm : m.column = 2)
    (read : leadingBreaks (some 2) 0 [] rest ((m.past line).after b) = some (more, d, c))
    {fuel : Nat} {below : BlockLines}
    (next : ∀ blank, blockLines true 2 fuel blank (some b) more c = some below)
    (first : Option Char) (breaks : List Char) (blank : Bool) :
    blockLines true 2 (fuel + 1) blank first breaks ⟨line ++ b :: rest, m⟩ =
      some { below with text := first.toList ++ breaks ++ line ++ below.text } := by
  have span : Cursor.span (fun c => !isBreak c) ⟨line ++ b :: rest, m⟩ =
      (line, ⟨b :: rest, m.past line⟩) :=
    Cursor.span_append (fun c hc => by simp [hl c hc]) (.cons (by simp [hb]) _) m
  obtain ⟨a, line, rfl⟩ := List.exists_cons_of_ne_nil ne
  rw [List.cons_append] at span ⊢
  rw [Mark.past_cons] at span read
  simp [blockLines, Cursor.column, hm, span, Cursor.skip, read, next]

theorem blockLines_indented {after : List Char} (ha : Stops isSpace after) (s : List Char) :
    s ≠ [] → Stops isBreak s →
      ∀ (fuel : Nat) (first : Option Char) (breaks : List Char) (m : Mark),
        s.length < fuel → m.column = 2 → ∃ text b more m', m'.column = 0 ∧ Ends s text b more ∧
          ∀ blank, blockLines true 2 fuel blank first breaks
              ⟨indented sameChar false s ++ (closing s ++ after), m⟩ =
            some ⟨first.toList ++ breaks ++ text, some b, more, ⟨after, m'⟩⟩ := by
  induction s using words_induction (p := isBreak) with
  | word w hw =>
    intro ne _ fuel first breaks m hf hm
    obtain ⟨fuel, rfl⟩ : ∃ n, fuel = n + 1 + 1 :=
      ⟨fuel - 2, by have := List.length_pos_iff.2 ne; omega⟩
    have last : w.getLast?.any isBreak = false := any_getLast? ne hw
    have written : indented sameChar false w ++ (closing w ++ after) = w ++ '\n' :: after := by
      have line := indented_line (f := sameChar) hw []
      rw [List.append_nil, flatMap_sameChar] at line
      simp [line, closing, last, indented]
    obtain ⟨d, m', read, column⟩ := leadingBreaks_outside ha (List.forall_mem_nil _) 0 []
      (m := (m.past w).after '\n') (Mark.column_after_break _ rfl)
    have line := blockLines_line ne hw (b := '\n') rfl hm read
      (fun blank => blockLines_ends fuel column) first breaks
    rw [written]
    refine ⟨w, '\n', [], m', column, .line last, fun blank => (line blank).trans ?_⟩
    simp
  | gap w g rest hw hg hgs hr ih =>
    intro _ start fuel first breaks m hf hm
    obtain ⟨fuel, rfl⟩ : ∃ n, fuel = n + 1 + 1 :=
      ⟨fuel - 2, by
        have := List.length_pos_iff.2 hg
        simp only [List.length_append] at hf
        omega⟩
    obtain ⟨b, g, rfl⟩ := List.exists_cons_of_ne_nil hg
    rw [List.forall_mem_cons] at hgs
    have ne : w ≠ [] := by
      rintro rfl
      rw [List.nil_append, List.cons_append] at start
      exact absurd start.head (by simp [hgs.1])
    have start : indented sameChar false (w ++ (b :: g ++ rest)) =
        w ++ (b :: (g ++ indented sameChar true rest)) := by
      rw [indented_line hw, flatMap_sameChar,
        indented_breaks (List.cons_ne_nil b g) (List.forall_mem_cons.2 hgs), List.cons_append]
    have last : w.getLast?.any isBreak = false := any_getLast? ne hw
    cases rest with
    | nil =>
      obtain ⟨d, m', read, column⟩ := leadingBreaks_outside ha hgs.2 0 []
        (m := (m.past w).after b) (Mark.column_after_break _ hgs.1)
      have line := blockLines_line ne hw hgs.1 hm read (fun blank => blockLines_ends fuel column)
        first breaks
      have closed : closing (w ++ (b :: g ++ [])) = [] := by
        rw [closing, List.append_nil, getLast?_append_of_ne_nil w hg,
          any_getLast? hg (List.forall_mem_cons.2 hgs), if_pos rfl]
      refine ⟨w, b, g, m', column, .breaks (by simp) last ne hgs.1 hgs.2, fun blank => ?_⟩
      rw [start, closed]
      simpa [indented] using line blank
    | cons c rest =>
      obtain ⟨d, m', read, column⟩ := leadingBreaks_inside hr.head
        (indented sameChar false rest ++ (closing (c :: rest) ++ after)) hgs.2 0 []
        (m := (m.past w).after b) (Mark.column_after_break _ hgs.1)
      have longer : (c :: rest).length < fuel + 1 := by
        simp only [List.length_append, List.length_cons] at hf ⊢
        omega
      obtain ⟨text, b', more, m'', column', ends, next⟩ :=
        ih (List.cons_ne_nil c rest) hr (fuel + 1) (some b) g m' longer column
      have closed : closing (w ++ (b :: g ++ c :: rest)) = closing (c :: rest) := by
        rw [closing, closing, ← List.append_assoc, getLast?_append_of_ne_nil _ (by simp)]
      refine ⟨w ++ (b :: g ++ text), b', more, m'', column', ?_, fun blank => ?_⟩
      · rw [← List.append_assoc, ← List.append_assoc]
        exact ends.behind (List.cons_ne_nil c rest) (w ++ b :: g)
      · have line : indented sameChar true (c :: rest) =
            ' ' :: ' ' :: c :: indented sameChar false rest := by
          simp [indented, hr.head, sameChar]
        have here : indented sameChar false (c :: rest) = c :: indented sameChar false rest := by
          simp [indented, hr.head, sameChar]
        rw [here] at next
        have whole := blockLines_line ne hw hgs.1 hm read next first breaks blank
        rw [start, closed, line]
        simpa using whole

/-! ## The marks behind the bar -/

/-- The mark for what becomes of the last line breaks. -/
def Chomp.mark : Chomp → List Char
  | .strip => ['-']
  | .clip => []
  | .keep => ['+']

/-- What is left of the line breaks at the end of a text. -/
def Chomp.tail (first : Option Char) (more : List Char) : Chomp → List Char
  | .strip => []
  | .clip => first.toList
  | .keep => first.toList ++ more

def depthMark (s : List Char) : List Char := if s.head?.any isSpace then ['2'] else []

theorem blockMarks_of_last {front : List Char} {c : Char} (h : isBreak c = false) :
    blockMarks (front ++ [c]) = depthMark (front ++ [c]) ++ Chomp.mark .strip := by
  simp [blockMarks, depthMark, Chomp.mark, h]

theorem blockMarks_of_break {front : List Char} {c b : Char} (hc : isBreak c = false)
    (hb : isBreak b = true) :
    blockMarks (front ++ [c, b]) = depthMark (front ++ [c, b]) ++ Chomp.mark .clip := by
  simp [blockMarks, depthMark, Chomp.mark, hc, hb]

theorem blockMarks_of_breaks (front : List Char) {more : List Char}
    (hm : ∀ c ∈ more, isBreak c = true)
    (h : 1 < more.length ∨ front = [] ∧ more ≠ []) :
    blockMarks (front ++ more) = depthMark (front ++ more) ++ Chomp.mark .keep := by
  have ne : more ≠ [] := by
    rintro rfl
    simp at h
  obtain ⟨before, b, rfl⟩ := List.eq_nil_or_concat' more |>.resolve_left ne
  have hb : isBreak b = true := hm b (by simp)
  rcases List.eq_nil_or_concat' before with rfl | ⟨before, c, rfl⟩
  · obtain rfl : front = [] := by simpa using h
    simp [blockMarks, depthMark, Chomp.mark, hb]
  · have hc : isBreak c = true := hm c (by simp)
    simp [blockMarks, depthMark, Chomp.mark, hb, hc]

/-- The marks say how a text ends. -/
theorem Ends.exists_chomp {s text more : List Char} {b : Char} (h : Ends s text b more)
    (ne : s ≠ []) :
    ∃ chomp : Chomp, blockMarks s = depthMark s ++ chomp.mark ∧
      text ++ chomp.tail (some b) more = s := by
  cases h with
  | line h =>
    obtain ⟨front, c, rfl⟩ := List.eq_nil_or_concat' s |>.resolve_left ne
    exact ⟨.strip, blockMarks_of_last (by simpa using h), by simp [Chomp.tail]⟩
  | breaks hs ht tne hb hm =>
    obtain ⟨front, c, rfl⟩ := List.eq_nil_or_concat' text |>.resolve_left tne
    have hc : isBreak c = false := by simpa using ht
    cases more with
    | nil => exact ⟨.clip, by simpa [hs] using blockMarks_of_break hc hb, hs.symm⟩
    | cons d more =>
      have := blockMarks_of_breaks (front ++ [c]) (List.forall_mem_cons.2 ⟨hb, hm⟩)
        (.inl (by simp))
      exact ⟨.keep, by simpa [hs] using this, hs.symm⟩

/-- The depth of the lines, where it is marked. -/
def markedDepth (s : List Char) : Option Nat := if s.head?.any isSpace then some 2 else none

theorem blockHeader_marks (s rest : List Char) (chomp : Chomp) :
    blockHeader (depthMark s ++ chomp.mark ++ '\n' :: rest) =
      some (chomp, markedDepth s, (depthMark s ++ chomp.mark).length) := by
  by_cases h : s.head?.any isSpace = true
  · simp only [depthMark, markedDepth, if_pos h]
    cases chomp <;> rfl
  · simp only [depthMark, markedDepth, if_neg h]
    cases chomp <;> rfl

/-- Below its bar and marks, a text is made up of line breaks, lines and line breaks. -/
theorem readBlock_lines {s written breaks : List Char} {chomp : Chomp} {m : Mark} {deepest : Nat}
    {c : Cursor} {lines : BlockLines} (marks : blockMarks s = depthMark s ++ chomp.mark)
    (read : leadingBreaks (markedDepth s) 0 [] written
      (((m.after '|').past (blockMarks s)).after '\n') = some (breaks, deepest, c))
    (depth : (markedDepth s).getD (max deepest 1) = 2)
    (next : blockLines true 2 (c.rest.length + 1) false none breaks c = some lines) :
    readBlock true 0 ⟨'|' :: (blockMarks s ++ '\n' :: written), m⟩ =
      some (lines.text ++ chomp.tail lines.first lines.more, lines.cursor) := by
  have header := blockHeader_marks s written chomp
  rw [← marks] at header
  have finish : Cursor.finishLine? ⟨'\n' :: written, (m.after '|').past (blockMarks s)⟩ =
      some ⟨written, ((m.after '|').past (blockMarks s)).after '\n'⟩ := rfl
  have skip := Cursor.skip_append (blockMarks s) ('\n' :: written) (m.after '|')
  have known : (markedDepth s).map (fun n => if (0 : Int) ≥ 0 then (0 : Int).toNat + n else n) =
      markedDepth s := by
    rw [markedDepth]
    split_ifs <;> rfl
  simp only [readBlock, Cursor.skip, header, skip, finish, Option.bind_eq_bind, Option.bind_some,
    known, read]
  simp only [show max deepest (max ((0 : Int) + 1).toNat 1) = max deepest 1 from rfl, depth, next]
  cases chomp <;> rfl

/-- What the writer puts below a bar is read back. -/
theorem readBlock_block {s after : List Char} (hs : s ≠ []) (ha : Stops isSpace after) (m : Mark) :
    ∃ m' : Mark, m'.column = 0 ∧
      readBlock true 0 ⟨block s ++ (closing s ++ after), m⟩ = some (s, ⟨after, m'⟩) := by
  have written : block s ++ (closing s ++ after) =
      '|' :: (blockMarks s ++ '\n' :: (indented sameChar true s ++ (closing s ++ after))) := by
    rw [block, List.append_assoc, List.cons_append, List.cons_append]
    rfl
  rw [written]
  obtain ⟨start, hstart⟩ : ∃ start, start = ((m.after '|').past (blockMarks s)).after '\n' :=
    ⟨_, rfl⟩
  have column : start.column = 0 := by rw [hstart, Mark.column_after_break _ rfl]
  obtain ⟨g, rest, rfl, hg, hr⟩ := exists_append_stops isBreak s
  cases rest with
  | nil =>
    rw [List.append_nil] at hs hstart ⊢
    have marks : blockMarks g = depthMark g ++ Chomp.mark .keep :=
      blockMarks_of_breaks [] hg (.inr ⟨rfl, hs⟩)
    have depth : markedDepth g = some 2 := by
      obtain ⟨b, g, rfl⟩ := List.exists_cons_of_ne_nil hs
      simp [markedDepth, isSpace, hg b (by simp)]
    have closed : closing g = [] := by rw [closing, any_getLast? hs hg, if_pos rfl]
    have line := indented_breaks (f := sameChar) hs hg true []
    rw [List.append_nil] at line
    obtain ⟨d, m', read, column⟩ := leadingBreaks_outside ha hg 0 [] column
    rw [List.nil_append, ← depth, hstart] at read
    have whole := readBlock_lines (s := g) (m := m) marks read (by rw [depth]; rfl)
      (blockLines_ends _ column)
    rw [line, closed]
    exact ⟨m', column, by simpa [indented, Chomp.tail] using whole⟩
  | cons c rest =>
    have line : indented sameChar true (g ++ c :: rest) =
        g ++ ' ' :: ' ' :: c :: indented sameChar false rest := by
      have here : indented sameChar true (c :: rest) =
          ' ' :: ' ' :: c :: indented sameChar false rest := by
        simp [indented, hr.head, sameChar]
      rcases g with _ | ⟨b, g⟩
      · exact here
      · rw [indented_breaks (List.cons_ne_nil b g) hg, here]
    have closed : closing (g ++ c :: rest) = closing (c :: rest) := by
      rw [closing, closing, getLast?_append_of_ne_nil _ (by simp)]
    -- The indentation is read as marked, or found if the text starts with a character.
    obtain ⟨d, m', read, depth, column⟩ : ∃ d m',
        leadingBreaks (markedDepth (g ++ c :: rest)) 0 []
          (g ++ ' ' :: ' ' :: c :: (indented sameChar false rest ++
            (closing (c :: rest) ++ after))) start =
          some (g, d, ⟨c :: (indented sameChar false rest ++ (closing (c :: rest) ++ after)), m'⟩) ∧
        (markedDepth (g ++ c :: rest)).getD (max d 1) = 2 ∧ m'.column = 2 := by
      by_cases h : (g ++ c :: rest).head?.any isSpace = true
      · obtain ⟨d, m', read, column'⟩ := leadingBreaks_inside hr.head _ hg 0 [] column
        exact ⟨d, m', by rw [markedDepth, if_pos h]; exact read, by rw [markedDepth, if_pos h]; rfl,
          column'⟩
      · cases g with
        | nil =>
          obtain ⟨m', read, column'⟩ := leadingBreaks_found (by simpa using h) _ column
          exact ⟨2, m', by rw [markedDepth, if_neg h]; exact read,
            by rw [markedDepth, if_neg h]; rfl, column'⟩
        | cons b g => exact absurd (by simp [isSpace, hg b (by simp)]) h
    have here : indented sameChar false (c :: rest) = c :: indented sameChar false rest := by
      simp [indented, hr.head, sameChar]
    obtain ⟨text, b, more, m'', column, ends, lines⟩ := blockLines_indented ha (c :: rest)
      (List.cons_ne_nil c rest) hr
      ((c :: (indented sameChar false rest ++ (closing (c :: rest) ++ after))).length + 1) none g m'
      (by
        have := length_le_indented (f := sameChar) (fun c => List.cons_ne_nil c []) rest false
        simp only [List.length_append, List.length_cons]
        omega) column
    rw [here] at lines
    obtain ⟨chomp, marks, whole⟩ := (ends.behind (List.cons_ne_nil c rest) g).exists_chomp hs
    rw [hstart] at read
    refine ⟨m'', column, ?_⟩
    have read := readBlock_lines (m := m) marks read depth (lines false)
    rw [line, closed]
    simpa [whole] using read

end PageAccessors.Yaml
