import Mathlib.Data.Bool.AllAny
import Mathlib.Data.List.Basic
import Mathlib.Data.List.TakeWhile
import Mathlib.Tactic.Ring
import Mathlib.Tactic.SplitIfs
import PageAccessors.Yaml.Writer

/-!
# Plain texts read back

A text of one line is read word by word, and what stands between two words is a gap
(`words_induction`). A text that the writer leaves without quotes ends with its line
(`readPlain_line`), and a key ends at its colon (`readPlain_key`).
-/

namespace PageAccessors.Yaml

/-! ## Cursors -/

/-- The place behind some characters. -/
def Mark.past (m : Mark) (s : List Char) : Mark := s.foldl Mark.after m

namespace Mark

variable (m : Mark)

@[simp]
theorem past_nil : m.past [] = m := rfl

@[simp]
theorem past_cons (c : Char) (s : List Char) : m.past (c :: s) = (m.after c).past s := rfl

@[simp]
theorem past_append (s t : List Char) : m.past (s ++ t) = (m.past s).past t :=
  List.foldl_append

theorem column_after {c : Char} (h : isBreak c = false) : (m.after c).column = m.column + 1 := by
  simp [after, h]

theorem column_after_break {c : Char} (h : isBreak c = true) : (m.after c).column = 0 := by
  simp [after, h]

/-- On a line, every character takes a column. -/
theorem past_line {s : List Char} (h : ∀ c ∈ s, isBreak c = false) :
    m.past s = ⟨m.index + s.length, m.line, m.column + s.length⟩ := by
  induction s generalizing m with
  | nil => rfl
  | cons c s ih =>
    rw [List.forall_mem_cons] at h
    rw [past_cons, ih _ h.2]
    simp [after, h.1, Nat.add_assoc, Nat.add_comm 1]

end Mark

/-- A text that does not go on with a character of a kind. -/
def Stops (p : Char → Bool) (s : List Char) : Prop := ∀ c ∈ s.head?, p c = false

namespace Stops

variable {p : Char → Bool}

theorem nil : Stops p [] := nofun

theorem cons {c : Char} (h : p c = false) (s : List Char) : Stops p (c :: s) := by
  simpa [Stops] using h

theorem head {c : Char} {s : List Char} (h : Stops p (c :: s)) : p c = false := h c rfl

theorem append {s : List Char} (h : Stops p s) (hs : s ≠ []) (t : List Char) :
    Stops p (s ++ t) := by
  cases s with
  | nil => exact absurd rfl hs
  | cons c s => exact cons h.head _

end Stops

theorem Cursor.skip_append (s rest : List Char) (m : Mark) :
    Cursor.skip s.length ⟨s ++ rest, m⟩ = ⟨rest, m.past s⟩ := by
  induction s generalizing m with
  | nil => cases rest <;> rfl
  | cons c s ih => exact ih (m.after c)

theorem Cursor.span_append {p : Char → Bool} {s rest : List Char} (hs : ∀ c ∈ s, p c = true)
    (hr : Stops p rest) (m : Mark) :
    Cursor.span p ⟨s ++ rest, m⟩ = (s, ⟨rest, m.past s⟩) := by
  show spanList p (s ++ rest) m = _
  induction s generalizing m with
  | nil =>
    cases rest with
    | nil => rfl
    | cons c rest => simp [spanList, hr.head]
  | cons c s ih =>
    rw [List.forall_mem_cons] at hs
    simp [spanList, hs.1, ih hs.2]

theorem exists_append_stops (p : Char → Bool) (s : List Char) :
    ∃ a b, s = a ++ b ∧ (∀ c ∈ a, p c = true) ∧ Stops p b :=
  ⟨s.takeWhile p, s.dropWhile p, List.takeWhile_append_dropWhile.symm,
    fun _ hc => List.mem_takeWhile_imp hc, fun c hc => by
      have := List.head?_dropWhile_not p s
      rw [Option.mem_def.1 hc] at this
      simpa using this⟩

/-- What holds of a word, and of a word and a gap in front of a text of which it holds, holds of
every text. -/
theorem words_induction {p : Char → Bool} {P : List Char → Prop}
    (word : ∀ w, (∀ c ∈ w, p c = false) → P w)
    (gap : ∀ w g rest, (∀ c ∈ w, p c = false) → g ≠ [] → (∀ c ∈ g, p c = true) → Stops p rest →
      P rest → P (w ++ (g ++ rest))) (s : List Char) : P s := by
  induction hn : s.length using Nat.strongRecOn generalizing s with
  | ind n ih =>
    obtain ⟨w, behind, rfl, hw, hb⟩ := exists_append_stops (fun c => !p c) s
    obtain ⟨g, rest, rfl, hg, hr⟩ := exists_append_stops p behind
    replace hw : ∀ c ∈ w, p c = false := fun c hc => by simpa using hw c hc
    cases g with
    | nil =>
      cases rest with
      | nil => simpa using word w hw
      | cons c rest =>
        have := hb.head
        simp [hr.head] at this
    | cons a g =>
      refine gap w (a :: g) rest hw nofun hg hr (ih rest.length ?_ rest rfl)
      subst hn
      simp only [List.length_append, List.length_cons]
      omega

/-! ## Gaps -/

namespace Gap

theorem isBreak_of_isBlank {c : Char} (h : isBlank c = true) : isBreak c = false := by
  simp only [isBlank, Bool.or_eq_true, decide_eq_true_eq] at h
  rcases h with rfl | rfl <;> rfl

theorem readList_stops {indent : Int} {g : Gap} {rest : List Char} (hr : Stops isSpace rest)
    (m : Mark) : readList indent g rest m = some (g, ⟨rest, m⟩) := by
  cases rest with
  | nil => rfl
  | cons c rest =>
    have hc := hr.head
    simp only [isSpace, Bool.or_eq_false_iff] at hc
    simp [readList, hc]

theorem readList_blanks (indent : Int) {s rest : List Char} (hs : ∀ c ∈ s, c = ' ')
    (hr : Stops isSpace rest) (b : List Char) (m : Mark) :
    readList indent ⟨b, false, .none, []⟩ (s ++ rest) m =
      some (⟨b ++ s, false, .none, []⟩, ⟨rest, m.past s⟩) := by
  induction s generalizing b m with
  | nil => simp [readList_stops hr]
  | cons c s ih =>
    rw [List.forall_mem_cons] at hs
    obtain ⟨rfl, hs⟩ := hs
    simp [readList, isBlank, blank, ih hs]

/-- Behind a line break, spaces do not count and line breaks are collected. -/
theorem readList_broken (indent : Int) {s rest : List Char}
    (hs : ∀ c ∈ s, c = ' ' ∨ isBreak c = true) (hr : Stops isSpace rest) (b : Option Char)
    (more : List Char) (m : Mark) :
    readList indent ⟨[], true, b, more⟩ (s ++ rest) m =
      some (⟨[], true, b, more ++ s.filter isBreak⟩, ⟨rest, m.past s⟩) := by
  induction s generalizing more m with
  | nil => simp [readList_stops hr]
  | cons c s ih =>
    rw [List.forall_mem_cons] at hs
    obtain ⟨hc, hs⟩ := hs
    rcases hc with rfl | hc
    · simp [readList, isBlank, blank, ih hs, show isBreak ' ' = false from rfl]
    · have hb : isBlank c = false := by
        by_contra hb
        rw [isBreak_of_isBlank (by simpa using hb)] at hc
        cases hc
      simp [readList, hb, hc, lineBreak, ih hs]

/-- A gap of spaces is kept. -/
theorem read_blanks (indent : Int) {s rest : List Char} (hs : ∀ c ∈ s, c = ' ')
    (hr : Stops isSpace rest) (m : Mark) :
    none.read indent ⟨s ++ rest, m⟩ = some (⟨s, false, .none, []⟩, ⟨rest, m.past s⟩) :=
  readList_blanks indent hs hr [] m

/-- Of a gap with line breaks, the breaks are kept. -/
theorem read_breaks (indent : Int) {c : Char} {s rest : List Char} (hc : isBreak c = true)
    (hs : ∀ c ∈ s, c = ' ' ∨ isBreak c = true) (hr : Stops isSpace rest) (m : Mark) :
    none.read indent ⟨c :: (s ++ rest), m⟩ =
      some (⟨[], true, some c, s.filter isBreak⟩, ⟨rest, (m.after c).past s⟩) := by
  have hb : isBlank c = false := by
    by_contra hb
    rw [isBreak_of_isBlank (by simpa using hb)] at hc
    cases hc
  have := readList_broken indent hs hr (some c) [] (m.after c)
  simpa [read, readList, none, hb, hc, lineBreak] using this

end Gap


/-! ## Texts without quotes -/

/-- Whether a word ends in front of a text: a space follows, or a colon that is no part of it. -/
def EndsWord (s : List Char) : Prop :=
  spaceFollows s = true ∨ ∃ rest, s = ':' :: rest ∧ spaceFollows rest = true

theorem plainWord_append {w behind : List Char} (hw : ∀ c ∈ w, isSpace c = false)
    (colon : ∀ front rest, w = front ++ ':' :: rest → spaceFollows (rest ++ behind) = false)
    (hb : EndsWord behind) (m : Mark) :
    plainWord false (w ++ behind) m = some (w, ⟨behind, m.past w⟩) := by
  induction w generalizing m with
  | nil =>
    rcases hb with hb | ⟨rest, rfl, hr⟩
    · cases behind with
      | nil => rfl
      | cons c rest => simp [plainWord, show isSpace c = true from hb]
    · simp [plainWord, hr, show isSpace ':' = false from rfl]
  | cons c w ih =>
    rw [List.forall_mem_cons] at hw
    have inside : (c = ':' && spaceFollows (w ++ behind)) = false := by
      by_cases hc : c = ':'
      · subst hc
        simp [colon [] w rfl]
      · simp [hc]
    have ih := ih hw.2 (fun front rest h => colon (c :: front) rest (by simp [h])) (m.after c)
    simp [plainWord, hw.1, inside, ih]

/-- A text whose colons and number signs belong to its words, and whose words are kept apart by
spaces. -/
structure IsUnquoted (s : List Char) : Prop where
  colon : ∀ front rest, s = front ++ ':' :: rest → rest ≠ [] ∧ Stops isSpace rest
  comment : ∀ front c rest, s = front ++ c :: '#' :: rest → isSpace c = false
  space : ∀ c ∈ s, isSpace c = true → c = ' '
  last : s.getLast? ≠ some ' '

theorem IsUnquoted.behind {front s : List Char} (h : IsUnquoted (front ++ s)) : IsUnquoted s where
  colon before rest hs := h.colon (front ++ before) rest (by simp [hs])
  comment before c rest hs := h.comment (front ++ before) c rest (by simp [hs])
  space c hc := h.space c (by simp [hc])
  last hl := h.last (by simp [List.getLast?_append, hl])

theorem spaceFollows_append {s : List Char} (h : s ≠ []) (hs : Stops isSpace s) (t : List Char) :
    spaceFollows (s ++ t) = false := by
  cases s with
  | nil => exact absurd rfl h
  | cons c s => exact hs.head

theorem Cursor.atDocumentMark_of_column {c : Cursor} (h : 0 < c.column) :
    c.atDocumentMark = false := by
  simp [atDocumentMark, Nat.ne_of_gt h]

theorem IsUnquoted.past {s : List Char} (h : IsUnquoted s) (m : Mark) :
    m.past s = ⟨m.index + s.length, m.line, m.column + s.length⟩ := by
  refine m.past_line fun c hc => ?_
  by_contra hb
  have : c = ' ' := h.space c hc (by simp [isSpace, hb])
  subst this
  exact hb rfl

/-- Word by word, a text without quotes is read up to the end of its line. -/
theorem plainWords_line {after : List Char} (ha : Stops isSpace after) (s : List Char) :
    s ≠ [] → IsUnquoted s → Stops isSpace s → s.head? ≠ some '#' →
      ∀ (fuel : Nat) (g : Gap) (m : Mark), s.length ≤ fuel → 0 < m.column →
        plainWords false 1 fuel g ⟨s ++ '\n' :: after, m⟩ =
          some ⟨g.text ++ s, true, ⟨after, (m.past s).after '\n'⟩⟩ := by
  induction s using words_induction (p := isSpace) with
  | word w hw =>
    intro ne plain _ head fuel g m hf hm
    obtain ⟨fuel, rfl⟩ : ∃ n, fuel = n + 1 :=
      Nat.exists_eq_succ_of_ne_zero (by have := List.length_pos_iff.2 ne; omega)
    have word : plainWord false (w ++ '\n' :: after) m = some (w, ⟨'\n' :: after, m.past w⟩) := by
      refine plainWord_append hw (fun front rest h => ?_) (Or.inl rfl : EndsWord _) m
      obtain ⟨hr, stops⟩ := plain.colon front rest h
      exact spaceFollows_append hr stops _
    have start : (w ++ '\n' :: after).head? = w.head? := List.head?_append_of_ne_nil _ ne
    have gap := Gap.read_breaks 1 (show isBreak '\n' = true from rfl) (s := []) nofun ha (m.past w)
    rw [List.nil_append] at gap
    simp only [plainWords, Cursor.atDocumentMark_of_column (c := ⟨_, m⟩) hm, start, head, word]
    simp [ne, spaceFollows, isSpace, isBreak, gap, Cursor.column, Mark.column_after_break]
  | gap w g rest hw hg hgs hr ih =>
    intro ne plain stops head fuel before m hf hm
    have blanks : ∀ c ∈ g, c = ' ' := fun c hc => plain.space c (by simp [hc]) (hgs c hc)
    obtain ⟨front, hf'⟩ : ∃ front, g = front ++ [' '] :=
      ⟨g.dropLast, by rw [← blanks _ (List.getLast_mem hg), List.dropLast_concat_getLast]⟩
    have wne : w ≠ [] := by
      rintro rfl
      obtain ⟨c, g, rfl⟩ := List.exists_cons_of_ne_nil hg
      exact absurd stops.head (by simp [hgs])
    have rne : rest ≠ [] := by
      rintro rfl
      exact plain.last (by simp [hf'])
    -- The gap with the rest of the line behind it.
    obtain ⟨line, hl⟩ : ∃ line, line = g ++ (rest ++ '\n' :: after) := ⟨_, rfl⟩
    have follows : spaceFollows line = true ∧ line ≠ [] := by
      obtain ⟨c, g, rfl⟩ := List.exists_cons_of_ne_nil hg
      subst hl
      simp [spaceFollows, hgs]
    have word : plainWord false (w ++ line) m = some (w, ⟨line, m.past w⟩) := by
      refine plainWord_append hw (fun before behind h => ?_) (Or.inl follows.1 : EndsWord _) m
      obtain ⟨hb, stops⟩ := plain.colon before (behind ++ (g ++ rest)) (by simp [h])
      have := spaceFollows_append hb stops ('\n' :: after)
      subst hl
      simpa using this
    have start : (w ++ line).head? = w.head? := List.head?_append_of_ne_nil _ wne
    have gap := Gap.read_blanks 1 blanks (hr.append rne ('\n' :: after)) (m.past w)
    rw [← hl] at gap
    obtain ⟨m', hm'⟩ : ∃ m', m' = (m.past w).past g := ⟨_, rfl⟩
    have column : 0 < m'.column := by
      have word : ∀ c ∈ w, isBreak c = false := fun c hc => by
        have := hw c hc
        simp_all [isSpace]
      have gap : ∀ c ∈ g, isBreak c = false := fun c hc => by rw [blanks c hc]; rfl
      rw [hm', Mark.past_line _ gap, Mark.past_line _ word]
      show 0 < m.column + w.length + _
      omega
    have comment : rest.head? ≠ some '#' := by
      intro h
      obtain ⟨rest, rfl⟩ := List.head?_eq_some_iff.1 h
      have := plain.comment (w ++ front) ' ' rest (by simp [hf'])
      cases this
    have head : w.head? ≠ some '#' := by
      rwa [List.head?_append_of_ne_nil _ wne] at head
    obtain ⟨fuel, rfl⟩ : ∃ n, fuel = n + 1 :=
      Nat.exists_eq_succ_of_ne_zero (by have := List.length_pos_iff.2 ne; omega)
    have next := ih rne plain.behind.behind hr comment fuel ⟨g, false, none, []⟩ m'
      (by
        have := List.length_pos_iff.2 hg
        simp only [List.length_append] at hf
        omega) column
    have column : m'.column ≠ 0 := by omega
    rw [List.append_assoc, List.append_assoc, ← hl]
    simp only [plainWords, Cursor.atDocumentMark_of_column (c := ⟨_, m⟩) hm, start, word]
    simp [head, wne, follows, gap, Cursor.column, ← hm', column, next, Gap.text]

/-- A text without quotes ends with its line. -/
theorem readPlain_line {s after : List Char} (hs : s ≠ []) (plain : IsUnquoted s)
    (start : Stops isSpace s) (head : s.head? ≠ some '#') (ha : Stops isSpace after) {m : Mark}
    (hm : 0 < m.column) :
    PlainText.read false 1 ⟨s ++ '\n' :: after, m⟩ =
      some ⟨s, true, ⟨after, (m.past s).after '\n'⟩⟩ := by
  have := plainWords_line ha s hs plain start head ((s ++ '\n' :: after).length + 1) Gap.none m
    (by simp only [List.length_append]; omega) hm
  simpa [PlainText.read, Gap.none, Gap.text] using this

/-- A key ends at its colon. -/
theorem readPlain_key {w rest : List Char} (ne : w ≠ []) (hw : ∀ c ∈ w, isSpace c = false)
    (colon : ':' ∉ w) (head : w.head? ≠ some '#') (hr : spaceFollows rest = true) (indent : Int)
    {m : Mark} (mark : Cursor.atDocumentMark ⟨w ++ ':' :: rest, m⟩ = false) :
    PlainText.read false indent ⟨w ++ ':' :: rest, m⟩ =
      some ⟨w, false, ⟨':' :: rest, m.past w⟩⟩ := by
  have word : plainWord false (w ++ ':' :: rest) m = some (w, ⟨':' :: rest, m.past w⟩) :=
    plainWord_append hw (fun front behind h => absurd (by simp [h]) colon)
      (Or.inr ⟨rest, rfl, hr⟩ : EndsWord _) m
  have start : (w ++ ':' :: rest).head? = w.head? := List.head?_append_of_ne_nil _ ne
  have follows : spaceFollows (':' :: rest) = false := rfl
  simp only [PlainText.read, plainWords, mark, start, head, word]
  simp [ne, follows, Gap.none, Gap.text]

/-! ### What the writer leaves without quotes -/

theorem mem_neighbours {s : List Char} {n : Neighbours} : ∀ {before : Option Char},
    n ∈ neighbours before s ↔ ∃ front c rest, s = front ++ c :: rest ∧
      n = ⟨front.getLast?.or before, c, rest.head?⟩ := by
  induction s with
  | nil => simp [neighbours]
  | cons a s ih =>
    intro before
    rw [neighbours, List.mem_cons, ih]
    constructor
    · rintro (rfl | ⟨front, c, rest, rfl, rfl⟩)
      · exact ⟨[], a, s, rfl, rfl⟩
      · refine ⟨a :: front, c, rest, rfl, ?_⟩
        cases h : front.getLast? <;> simp [List.getLast?_cons, h]
    · rintro ⟨front, c, rest, hs, rfl⟩
      cases front with
      | nil =>
        obtain ⟨rfl, rfl⟩ := List.cons_eq_cons.1 hs
        exact .inl rfl
      | cons b front =>
        obtain ⟨rfl, rfl⟩ := List.cons_eq_cons.1 hs
        refine .inr ⟨front, c, rest, rfl, ?_⟩
        cases h : front.getLast? <;> simp [List.getLast?_cons, h]

/-- No character of a text has neighbours of a kind if none of them has. -/
theorem neighbours_any_eq_false {q : Neighbours → Bool} {s : List Char}
    (h : (neighbours none s).any q = false) {front rest : List Char} {c : Char}
    (hs : s = front ++ c :: rest) : q ⟨front.getLast?, c, rest.head?⟩ = false := by
  rw [List.any_eq_false] at h
  simpa using h _ (mem_neighbours.2 ⟨front, c, rest, hs, by simp⟩)

/-- The first character of a text without quotes: it is no indicator, or one that does not stand by
itself. -/
def StartsWord (c : Char) (rest : List Char) : Prop :=
  isIndicator c = false ∨ (c = '-' ∨ c = '?' ∨ c = ':') ∧ spaceFollows rest = false

theorem isSpace_of_isPrintable {c : Char} (h : isPrintable c = true) (hs : isSpace c = true)
    (hb : isBreak c = false) : c = ' ' := by
  simp only [isSpace, isBlank, hb, Bool.or_eq_true, decide_eq_true_eq] at hs
  rcases hs with (rfl | rfl) | hs
  · rfl
  · cases h
  · cases hs

theorem isPrintable_of_not_needsEscapes {s : List Char} (h : needsEscapes s = false) :
    ∀ c ∈ s, isPrintable c = true := by
  intro c hc
  simp only [needsEscapes, Bool.or_eq_false_iff, List.any_eq_false] at h
  simpa using h.1 c hc

theorem isUnquoted_of_plainAllowed {s : List Char} (h : plainAllowed s = true) : IsUnquoted s := by
  simp only [plainAllowed, Bool.and_eq_true, Bool.not_eq_true', bne_iff_ne] at h
  obtain ⟨⟨⟨⟨⟨escapes, breaks⟩, -⟩, last⟩, -⟩, misleads⟩ := h
  rw [List.any_eq_false] at breaks
  constructor
  case colon =>
    intro front rest hs
    have := neighbours_any_eq_false misleads hs
    replace this : isOpen rest.head? = false := by
      cases hf : front.getLast? <;> simpa [Neighbours.misleads, hf] using this
    cases rest with
    | nil => cases this
    | cons c rest => exact ⟨nofun, .cons this rest⟩
  case comment =>
    intro front c rest hs
    have hs : s = (front ++ [c]) ++ '#' :: rest := by simp [hs]
    have := neighbours_any_eq_false misleads hs
    simpa [Neighbours.misleads] using this
  case space =>
    intro c hc hs
    exact isSpace_of_isPrintable (isPrintable_of_not_needsEscapes escapes c hc) hs
      (by simpa using breaks c hc)
  case last => exact last

/-- How a text without quotes starts. -/
theorem starts_of_plainAllowed {c : Char} {s : List Char} (h : plainAllowed (c :: s) = true)
    (after : List Char) : isSpace c = false ∧ c ≠ '#' ∧ StartsWord c (s ++ '\n' :: after) := by
  have plain := isUnquoted_of_plainAllowed h
  simp only [plainAllowed, Bool.and_eq_true, Bool.not_eq_true', bne_iff_ne] at h
  obtain ⟨⟨⟨⟨-, first⟩, -⟩, -⟩, misleads⟩ := h
  have space : isSpace c = false := by
    by_contra hs
    exact first (by rw [plain.space c (by simp) (by simpa using hs)]; rfl)
  have := neighbours_any_eq_false misleads (List.nil_append (c :: s)).symm
  simp only [Neighbours.misleads, List.getLast?_nil, Bool.or_eq_false_iff] at this
  obtain ⟨alone, opens⟩ := this
  refine ⟨space, ?_, ?_⟩
  · rintro rfl
    cases alone
  · by_cases hc : c = '-' ∨ c = '?' ∨ c = ':'
    · have inner : isOpen s.head? = false := by
        rcases hc with rfl | rfl | rfl <;> exact opens
      refine .inr ⟨hc, ?_⟩
      cases s with
      | nil => cases inner
      | cons d s => exact inner
    · refine .inl ?_
      simp only [not_or] at hc
      simp_all [isIndicator, isFlowIndicator]

/-! ## Lines that are indented -/

theorem isBreak_of_not_isSpace {c : Char} (h : isSpace c = false) : isBreak c = false := by
  simp only [isSpace, Bool.or_eq_false_iff] at h
  exact h.2

theorem any_getLast? {p : Char → Bool} {s : List Char} {b : Bool} (hs : s ≠ [])
    (h : ∀ c ∈ s, p c = b) : s.getLast?.any p = b := by
  rw [List.getLast?_eq_some_getLast hs]
  exact h _ (List.getLast_mem hs)

section

variable {f : Char → List Char} {s : List Char}

/-- A line is written character by character. -/
theorem indented_line (h : ∀ c ∈ s, isBreak c = false) (t : List Char) :
    indented f false (s ++ t) = s.flatMap f ++ indented f false t := by
  induction s with
  | nil => rfl
  | cons c s ih =>
    rw [List.forall_mem_cons] at h
    simp [indented, h.1, ih h.2]

theorem indented_breaks (hs : s ≠ []) (h : ∀ c ∈ s, isBreak c = true) (b : Bool) (t : List Char) :
    indented f b (s ++ t) = s ++ indented f true t := by
  induction s generalizing b with
  | nil => exact absurd rfl hs
  | cons c s ih =>
    rw [List.forall_mem_cons] at h
    rw [List.cons_append, indented, if_pos h.1]
    cases s with
    | nil => rfl
    | cons d s =>
      rw [ih nofun h.2]
      rfl

/-- Behind a line break, a line is indented. -/
theorem indented_start (hs : s ≠ []) (h : Stops isBreak s) :
    indented f true s = ' ' :: ' ' :: indented f false s := by
  cases s with
  | nil => exact absurd rfl hs
  | cons c s => simp [indented, h.head]

end

theorem length_le_indented {f : Char → List Char} (hf : ∀ c, f c ≠ []) :
    ∀ (s : List Char) (b : Bool), s.length ≤ (indented f b s).length
  | [], _ => Nat.le_refl _
  | c :: s, b => by
    have := List.length_pos_iff.2 (hf c)
    have inside := length_le_indented hf s false
    have behind := length_le_indented hf s true
    rw [indented]
    split_ifs
    all_goals
      simp only [List.length_append, List.length_cons, List.length_nil]
      omega

end PageAccessors.Yaml
