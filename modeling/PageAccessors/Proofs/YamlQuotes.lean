import Mathlib.Data.List.Basic
import Mathlib.Tactic.Ring
import Mathlib.Tactic.SplitIfs
import PageAccessors.Proofs.YamlScalar

/-!
# Quoted texts read back

In single quotes, a quote is written twice, and the lines behind line breaks are indented; a gap is
of spaces or of line breaks there, since it would not come back otherwise (`IsSpaced`). In double
quotes, whatever cannot stand on a line is written behind a backslash, and comes back from there
(`escape?_escapeOf`). What the writer puts in quotes is read back word by word
(`readQuoted_single`, `readQuoted_double`).
-/

namespace PageAccessors.Yaml

/-! ## Texts in quotes -/

/-- The run of characters that a quoted text starts with. -/
def runOf (double : Bool) (c : Cursor) : Option (List Char × RunEnd × Cursor) :=
  if double then doubleRun (c.rest.length + 1) c else some (singleRun c.rest c.mark)

section

variable {double : Bool} {fuel : Nat} {c c' c'' : Cursor} {run more : List Char} {gap : Gap}

theorem quotedRuns_of_quote (hm : 0 < c.column) (hc : c.rest ≠ [])
    (h : runOf double c = some (run, .quote, c')) :
    quotedRuns double (fuel + 1) c = some (run, c') := by
  have mark := Cursor.atDocumentMark_of_column hm
  cases double <;> simp only [runOf, Bool.false_eq_true, if_false, if_true] at h <;>
    simp [quotedRuns, mark, hc, h]

theorem quotedRuns_of_gap (hm : 0 < c.column) (hc : c.rest ≠ [])
    (h : runOf double c = some (run, .gap, c')) (read : Gap.none.read 0 c' = some (gap, c''))
    {last : Cursor} (next : quotedRuns double fuel c'' = some (more, last)) :
    quotedRuns double (fuel + 1) c = some (run ++ (gap.text ++ more), last) := by
  have mark := Cursor.atDocumentMark_of_column hm
  cases double <;> simp only [runOf, Bool.false_eq_true, if_false, if_true] at h <;>
    simp [quotedRuns, mark, hc, h, read, next]

end

/-! ### Single quotes -/

def singleChar (c : Char) : List Char := if c = '\'' then ['\'', '\''] else [c]

/-- What is written behind an opening quote. -/
def singleRest (s : List Char) : List Char :=
  indented singleChar false s ++ if s.getLast?.any isBreak then [' ', ' ', '\''] else ['\'']

theorem singleQuoted_eq (s : List Char) : singleQuoted s = '\'' :: singleRest s := rfl

theorem mem_of_mem_singleChars {s : List Char} {c : Char} (h : c ∈ s.flatMap singleChar) :
    c ∈ s := by
  obtain ⟨d, hd, hc⟩ := List.mem_flatMap.1 h
  by_cases he : d = '\''
  · simp_all [singleChar]
  · simp_all [singleChar]

theorem singleRun_space {c : Char} (h : isSpace c = true) (rest : List Char) (m : Mark) :
    singleRun (c :: rest) m = ([], .gap, ⟨c :: rest, m⟩) := by
  have hc : c ≠ '\'' := by
    rintro rfl
    cases h
  simp [singleRun, hc, h]

theorem singleRun_append {w behind : List Char} (hw : ∀ c ∈ w, isSpace c = false) (m : Mark) :
    singleRun (w.flatMap singleChar ++ behind) m =
      (w ++ (singleRun behind (m.past (w.flatMap singleChar))).1,
        (singleRun behind (m.past (w.flatMap singleChar))).2) := by
  induction w generalizing m with
  | nil => rfl
  | cons c w ih =>
    rw [List.forall_mem_cons] at hw
    rw [List.flatMap_cons, List.append_assoc]
    by_cases hc : c = '\''
    · subst hc
      simp [singleChar, singleRun, ih hw.2]
    · simp [singleChar, singleRun, hc, hw.1, ih hw.2]

/-- A text whose gaps are of spaces or of line breaks, but not of both. -/
structure IsSpaced (s : List Char) : Prop where
  line : '\n' ∉ s
  space : ∀ c ∈ s, isSpace c = true → c = ' ' ∨ isBreak c = true
  uniform : ∀ front a b rest, s = front ++ a :: b :: rest → isSpace a = true → isSpace b = true →
    isBreak a = isBreak b

theorem IsSpaced.behind {front s : List Char} (h : IsSpaced (front ++ s)) : IsSpaced s where
  line hn := h.line (by simp [hn])
  space c hc := h.space c (by simp [hc])
  uniform before a b rest hs := h.uniform (front ++ before) a b rest (by simp [hs])

theorem IsSpaced.isBreak_eq {front g rest : List Char} {a : Char}
    (h : IsSpaced (front ++ a :: (g ++ rest))) (ha : isSpace a = true)
    (hg : ∀ c ∈ g, isSpace c = true) : ∀ c ∈ g, isBreak c = isBreak a := by
  induction g generalizing front a with
  | nil => nofun
  | cons b g ih =>
    rw [List.forall_mem_cons] at hg ⊢
    have hb : isBreak b = isBreak a := (h.uniform front a b (g ++ rest) rfl ha hg.1).symm
    have next : IsSpaced ((front ++ [a]) ++ b :: (g ++ rest)) := by simpa using h
    exact ⟨hb, fun c hc => (ih next hg.1 hg.2 c hc).trans hb⟩

/-- A gap is of spaces or of line breaks. -/
theorem IsSpaced.gap {front g rest : List Char} (h : IsSpaced (front ++ (g ++ rest)))
    (hg : ∀ c ∈ g, isSpace c = true) : (∀ c ∈ g, c = ' ') ∨ ∀ c ∈ g, isBreak c = true := by
  cases g with
  | nil => exact .inl nofun
  | cons a g =>
    have same : ∀ c ∈ a :: g, isBreak c = isBreak a := by
      rw [List.forall_mem_cons] at hg ⊢
      exact ⟨rfl, h.isBreak_eq hg.1 hg.2⟩
    cases ha : isBreak a with
    | true => exact .inr fun c hc => (same c hc).trans ha
    | false =>
      refine .inl fun c hc => (h.space c ?_ (hg c hc)).resolve_right (by simp [same c hc, ha])
      exact List.mem_append_right _ (List.mem_append_left _ hc)

/-- Behind a gap of line breaks, the next line is indented. -/
theorem singleRest_gap {w g rest : List Char} (hw : ∀ c ∈ w, isSpace c = false) (hg : g ≠ [])
    (hs : (∀ c ∈ g, c = ' ') ∨ ∀ c ∈ g, isBreak c = true) (hr : Stops isSpace rest) :
    ∃ blanks, (blanks = [] ∧ (∀ c ∈ g, c = ' ') ∨
        blanks = [' ', ' '] ∧ ∀ c ∈ g, isBreak c = true) ∧
      singleRest (w ++ (g ++ rest)) =
        w.flatMap singleChar ++ (g ++ (blanks ++ singleRest rest)) := by
  have line : ∀ c ∈ w, isBreak c = false := fun c hc => isBreak_of_not_isSpace (hw c hc)
  have last : (w ++ (g ++ rest)).getLast? = rest.getLast?.or g.getLast? := by
    rw [List.getLast?_append, List.getLast?_append, List.getLast?_eq_some_getLast hg]
    cases rest.getLast? <;> rfl
  rw [singleRest, indented_line line, last]
  rcases hs with hs | hs
  · have blanks : ∀ c ∈ g, isBreak c = false := fun c hc => by rw [hs c hc]; rfl
    have same : g.flatMap singleChar = g := by
      rw [List.flatMap_congr fun c hc => show singleChar c = [c] by rw [hs c hc]; rfl]
      exact List.flatMap_singleton' g
    have closing : (rest.getLast?.or g.getLast?).any isBreak = rest.getLast?.any isBreak := by
      cases rest.getLast? with
      | none => exact any_getLast? hg blanks
      | some c => rfl
    refine ⟨[], .inl ⟨rfl, hs⟩, ?_⟩
    simp [indented_line blanks, same, closing, singleRest]
  · refine ⟨[' ', ' '], .inr ⟨rfl, hs⟩, ?_⟩
    rw [indented_breaks hg hs]
    cases rest with
    | nil => simp [singleRest, indented, any_getLast? hg hs]
    | cons c rest =>
      have hr : Stops isBreak (c :: rest) := .cons (isBreak_of_not_isSpace hr.head) rest
      have closing : (c :: rest).getLast?.or g.getLast? = (c :: rest).getLast? := by
        rw [List.getLast?_eq_some_getLast (List.cons_ne_nil c rest)]
        rfl
      rw [indented_start (List.cons_ne_nil c rest) hr, closing]
      simp [singleRest]

theorem stops_singleRest {s : List Char} (hs : Stops isSpace s) (t : List Char) :
    Stops isSpace (singleRest s ++ t) := by
  cases s with
  | nil => exact .cons rfl t
  | cons c s =>
    have hb := isBreak_of_not_isSpace hs.head
    by_cases hc : c = '\''
    · simp only [singleRest, indented, hb, singleChar, if_pos hc]
      exact .cons rfl _
    · simp only [singleRest, indented, hb, singleChar, if_neg hc]
      exact .cons hs.head _

/-- What a gap between quotes is read as. -/
theorem read_singleGap {g blanks behind : List Char} (hg : g ≠ []) (line : '\n' ∉ g)
    (hs : blanks = [] ∧ (∀ c ∈ g, c = ' ') ∨ blanks = [' ', ' '] ∧ ∀ c ∈ g, isBreak c = true)
    (hb : Stops isSpace behind) {m : Mark} (hm : 0 < m.column) :
    ∃ gap m', Gap.none.read 0 ⟨g ++ (blanks ++ behind), m⟩ = some (gap, ⟨behind, m'⟩) ∧
      gap.text = g ∧ 0 < m'.column := by
  rcases hs with ⟨rfl, hs⟩ | ⟨rfl, hs⟩
  · refine ⟨_, _, Gap.read_blanks 0 hs hb m, rfl, ?_⟩
    rw [Mark.past_line _ fun c hc => by rw [hs c hc]; rfl]
    exact Nat.add_pos_left hm _
  · obtain ⟨b, g, rfl⟩ := List.exists_cons_of_ne_nil hg
    rw [List.forall_mem_cons] at hs
    rw [List.mem_cons, not_or] at line
    have read := Gap.read_breaks 0 hs.1 (s := g ++ [' ', ' ']) (fun c hc => by
      rcases List.mem_append.1 hc with hc | hc
      · exact .inr (hs.2 c hc)
      · exact .inl (by simpa using hc)) hb m
    rw [List.append_assoc] at read
    refine ⟨_, _, read, ?_, ?_⟩
    · have kept : (g ++ [' ', ' ']).filter isBreak = g := by
        rw [List.filter_append, List.filter_eq_self.2 hs.2]
        exact List.append_nil g
      simp [Gap.text, Gap.fold, kept, Ne.symm line.1]
    · rw [Mark.past_append]
      exact Nat.succ_pos _

/-- A text in single quotes ends with them. -/
theorem quotedRuns_single (after : List Char) (s : List Char) :
    IsSpaced s → ∀ (fuel : Nat) (m : Mark), s.length < fuel → 0 < m.column →
      ∃ m', quotedRuns false fuel ⟨singleRest s ++ '\n' :: after, m⟩ =
        some (s, ⟨'\n' :: after, m'⟩) := by
  induction s using words_induction (p := isSpace) with
  | word w hw =>
    intro _ fuel m hf hm
    obtain ⟨fuel, rfl⟩ : ∃ n, fuel = n + 1 := Nat.exists_eq_succ_of_ne_zero (by omega)
    have line : ∀ c ∈ w, isBreak c = false := fun c hc => isBreak_of_not_isSpace (hw c hc)
    have written : singleRest w ++ '\n' :: after =
        w.flatMap singleChar ++ '\'' :: '\n' :: after := by
      have closing : w.getLast?.any isBreak = false := by
        cases h : w.getLast? with
        | none => rfl
        | some c => exact line c (List.mem_of_getLast? h)
      have start := indented_line (f := singleChar) line []
      rw [List.append_nil] at start
      simp [singleRest, start, closing, indented]
    have run : runOf false ⟨w.flatMap singleChar ++ '\'' :: '\n' :: after, m⟩ =
        some (w, .quote, ⟨'\n' :: after, (m.past (w.flatMap singleChar)).after '\''⟩) := by
      simp [runOf, singleRun_append hw, singleRun]
    rw [written]
    exact ⟨_, quotedRuns_of_quote hm (by simp) run⟩
  | gap w g rest hw hg hgs hr ih =>
    intro spaced fuel m hf hm
    obtain ⟨fuel, rfl⟩ : ∃ n, fuel = n + 1 := Nat.exists_eq_succ_of_ne_zero (by omega)
    obtain ⟨blanks, hb, written⟩ := singleRest_gap hw hg (spaced.gap hgs) hr
    have line : '\n' ∉ g := fun h => spaced.line (by simp [h])
    have column : 0 < (m.past (w.flatMap singleChar)).column := by
      rw [Mark.past_line m fun c hc => isBreak_of_not_isSpace (hw c (mem_of_mem_singleChars hc))]
      exact Nat.add_pos_left hm _
    obtain ⟨gap, m', read, text, hm'⟩ := read_singleGap hg line hb
      (stops_singleRest hr ('\n' :: after)) column
    obtain ⟨m'', next⟩ := ih spaced.behind.behind fuel m' (by
      have := List.length_pos_iff.2 hg
      simp only [List.length_append] at hf
      omega) hm'
    -- The gap and what is written behind it.
    obtain ⟨behind, hl⟩ : ∃ behind, behind = g ++ (blanks ++ (singleRest rest ++ '\n' :: after)) :=
      ⟨_, rfl⟩
    have run : runOf false ⟨w.flatMap singleChar ++ behind, m⟩ =
        some (w, .gap, ⟨behind, m.past (w.flatMap singleChar)⟩) := by
      obtain ⟨b, g, rfl⟩ := List.exists_cons_of_ne_nil hg
      subst hl
      simp [runOf, singleRun_append hw, singleRun_space (hgs b (by simp))]
    have written : singleRest (w ++ (g ++ rest)) ++ '\n' :: after =
        w.flatMap singleChar ++ behind := by
      rw [written, hl]
      simp only [List.append_assoc]
    rw [← hl] at read
    rw [written, ← text]
    exact ⟨m'', quotedRuns_of_gap (c := ⟨_, m⟩) hm (by simp [hl, hg]) run read next⟩

/-- What the writer puts in single quotes is read back. -/
theorem readQuoted_single {s : List Char} (h : IsSpaced s) (after : List Char) (m : Mark) :
    ∃ m', readQuoted false ⟨singleQuoted s ++ '\n' :: after, m⟩ =
      some (s, ⟨'\n' :: after, m'⟩) := by
  have length : s.length ≤ (singleRest s).length := by
    have := length_le_indented (f := singleChar)
      (fun c => by rw [singleChar]; split_ifs <;> nofun) s false
    rw [singleRest, List.length_append]
    omega
  refine quotedRuns_single after s h _ (m.after '\'') ?_ (Nat.succ_pos _)
  simp only [singleQuoted_eq, List.cons_append, List.length_cons, List.length_append]
  omega

theorem isSpaced_of_singleAllowed {s : List Char} (h : singleAllowed s = true) (line : '\n' ∉ s) :
    IsSpaced s := by
  simp only [singleAllowed, Bool.and_eq_true, Bool.not_eq_true'] at h
  obtain ⟨escapes, after⟩ := h
  have printable := isPrintable_of_not_needsEscapes escapes
  have space : ∀ c ∈ s, isSpace c = true → c = ' ' ∨ isBreak c = true := by
    intro c hc hs
    cases hb : isBreak c with
    | true => exact .inr rfl
    | false => exact .inl (isSpace_of_isPrintable (printable c hc) hs hb)
  have before : (neighbours none s).any Neighbours.blankBeforeBreak = false := by
    simp only [needsEscapes, Bool.or_eq_false_iff] at escapes
    exact escapes.2
  refine ⟨line, space, fun front a b rest hs ha hb => ?_⟩
  have first := neighbours_any_eq_false before hs
  have second := neighbours_any_eq_false after
    (show s = (front ++ [a]) ++ b :: rest by simp [hs])
  rcases space a (by simp [hs]) ha with rfl | ha
  · rcases space b (by simp [hs]) hb with rfl | hb
    · rfl
    · simp [Neighbours.blankBeforeBreak, hb] at first
  · rcases space b (by simp [hs]) hb with rfl | hb
    · simp [Neighbours.blankAfterBreak, ha] at second
    · rw [ha, hb]

/-! ## Texts in double quotes -/

theorem hexDigit?_hexUpper : ∀ n < 16, hexDigit? (hexUpper n) = some n := by decide

theorem foldl_hexDigits (n : Nat) : ∀ width a : Nat,
    ((List.range width).reverse.map fun i => (n >>> (4 * i)) % 16).foldl (16 * · + ·) a =
      a * Nat.pow 16 width + n % Nat.pow 16 width
  | 0, a => by simp [Nat.mod_one]
  | width + 1, a => by
    have digits : n >>> (4 * width) = n / 16 ^ width := by
      rw [Nat.shiftRight_eq_div_pow, Nat.pow_mul]
    rw [List.range_succ, List.reverse_append, List.reverse_singleton, List.singleton_append,
      List.map_cons, List.foldl_cons, foldl_hexDigits n width, digits]
    simp only [Nat.pow_eq, Nat.mod_pow_succ]
    ring

theorem mapM_hexDigits (n width : Nat) : (hexDigits n width).mapM hexDigit? =
    some ((List.range width).reverse.map fun i => (n >>> (4 * i)) % 16) := by
  rw [hexDigits]
  induction (List.range width).reverse with
  | nil => rfl
  | cons i l ih => simp [hexDigit?_hexUpper _ (Nat.mod_lt _ (by decide : 0 < 16)), ih]

/-- A character comes back from the digits of its number. -/
theorem escape?_hexDigits {letter c : Char} {width : Nat} (hl : escapedChar? letter = none)
    (hd : digitCount? letter = some width) (hc : c.toNat < Nat.pow 16 width) (rest : List Char) :
    escape? (letter :: hexDigits c.toNat width ++ rest) = some (c, width + 1) := by
  have length : (hexDigits c.toNat width).length = width := by simp [hexDigits]
  have taken : (hexDigits c.toNat width ++ rest).take width = hexDigits c.toNat width := by
    rw [List.take_append_of_le_length (Nat.le_of_eq length.symm), List.take_of_length_le
      (Nat.le_of_eq length)]
  have number : charOfNumber? c.toNat = some c := by
    rw [charOfNumber?, if_pos (show c.toNat.isValidChar from c.valid), Char.ofNat_toNat]
  have value : ((List.range width).reverse.map fun i => (c.toNat >>> (4 * i)) % 16).foldl
      (16 * · + ·) 0 = c.toNat := by
    rw [foldl_hexDigits, Nat.mod_eq_of_lt hc, Nat.zero_mul, Nat.zero_add]
  have count : ¬((List.range width).reverse.map fun i => (c.toNat >>> (4 * i)) % 16).length <
      width := by simp
  rw [List.cons_append, escape?, hl]
  simp only [hd, Option.bind_eq_bind, Option.bind_some, taken, mapM_hexDigits, if_neg count, value,
    number]

/-- A character comes back from the way it is written behind a backslash. -/
theorem escape?_escapeOf (c : Char) (rest : List Char) :
    escape? (escapeOf c ++ rest) = some (c, (escapeOf c).length) := by
  have bound : c.toNat < Nat.pow 16 8 := c.val.toNat_lt
  have letter {l : Char} (h : escapedChar? l = some c) :
      escape? ([l] ++ rest) = some (c, [l].length) := by simp [escape?, h]
  simp only [escapeOf]
  cases h : List.find? _ _ with
  | some l => exact letter (by simpa using List.find?_some h)
  | none =>
    split_ifs with hx hu
    · exact escape?_hexDigits rfl rfl (Nat.lt_succ_of_le hx) rest
    · exact escape?_hexDigits rfl rfl (Nat.lt_succ_of_le hu) rest
    · exact escape?_hexDigits rfl rfl bound rest

def doubleChar (c : Char) : List Char :=
  if !isPrintable c || isBreak c || c = '"' || c = '\\' then '\\' :: escapeOf c else [c]

theorem doubleQuoted_eq (s : List Char) : doubleQuoted s = '"' :: (s.flatMap doubleChar ++ ['"']) :=
  rfl

/-- What is written for a character stays on its line and is printable. -/
theorem escapeOf_line (c : Char) :
    escapeOf c ≠ [] ∧ ∀ d ∈ escapeOf c, isPrintable d = true ∧ isBreak d = false := by
  have digit : ∀ n < 16, isPrintable (hexUpper n) = true ∧ isBreak (hexUpper n) = false := by
    decide
  have digits (width : Nat) : ∀ d ∈ hexDigits c.toNat width, isPrintable d = true ∧
      isBreak d = false := by
    intro d hd
    obtain ⟨i, -, rfl⟩ := List.mem_map.1 hd
    exact digit _ (Nat.mod_lt _ (by decide))
  simp only [escapeOf]
  cases h : List.find? _ _ with
  | some l =>
    have hl := List.mem_of_find?_eq_some h
    have letters : ∀ l ∈
        ['0', 'a', 'b', 't', 'n', 'v', 'f', 'r', 'e', '"', '\\', 'N', '_', 'L', 'P'],
        isPrintable l = true ∧ isBreak l = false := List.all_iff_forall_prop.1 (by decide)
    exact ⟨nofun, by simpa using letters l hl⟩
  | none =>
    split_ifs
    all_goals exact ⟨nofun, List.forall_mem_cons.2 ⟨by decide, digits _⟩⟩

theorem doubleChar_line (c : Char) :
    ∀ d ∈ doubleChar c, isPrintable d = true ∧ isBreak d = false := by
  rw [doubleChar]
  split_ifs with h
  · exact List.forall_mem_cons.2 ⟨by decide, (escapeOf_line c).2⟩
  · simp only [Bool.or_eq_true, not_or, Bool.not_eq_true', Bool.not_eq_false] at h
    simpa using ⟨h.1.1.1, by simpa using h.1.1.2⟩

theorem isSpace_of_line {c : Char} (hp : isPrintable c = true) (hb : isBreak c = false)
    (hc : c ≠ ' ') : isSpace c = false := by
  by_contra hs
  exact hc (isSpace_of_isPrintable hp (by simpa using hs) hb)

theorem doubleRun_escaped (c : Char) (behind : List Char) (fuel : Nat) (m : Mark) :
    doubleRun (fuel + 1) ⟨'\\' :: (escapeOf c ++ behind), m⟩ =
      (doubleRun fuel ⟨behind, m.past ('\\' :: escapeOf c)⟩).map
        fun (run, how, cursor) => (c :: run, how, cursor) := by
  obtain ⟨ne, line⟩ := escapeOf_line c
  obtain ⟨b, more, he⟩ := List.exists_cons_of_ne_nil ne
  have hb : isBreak b = false := (line b (by simp [he])).2
  have read := escape?_escapeOf c behind
  rw [he, List.cons_append] at read ⊢
  have skip : Cursor.skip ((b :: more).length + 1) ⟨'\\' :: b :: (more ++ behind), m⟩ =
    ⟨behind, m.past ('\\' :: b :: more)⟩ := Cursor.skip_append ('\\' :: b :: more) behind m
  rw [doubleRun, if_neg (by decide), if_neg (by decide), if_pos rfl]
  simp only [hb, read, skip, Option.bind_eq_bind, Option.bind_some, Bool.false_eq_true, if_false]
  cases doubleRun fuel _ <;> rfl

theorem doubleRun_append {w behind : List Char} (hw : ∀ c ∈ w, c ≠ ' ') (fuel : Nat) (m : Mark) :
    doubleRun (w.length + fuel) ⟨w.flatMap doubleChar ++ behind, m⟩ =
      (doubleRun fuel ⟨behind, m.past (w.flatMap doubleChar)⟩).map
        fun (run, how, cursor) => (w ++ run, how, cursor) := by
  induction w generalizing m with
  | nil => simp
  | cons c w ih =>
    rw [List.forall_mem_cons] at hw
    rw [List.flatMap_cons, List.append_assoc, List.length_cons, Nat.add_right_comm]
    by_cases h : (!isPrintable c || isBreak c || c = '"' || c = '\\') = true
    · have written : doubleChar c = '\\' :: escapeOf c := if_pos h
      rw [written, List.cons_append, doubleRun_escaped, ih hw.2, Mark.past_append]
      cases doubleRun fuel _ <;> rfl
    · simp only [Bool.or_eq_true, not_or, Bool.not_eq_true', Bool.not_eq_false] at h
      obtain ⟨⟨⟨hp, hb⟩, quote⟩, backslash⟩ := h
      have space := isSpace_of_line hp (by simpa using hb) hw.1
      have same : doubleChar c = [c] := by simp_all [doubleChar]
      simp only [decide_eq_true_eq] at quote backslash
      rw [same]
      simp [doubleRun, quote, backslash, space, ih hw.2]
      cases doubleRun fuel _ <;> rfl

theorem stops_doubleChars {s : List Char} (hs : Stops (· = ' ') s) (t : List Char) :
    Stops isSpace (s.flatMap doubleChar ++ '"' :: t) := by
  cases s with
  | nil => exact .cons rfl t
  | cons c s =>
    rw [List.flatMap_cons, List.append_assoc]
    by_cases h : (!isPrintable c || isBreak c || c = '"' || c = '\\') = true
    · rw [doubleChar, if_pos h]
      exact .cons rfl _
    · rw [doubleChar, if_neg h]
      simp only [Bool.or_eq_true, not_or, Bool.not_eq_true', Bool.not_eq_false] at h
      exact .cons (isSpace_of_line h.1.1.1 (by simpa using h.1.1.2) (by simpa using hs.head)) _

theorem length_le_doubleChars (w : List Char) : w.length ≤ (w.flatMap doubleChar).length := by
  induction w with
  | nil => exact Nat.le_refl _
  | cons c w ih =>
    have : 0 < (doubleChar c).length := by
      rw [doubleChar]
      split_ifs <;> exact Nat.succ_pos _
    rw [List.flatMap_cons, List.length_append, List.length_cons]
    omega

/-- A word in double quotes ends in front of a space or a quote. -/
theorem doubleRun_word {w behind : List Char} (hw : ∀ c ∈ w, c ≠ ' ') {d : Char} {how : RunEnd}
    {cursor : Cursor} (m : Mark)
    (hd : ∀ fuel, doubleRun (fuel + 1) ⟨d :: behind, m.past (w.flatMap doubleChar)⟩ =
      some ([], how, cursor)) :
    runOf true ⟨w.flatMap doubleChar ++ d :: behind, m⟩ = some (w, how, cursor) := by
  obtain ⟨fuel, hf⟩ : ∃ fuel, (w.flatMap doubleChar ++ d :: behind).length + 1 =
      w.length + (fuel + 1) := by
    have := length_le_doubleChars w
    refine ⟨(w.flatMap doubleChar ++ d :: behind).length - w.length, ?_⟩
    rw [List.length_append]
    omega
  rw [runOf, if_pos rfl, hf, doubleRun_append hw, hd]
  simp

/-- A text in double quotes ends with them. -/
theorem quotedRuns_double (after : List Char) (s : List Char) :
    ∀ (fuel : Nat) (m : Mark), s.length < fuel → 0 < m.column →
      ∃ m', quotedRuns true fuel ⟨s.flatMap doubleChar ++ '"' :: '\n' :: after, m⟩ =
        some (s, ⟨'\n' :: after, m'⟩) := by
  have column (w : List Char) {m : Mark} (hm : 0 < m.column) :
      0 < (m.past (w.flatMap doubleChar)).column := by
    rw [Mark.past_line]
    · exact Nat.add_pos_left hm _
    · intro d hd
      obtain ⟨c, -, hc⟩ := List.mem_flatMap.1 hd
      exact (doubleChar_line c d hc).2
  induction s using words_induction (p := (· = ' ')) with
  | word w hw =>
    intro fuel m hf hm
    obtain ⟨fuel, rfl⟩ : ∃ n, fuel = n + 1 := Nat.exists_eq_succ_of_ne_zero (by omega)
    have run : runOf true ⟨w.flatMap doubleChar ++ '"' :: '\n' :: after, m⟩ =
        some (w, .quote, ⟨'\n' :: after, (m.past (w.flatMap doubleChar)).after '"'⟩) :=
      doubleRun_word (by simpa using hw) m fun _ => rfl
    exact ⟨_, quotedRuns_of_quote hm (by simp) run⟩
  | gap w g rest hw hg hgs hr ih =>
    intro fuel m hf hm
    obtain ⟨fuel, rfl⟩ : ∃ n, fuel = n + 1 := Nat.exists_eq_succ_of_ne_zero (by omega)
    have blanks : ∀ c ∈ g, c = ' ' := by simpa using hgs
    have read := Gap.read_blanks 0 blanks (stops_doubleChars hr ('\n' :: after))
      (m.past (w.flatMap doubleChar))
    have same : g.flatMap doubleChar = g := by
      rw [List.flatMap_congr fun c hc => show doubleChar c = [c] by rw [blanks c hc]; rfl]
      exact List.flatMap_singleton' g
    have written : (w ++ (g ++ rest)).flatMap doubleChar ++ '"' :: '\n' :: after =
        w.flatMap doubleChar ++ (g ++ (rest.flatMap doubleChar ++ '"' :: '\n' :: after)) := by
      simp [same]
    obtain ⟨m', next⟩ := ih fuel ((m.past (w.flatMap doubleChar)).past g)
      (by
        have := List.length_pos_iff.2 hg
        simp only [List.length_append] at hf
        omega)
      (by
        rw [Mark.past_line _ fun c hc => by rw [blanks c hc]; rfl]
        exact Nat.add_pos_left (column w hm) _)
    obtain ⟨b, g, rfl⟩ := List.exists_cons_of_ne_nil hg
    have hb : b = ' ' := blanks b (by simp)
    subst hb
    have run : runOf true ⟨w.flatMap doubleChar ++
          ' ' :: (g ++ (rest.flatMap doubleChar ++ '"' :: '\n' :: after)), m⟩ =
        some (w, .gap, ⟨' ' :: (g ++ (rest.flatMap doubleChar ++ '"' :: '\n' :: after)),
          m.past (w.flatMap doubleChar)⟩) :=
      doubleRun_word (by simpa using hw) m fun _ => rfl
    rw [written]
    exact ⟨m', quotedRuns_of_gap (c := ⟨_, m⟩) hm (by simp) run read next⟩

/-- What the writer puts in double quotes is read back. -/
theorem readQuoted_double (s after : List Char) (m : Mark) :
    ∃ m', readQuoted true ⟨doubleQuoted s ++ '\n' :: after, m⟩ =
      some (s, ⟨'\n' :: after, m'⟩) := by
  have written : doubleQuoted s ++ '\n' :: after =
      '"' :: (s.flatMap doubleChar ++ '"' :: '\n' :: after) := by simp [doubleQuoted_eq]
  rw [written]
  refine quotedRuns_double after s _ (m.after '"') ?_ (Nat.succ_pos _)
  have := length_le_doubleChars s
  simp only [List.length_cons, List.length_append]
  omega

end PageAccessors.Yaml
