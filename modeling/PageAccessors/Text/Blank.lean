/-!
# Blank space and lines

The white space characters of Unicode, texts cut free of them at either end, and the lines of a
text. A line ends at a line feed, and a carriage return right before it belongs to the ending; the
last line needs none. Trimming is idempotent and leaves no blank at the ends (`trimEnd_last`).
-/

namespace PageAccessors.Text

/-- The characters with the Unicode property White_Space. -/
def isBlank (c : Char) : Bool :=
  let n := c.toNat
  (9 ≤ n && n ≤ 13) || n == 0x20 || n == 0x85 || n == 0xA0 || n == 0x1680 ||
    (0x2000 ≤ n && n ≤ 0x200A) || n == 0x2028 || n == 0x2029 || n == 0x202F || n == 0x205F ||
    n == 0x3000

/-- The characters without the blanks they start with. -/
def trimStart (s : List Char) : List Char := s.dropWhile isBlank

/-- The characters without the blanks they end with. -/
def trimEnd (s : List Char) : List Char := (s.reverse.dropWhile isBlank).reverse

/-- The characters without the blanks at either end. -/
def trim (s : List Char) : List Char := trimEnd (trimStart s)

/-- Nothing but blanks. -/
def isBlankText (s : String) : Bool := s.toList.all isBlank

theorem trimEnd_last {s : List Char} {c : Char} (h : (trimEnd s).getLast? = some c) :
    isBlank c = false := by
  rw [trimEnd, List.getLast?_reverse] at h
  have := List.head?_dropWhile_not isBlank s.reverse
  rw [h] at this
  simpa using this

theorem trimEnd_eq_nil_iff {s : List Char} : trimEnd s = [] ↔ s.all isBlank = true := by
  rw [trimEnd, List.reverse_eq_nil_iff]
  constructor
  · intro h
    have split := List.takeWhile_append_dropWhile (p := isBlank) (l := s.reverse)
    rw [h, List.append_nil] at split
    rw [← List.all_reverse, ← split, List.all_takeWhile]
  · intro h
    have dropped : (s.reverse ++ []).dropWhile isBlank = [] :=
      List.dropWhile_append_of_pos fun c hc => List.all_eq_true.1 h c (List.mem_reverse.1 hc)
    rwa [List.append_nil] at dropped

theorem trimEnd_prefix (s : List Char) : trimEnd s <+: s := by
  have := List.dropWhile_suffix isBlank (l := s.reverse)
  rw [← List.reverse_reverse s, trimEnd, List.reverse_reverse]
  exact List.reverse_prefix.2 this

/-- One line without its ending: a carriage return counts only before the line feed. -/
private def withoutReturn (line : List Char) : List Char :=
  match line.reverse with
  | '\r' :: front => front.reverse
  | _ => line

/-- The lines of a text whose current line started with `line`, written backwards. -/
private def linesFrom (line : List Char) : List Char → List (List Char)
  | [] => if line.isEmpty then [] else [line.reverse]
  | c :: rest =>
    if c = '\n' then withoutReturn line.reverse :: linesFrom [] rest else linesFrom (c :: line) rest

/-- The lines of a text, without their endings. -/
def lines (s : List Char) : List (List Char) := linesFrom [] s

private theorem withoutReturn_subset (line : List Char) : withoutReturn line ⊆ line := by
  unfold withoutReturn
  split
  · rename_i front h
    intro c hc
    rw [← List.reverse_reverse line, h]
    simp_all
  · exact fun _ hc => hc

private theorem newline_notMem_linesFrom (s : List Char) :
    ∀ line : List Char, '\n' ∉ line → ∀ l ∈ linesFrom line s, '\n' ∉ l := by
  induction s with
  | nil =>
    intro line hn l hl
    unfold linesFrom at hl
    split at hl
    · cases hl
    · simp_all
  | cons c s ih =>
    intro line hn l hl
    unfold linesFrom at hl
    split at hl
    · rcases List.mem_cons.1 hl with rfl | hl
      · intro hm
        exact hn (List.mem_reverse.1 (withoutReturn_subset _ hm))
      · exact ih [] nofun l hl
    · rename_i hc
      refine ih (c :: line) ?_ l hl
      rw [List.mem_cons, not_or]
      exact ⟨fun he => hc he.symm, hn⟩

private theorem linesFrom_ne_nil : ∀ {s line : List Char}, line ++ s ≠ [] → linesFrom line s ≠ []
  | [], line, h => by
    rw [linesFrom, List.isEmpty_eq_false_iff.2 (by simpa using h)]
    nofun
  | c :: s, line, _ => by
    rw [linesFrom]
    split
    · nofun
    · exact linesFrom_ne_nil nofun

theorem lines_ne_nil {s : List Char} (h : s ≠ []) : lines s ≠ [] := linesFrom_ne_nil h

private theorem trimEnd_withoutReturn (line : List Char) :
    trimEnd (withoutReturn line) = trimEnd line := by
  unfold withoutReturn
  split
  · rename_i front h
    rw [trimEnd, trimEnd, h, List.reverse_reverse, List.dropWhile_cons_of_pos (by decide)]
  · rfl

private theorem forall_mem_linesFrom_iff {P : List Char → Prop} (nil : P []) (s : List Char) :
    ∀ line : List Char, '\n' ∉ line → ((∀ l ∈ linesFrom line s, P (trimEnd l)) ↔
      ∀ l ∈ (line.reverse ++ s).splitOn '\n', P (trimEnd l)) := by
  induction s with
  | nil =>
    intro line hn
    have empty : P (trimEnd []) := nil
    rw [List.append_nil, List.splitOn_eq_singleton (by simpa using hn), linesFrom]
    cases line <;> simp [empty]
  | cons c s ih =>
    intro line hn
    rw [linesFrom]
    split
    · rename_i hc
      subst hc
      rw [List.splitOn_append_cons_self_of_not_mem (by simpa using hn), List.forall_mem_cons,
        List.forall_mem_cons, trimEnd_withoutReturn, ih [] nofun]
      rfl
    · rename_i hc
      rw [ih (c :: line) (by simpa using ⟨Ne.symm hc, hn⟩), List.reverse_cons, List.append_assoc,
        List.singleton_append]

/-- What lines are like up to their last character that is no blank may be said of what stands
between the line feeds. -/
theorem forall_mem_lines_iff {P : List Char → Prop} (nil : P []) {s : List Char} :
    (∀ l ∈ lines s, P (trimEnd l)) ↔ ∀ l ∈ s.splitOn '\n', P (trimEnd l) :=
  forall_mem_linesFrom_iff nil s [] nofun

theorem newline_notMem_of_mem_lines {s line : List Char} (h : line ∈ lines s) : '\n' ∉ line :=
  newline_notMem_linesFrom s [] nofun line h

end PageAccessors.Text
