import Mathlib.Data.Bool.AllAny
import Mathlib.Data.List.Infix
import Mathlib.Tactic.SplitIfs
import PageAccessors.Proofs.YamlValues
import PageAccessors.Text.Blank

/-!
# Blank texts

A text of blanks only has no token that starts a list or a record: what is no space to the format
is read as a text without quotes. So it holds no record.
-/

namespace PageAccessors.Yaml

/-! ## Reading goes on -/

theorem Cursor.skip_suffix : ∀ (n : Nat) (c : Cursor), (c.skip n).rest <:+ c.rest
  | 0, _ => List.suffix_refl _
  | _ + 1, ⟨[], _⟩ => List.suffix_refl _
  | n + 1, ⟨c :: rest, m⟩ => (skip_suffix n ⟨rest, m.after c⟩).trans (List.suffix_cons c rest)

theorem Cursor.skipWhile_suffix (p : Char → Bool) (c : Cursor) :
    (c.skipWhile p).rest <:+ c.rest := by
  obtain ⟨rest, m⟩ := c
  show (spanList p rest m).2.rest <:+ rest
  induction rest generalizing m with
  | nil => exact List.suffix_refl _
  | cons c rest ih =>
    rw [spanList]
    split_ifs
    · exact (ih (m.after c)).trans (List.suffix_cons c rest)
    · exact List.suffix_refl _

theorem plainWord_suffix {flow : Bool} {s word : List Char} {m : Mark} {c : Cursor}
    (h : plainWord flow s m = some (word, c)) : c.rest <:+ s := by
  induction s generalizing word m with
  | nil =>
    cases h
    exact List.suffix_refl _
  | cons a s ih =>
    rw [plainWord] at h
    split_ifs at h
    · cases h
      exact List.suffix_refl _
    · cases h
      exact List.suffix_refl _
    · simp only [Option.bind_eq_bind, Option.bind_eq_some_iff] at h
      obtain ⟨⟨more, c'⟩, hm, h⟩ := h
      cases h
      exact (ih hm).trans (List.suffix_cons a s)

theorem Gap.readList_suffix {indent : Int} {g g' : Gap} {s : List Char} {m : Mark} {c : Cursor}
    (h : Gap.readList indent g s m = some (g', c)) : c.rest <:+ s := by
  induction s generalizing g m with
  | nil =>
    cases h
    exact List.suffix_refl _
  | cons a s ih =>
    rw [Gap.readList] at h
    split_ifs at h
    · exact (ih h).trans (List.suffix_cons a s)
    · exact (ih h).trans (List.suffix_cons a s)
    · cases h
      exact List.suffix_refl _

theorem plainWords_suffix {flow : Bool} {indent : Int} {fuel : Nat} {g : Gap} {c : Cursor}
    {p : PlainText} (h : plainWords flow indent fuel g c = some p) : p.cursor.rest <:+ c.rest := by
  induction fuel generalizing g c p with
  | zero =>
    cases h
    exact List.suffix_refl _
  | succ fuel ih =>
    rw [plainWords] at h
    split_ifs at h
    · cases h
      exact List.suffix_refl _
    · simp only [Option.bind_eq_bind, Option.bind_eq_some_iff] at h
      obtain ⟨⟨word, c₁⟩, hw, h⟩ := h
      have first := plainWord_suffix hw
      split_ifs at h
      · cases h
        exact first
      · cases h
        exact first
      · obtain ⟨⟨g', c₂⟩, hg, h⟩ := Option.bind_eq_some_iff.1 h
        have second := (Gap.readList_suffix hg).trans first
        split_ifs at h
        · cases h
          exact second
        · obtain ⟨more, hm, h⟩ := Option.bind_eq_some_iff.1 h
          cases h
          exact (ih hm).trans second

/-! ## Tokens of blank texts -/

/-- A token that starts nothing. -/
def Token.IsBare (t : Token) : Prop := t = .streamEnd ∨ ∃ text, t = .scalar .plain text

namespace Scanner

/-- In the middle of a blank text, nothing has been started. -/
structure IsIdle (s : Scanner) : Prop where
  blank : ∀ c ∈ s.cursor.rest, Text.isBlank c = true
  indents : s.indents = []
  outer : s.outerKeys = []
  bare : ∀ t ∈ s.waiting, t.IsBare

variable {s t : Scanner}

/-- Moving on in the text keeps a text idle. -/
theorem IsIdle.moveTo (h : s.IsIdle) {c : Cursor} (hc : c.rest <:+ s.cursor.rest) :
    (s.moveTo c).IsIdle :=
  ⟨fun a ha => h.blank a (hc.subset ha), h.indents, h.outer, h.bare⟩

theorem IsIdle.congr (h : s.IsIdle) (hc : t.cursor = s.cursor) (hi : t.indents = s.indents)
    (ho : t.outerKeys = s.outerKeys) (hw : t.waiting = s.waiting) : t.IsIdle :=
  ⟨by rw [hc]; exact h.blank, by rw [hi, h.indents], by rw [ho, h.outer], by rw [hw]; exact h.bare⟩

theorem IsIdle.emit (h : s.IsIdle) {a : Token} (ha : a.IsBare) : (s.emit a).IsIdle := by
  refine ⟨h.blank, h.indents, h.outer, fun b hb => ?_⟩
  rcases List.mem_append.1 hb with hb | hb
  · exact h.bare b hb
  · rwa [List.mem_singleton.1 hb]

/-- The line up to its break or the next token has been passed. -/
def pastGap (s : Scanner) : Scanner :=
  let s := if s.cursor.column = 0 && s.cursor.rest.head? = some byteOrderMark then s.skip 1 else s
  let isGap (c : Char) : Bool := c = ' ' || (c = '\t' && (s.flow || !s.keyAllowed))
  let s := s.moveTo (s.cursor.skipWhile isGap)
  if s.cursor.rest.head? = some '#' then s.moveTo (s.cursor.skipWhile (!isBreak ·)) else s

theorem pastSpace_succ (fuel : Nat) (s : Scanner) : pastSpace (fuel + 1) s =
    match s.pastGap.cursor.rest with
    | c :: _ =>
      if isBreak c then
        pastSpace fuel
          { s.pastGap.skip 1 with keyAllowed := s.pastGap.keyAllowed || !s.pastGap.flow }
      else s.pastGap
    | [] => s.pastGap := rfl

theorem skip_idle (h : s.IsIdle) (n : Nat) : (s.skip n).IsIdle := h.moveTo (Cursor.skip_suffix n _)

theorem pastGap_idle (h : s.IsIdle) : s.pastGap.IsIdle := by
  have moved {s : Scanner} (h : s.IsIdle) (p : Char → Bool) :
      (s.moveTo (s.cursor.skipWhile p)).IsIdle := h.moveTo (Cursor.skipWhile_suffix p _)
  have start : (if s.cursor.column = 0 && s.cursor.rest.head? = some byteOrderMark then s.skip 1
      else s).IsIdle := by
    split_ifs
    · exact skip_idle h 1
    · exact h
  rw [pastGap]
  generalize (if s.cursor.column = 0 && s.cursor.rest.head? = some byteOrderMark then s.skip 1
      else s) = s at start
  split_ifs
  · exact moved (moved start _) _
  · exact moved start _

theorem pastSpace_idle (fuel : Nat) (h : s.IsIdle) : (pastSpace fuel s).IsIdle := by
  induction fuel generalizing s with
  | zero => exact h
  | succ fuel ih =>
    have gap := pastGap_idle h
    rw [pastSpace_succ]
    split
    · split_ifs
      · exact ih ((skip_idle gap 1).congr rfl rfl rfl rfl)
      · exact gap
    · exact gap

theorem dropKeys_idle (h : s.IsIdle) (ht : s.dropKeys = some t) : t.IsIdle := by
  rw [Scanner.dropKeys, h.outer] at ht
  simp only [List.mapM_nil, Option.pure_def, Option.bind_eq_bind, Option.bind_some,
    Option.bind_eq_some_iff] at ht
  obtain ⟨key, -, ht⟩ := ht
  cases ht
  exact h.congr rfl rfl h.outer.symm rfl

theorem comeOut_idle (h : s.IsIdle) (column : Int) : s.comeOut column = s := by
  obtain ⟨c, i, is, key, outer, b, ts, n⟩ := s
  obtain rfl : is = [] := h.indents
  simp [comeOut, unwind]

theorem removeKey_idle (h : s.IsIdle) (ht : s.removeKey = some t) : t.IsIdle := by
  rw [removeKey] at ht
  split at ht
  · split_ifs at ht
    cases ht
    exact h.congr rfl rfl rfl rfl
  · cases ht
    exact h

theorem readEnd_idle (h : s.IsIdle) (ht : s.readEnd = some t) : t.IsIdle := by
  obtain ⟨s₁, h₁, ht⟩ : ∃ s₁ : Scanner, s₁.IsIdle ∧
      ((s₁.comeOut (-1)).removeKey >>= fun s =>
        some ({ s with keyAllowed := false }.emit .streamEnd)) = some t := by
    refine ⟨_, ?_, ht⟩
    split_ifs
    · exact h
    · exact h.moveTo List.nil_suffix
  rw [comeOut_idle h₁, Option.bind_eq_bind, Option.bind_eq_some_iff] at ht
  obtain ⟨s₂, hs₂, ht⟩ := ht
  cases ht
  refine IsIdle.emit ?_ (.inl rfl)
  exact (removeKey_idle h₁ hs₂).congr rfl rfl rfl rfl

theorem saveKey_idle (h : s.IsIdle) (ht : s.saveKey = some t) : t.IsIdle := by
  rw [saveKey] at ht
  split_ifs at ht
  · obtain ⟨s₁, hs₁, ht⟩ := Option.bind_eq_some_iff.1 ht
    cases ht
    exact (removeKey_idle h hs₁).congr rfl rfl rfl rfl
  · cases ht
    exact h

theorem readPlainText_idle (h : s.IsIdle) (ht : s.readPlainText = some t) : t.IsIdle := by
  rw [readPlainText] at ht
  obtain ⟨s₁, hs₁, ht⟩ := Option.bind_eq_some_iff.1 ht
  obtain ⟨p, hp, ht⟩ := Option.bind_eq_some_iff.1 ht
  cases ht
  have moved := (saveKey_idle h hs₁).moveTo (plainWords_suffix hp)
  refine IsIdle.emit ?_ (.inr ⟨_, rfl⟩)
  exact moved.congr rfl rfl rfl rfl

/-- Blanks are none of the characters that other tokens start with. -/
theorem readToken_idle (h : s.IsIdle) (ht : s.readToken = some t) : t.IsIdle := by
  rw [readToken] at ht
  obtain ⟨s₁, hs₁, ht⟩ := Option.bind_eq_some_iff.1 ht
  have h₁ := dropKeys_idle (pastSpace_idle _ h) hs₁
  rw [comeOut_idle h₁] at ht
  cases hr : s₁.cursor.rest with
  | nil =>
    simp only [hr] at ht
    exact readEnd_idle h₁ ht
  | cons c rest =>
    have no : ∀ d ∈ "%-.[]\x7b\x7d,?:*&!|>'\"".toList, c ≠ d := by
      have blank := h₁.blank c (by simp [hr])
      have signs : ∀ d ∈ "%-.[]\x7b\x7d,?:*&!|>'\"".toList, Text.isBlank d = false :=
        List.all_iff_forall_prop.1 (by decide)
      rintro d hd rfl
      rw [signs c hd] at blank
      cases blank
    have mark (d : Char) (hd : c ≠ d) : startsWithMark d (c :: rest) = false := by
      rcases rest with _ | ⟨b, _ | ⟨e, rest⟩⟩ <;> simp [startsWithMark, hd]
    have dash := mark '-' (no '-' (by decide))
    have dot := mark '.' (no '.' (by decide))
    simp only [hr, dash, dot, no '%' (by decide), no '[' (by decide), no ']' (by decide),
      no '\x7b' (by decide), no '\x7d' (by decide), no ',' (by decide), no '-' (by decide),
      no '?' (by decide), no ':' (by decide), no '*' (by decide), no '&' (by decide),
      no '!' (by decide), no '|' (by decide), no '>' (by decide), no '\'' (by decide),
      no '"' (by decide), decide_false, Bool.and_false, Bool.false_and, Bool.false_eq_true,
      if_false] at ht
    split_ifs at ht
    exact readPlainText_idle h₁ ht

theorem tokens_idle (h : s.IsIdle) (fuel : Nat) : ∀ t ∈ tokens fuel s, t.IsBare := by
  induction fuel generalizing s with
  | zero => nofun
  | succ fuel ih =>
    have read {s : Scanner} (h : s.IsIdle) :
        ∀ t ∈ ((s.readToken).map (tokens fuel)).getD [], t.IsBare := by
      cases hr : s.readToken with
      | none => nofun
      | some t => exact ih (readToken_idle h hr)
    have bare := h.bare
    rw [Scanner.tokens]
    split
    · exact read h
    · rename_i a waiting hw
      rw [hw, List.forall_mem_cons] at bare
      split
      · nofun
      · rename_i s₁ hs₁
        have h₁ := dropKeys_idle h hs₁
        split_ifs
        · exact read h₁
        · exact List.forall_mem_cons.2 ⟨bare.1, by simp⟩
        · exact List.forall_mem_cons.2 ⟨bare.1, ih ⟨h₁.blank, h₁.indents, h₁.outer, bare.2⟩⟩

end Scanner

/-! ## Blank texts hold no record -/

theorem mem_of_mem_uniformBreaks {s : List Char} {c : Char} (h : c ∈ uniformBreaks s) :
    c ∈ s ∨ c = '\n' := by
  fun_induction uniformBreaks s <;> simp_all <;> tauto

theorem isBare_of_blank {text : String} (h : Text.isBlankText text = true) :
    ∀ t ∈ tokens text, t.IsBare := by
  rw [Text.isBlankText, List.all_eq_true] at h
  rw [tokens]
  split_ifs
  · refine Scanner.tokens_idle ⟨fun c hc => ?_, rfl, rfl, by simp [Scanner.ofText]⟩ _
    rcases mem_of_mem_uniformBreaks hc with hc | rfl
    · exact h c hc
    · rfl
  · nofun

/-- A record is no blank text. -/
theorem isBlankText_of_load {text : String} {v : Value} {fields : List (Value × Value)}
    (h : load text = .ok v) (hv : v.bare = .record fields) : Text.isBlankText text = false := by
  by_contra blank
  have bare := isBare_of_blank (by simpa using blank)
  obtain ⟨d, m, hd, hr⟩ := exists_document_of_load h hv
  obtain ⟨_, tag, nodes, k, -, hf, -⟩ := exists_of_bare_record hr hv
  rw [First.ofText] at hd
  cases ht : tokens text with
  | nil =>
    rw [ht] at hd
    cases hd
  | cons t ts =>
    rw [ht, List.forall_mem_cons] at bare
    rcases bare.1 with rfl | ⟨word, rfl⟩
    · rw [ht] at hd
      cases hd
    · rw [ht] at hd
      injection hd with hroot
      subst hroot
      cases hf

end PageAccessors.Yaml
