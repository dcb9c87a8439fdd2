import PageAccessors.Proofs.Members

/-!
# Templates in pieces

A text falls into pieces, literal texts and placeholders, of which the scanner says what they are
(`marks_flatMap_source`, `join_flatMap_marks`): a placeholder is closed by the first braces behind
it, on its own line, and no other one starts anywhere in a literal text. Every text falls into such
pieces (`exists_split`), and there is no other way to write its segments (`pieces_inj`), since the
blanks around a name end where the name or the braces begin.

Segments that are printed with blanks around their names are pieces of that kind, if their literals
leave no braces open (`Printable.split`), so that the scanner finds them again.
-/

namespace PageAccessors

/-! ## Blanks -/

namespace Text

theorem exists_trim (s : List Char) : ∃ front back, s = front ++ trim s ++ back ∧
    (∀ c ∈ front, isBlank c = true) ∧ ∀ c ∈ back, isBlank c = true := by
  refine ⟨s.takeWhile isBlank, ((trimStart s).reverse.takeWhile isBlank).reverse, ?_,
    fun c hc => List.mem_takeWhile_imp hc, fun c hc => ?_⟩
  · have back := congrArg List.reverse
      (List.takeWhile_append_dropWhile (p := isBlank) (l := (trimStart s).reverse))
    rw [List.reverse_append, List.reverse_reverse] at back
    rw [trim, trimEnd, List.append_assoc, back, trimStart, List.takeWhile_append_dropWhile]
  · exact List.mem_takeWhile_imp (List.mem_reverse.1 hc)

theorem isBlank_head_trim {s rest : List Char} {c : Char} (h : trim s = c :: rest) :
    isBlank c = false := by
  obtain ⟨back, hb⟩ := trimEnd_prefix (trimStart s)
  rw [← trim, h, trimStart] at hb
  have := List.head?_dropWhile_not isBlank s
  rw [← hb] at this
  simpa using this

/-- Blanks end where something else begins. -/
theorem blanks_inj : ∀ {a b r r' : List Char} {x y : Char}, (∀ c ∈ a, isBlank c = true) →
    (∀ c ∈ b, isBlank c = true) → isBlank x = false → isBlank y = false →
    a ++ x :: r = b ++ y :: r' → a = b ∧ x :: r = y :: r'
  | [], [], _, _, _, _, _, _, _, _, h => ⟨rfl, h⟩
  | [], c :: b, _, _, x, _, _, hb, hx, _, h => by
    have := hb c (.head _)
    rw [← (List.cons.inj h).1, hx] at this
    cases this
  | c :: a, [], _, _, _, y, ha, _, _, hy, h => by
    have := ha c (.head _)
    rw [(List.cons.inj h).1, hy] at this
    cases this
  | c :: a, d :: b, _, _, _, _, ha, hb, hx, hy, h => by
    rw [List.forall_mem_cons] at ha hb
    obtain ⟨rfl, ht⟩ := List.cons.inj h
    obtain ⟨rfl, he⟩ := blanks_inj ha.2 hb.2 hx hy ht
    exact ⟨rfl, he⟩

/-- Texts that are the same without the blanks around them, and in front of the same character that
is none, are the same. -/
theorem eq_of_trim_eq {s t r r' : List Char} {x : Char} (hx : isBlank x = false)
    (ht : trim s = trim t) (h : s ++ x :: r = t ++ x :: r') : s = t := by
  obtain ⟨a, b, hs, ha, hb⟩ := exists_trim s
  obtain ⟨a', b', hs', ha', hb'⟩ := exists_trim t
  rw [← ht] at hs'
  cases hn : trim s with
  | nil =>
    rw [hn, List.append_nil] at hs hs'
    refine (blanks_inj ?_ ?_ hx hx h).1
    · rw [hs]
      exact List.forall_mem_append.2 ⟨ha, hb⟩
    · rw [hs']
      exact List.forall_mem_append.2 ⟨ha', hb'⟩
  | cons c rest =>
    have hc := isBlank_head_trim hn
    rw [hn] at hs hs'
    rw [hs, hs'] at h ⊢
    simp only [List.append_assoc, List.cons_append] at h
    obtain ⟨rfl, tail⟩ := blanks_inj ha ha' hc hc h
    have back := List.append_cancel_left (List.cons.inj tail).2
    rw [(blanks_inj hb hb' hx hx back).1]

theorem trim_of_blanks {a s b : List Char} (ha : ∀ c ∈ a, isBlank c = true)
    (hb : ∀ c ∈ b, isBlank c = true) (hne : s ≠ []) (hs : ∀ c ∈ s, isBlank c = false) :
    trim (a ++ s ++ b) = s := by
  have front : trimStart (a ++ s ++ b) = s ++ b := by
    obtain ⟨c, rest, rfl⟩ := List.exists_cons_of_ne_nil hne
    rw [trimStart, List.append_assoc, List.dropWhile_append_of_pos ha, List.cons_append,
      List.dropWhile_cons_of_neg (by simp [hs c (.head _)])]
  rw [trim, front, trimEnd, List.reverse_append,
    List.dropWhile_append_of_pos fun c hc => hb c (List.mem_reverse.1 hc)]
  obtain ⟨c, rest, hr⟩ := List.exists_cons_of_ne_nil (List.reverse_ne_nil_iff.2 hne)
  have hc : isBlank c = false := hs c (List.mem_reverse.1 (by rw [hr]; exact .head _))
  rw [hr, List.dropWhile_cons_of_neg (by simp [hc]), ← hr, List.reverse_reverse]

end Text

namespace Template

/-! ## Braces -/

def opening : List Char := ['\x7b', '\x7b']

def closing : List Char := ['\x7d', '\x7d']

/-- What stands between the braces of a placeholder: it is on one line, and the first closing braces
behind the opening ones are those at its end. -/
structure IsInner (inner : List Char) : Prop where
  line : '\n' ∉ inner
  shortest : ¬ closing <:+: inner ++ ['\x7d']

/-- No placeholder starts where a text starts: what is opened there is not closed, or not on its
line. -/
def Unclosed (s : List Char) : Prop :=
  ∀ inner beyond, s = opening ++ inner ++ closing ++ beyond → '\n' ∈ inner

theorem IsInner.tail {c : Char} {inner : List Char} (h : IsInner (c :: inner)) :
    IsInner inner where
  line hm := h.line (.tail _ hm)
  shortest hc := h.shortest (hc.trans (List.suffix_cons _ _).isInfix)

theorem untilClose?_closing (beyond : List Char) :
    untilClose? (closing ++ beyond) = some ([], beyond) := by
  simp [closing, untilClose?]

theorem untilClose?_append (beyond : List Char) : ∀ {inner : List Char}, IsInner inner →
    untilClose? (inner ++ closing ++ beyond) = some (inner, beyond)
  | [], _ => untilClose?_closing beyond
  | c :: inner, h => by
    have notFirst : ¬ (c = '\x7d' ∧ (inner ++ closing ++ beyond).head? = some '\x7d') := by
      rintro ⟨rfl, hd⟩
      refine h.shortest ?_
      cases inner with
      | nil => exact List.infix_rfl
      | cons d inner =>
        obtain rfl := Option.some.inj hd
        exact ⟨[], inner ++ ['\x7d'], rfl⟩
    have notEnd : c ≠ '\n' := fun hc => h.line (hc ▸ .head _)
    rw [List.cons_append, List.cons_append, untilClose?, if_neg notEnd, if_neg notFirst,
      untilClose?_append beyond h.tail]
    rfl

theorem isInner_of_untilClose? : ∀ {s inner after : List Char},
    untilClose? s = some (inner, after) → IsInner inner
  | [], _, _, h => by simp [untilClose?] at h
  | c :: rest, inner, after, h => by
    unfold untilClose? at h
    split_ifs at h with hn hc
    · obtain ⟨rfl, -⟩ := Prod.mk.inj (Option.some.inj h)
      exact ⟨List.not_mem_nil, by decide⟩
    · simp only [Option.map_eq_some_iff, Prod.mk.injEq, Prod.exists] at h
      obtain ⟨i, a, hr, rfl, -⟩ := h
      have tail := isInner_of_untilClose? hr
      refine ⟨List.not_mem_cons_of_ne_of_not_mem (Ne.symm hn) tail.line, fun hi => ?_⟩
      rcases List.infix_cons_iff.1 hi with hp | hi
      · -- The closing braces would stand at the very beginning.
        obtain ⟨first, second⟩ := List.cons_prefix_cons.1 hp
        refine hc ⟨first.symm, ?_⟩
        rw [untilClose?_eq_some hr]
        cases i with
        | nil => rfl
        | cons d i => exact congrArg some (List.cons_prefix_cons.1 second).1.symm
      · exact tail.shortest hi

theorem untilClose?_eq_none_iff {s : List Char} : untilClose? s = none ↔
    ∀ inner beyond, s = inner ++ closing ++ beyond → '\n' ∈ inner := by
  constructor
  · induction s with
    | nil => exact fun _ inner beyond h => by simp [closing] at h
    | cons c rest ih =>
      intro h inner beyond hs
      unfold untilClose? at h
      split_ifs at h with hn hc
      · cases inner with
        | nil =>
          rw [(List.cons.inj hs).1] at hn
          exact absurd hn (by decide)
        | cons d inner => exact List.mem_cons.2 (.inl (hn ▸ (List.cons.inj hs).1))
      · cases inner with
        | nil =>
          obtain ⟨rfl, rfl⟩ := List.cons.inj hs
          exact absurd ⟨rfl, rfl⟩ hc
        | cons d inner =>
          exact .tail _ (ih (Option.map_eq_none_iff.1 h) inner beyond (List.cons.inj hs).2)
  · intro h
    cases hc : untilClose? s with
    | none => rfl
    | some found =>
      obtain ⟨inner, after⟩ := found
      have hs : s = inner ++ closing ++ after := by
        rw [untilClose?_eq_some hc, List.append_assoc]
        rfl
      exact absurd (h inner after hs) (isInner_of_untilClose? hc).line

theorem isInner_of_hole? {s inner after : List Char} (h : hole? s = some (inner, after)) :
    IsInner inner := by
  unfold hole? at h
  split at h
  · exact isInner_of_untilClose? h
  · cases h

theorem hole?_eq_none_iff {s : List Char} : hole? s = none ↔ Unclosed s := by
  unfold hole?
  split
  · rename_i rest
    rw [untilClose?_eq_none_iff]
    refine forall₂_congr fun inner beyond => ?_
    simp [opening]
  · rename_i other
    refine ⟨fun _ inner beyond h => absurd h (other _), fun _ => rfl⟩

/-! ## Pieces -/

/-- A piece of a text: literal text, or a placeholder with what stands between its braces. -/
inductive Piece where
  | literal (text : List Char)
  | hole (inner : List Char)

namespace Piece

/-- The text of a piece. -/
def source : Piece → List Char
  | literal text => text
  | hole inner => opening ++ inner ++ closing

/-- The segment of a piece: the name of a placeholder is what stands between its braces, without the
blanks around it. -/
def segment : Piece → Segment
  | literal text => .literal (String.ofList text)
  | hole inner => .placeholder (String.ofList (Text.trim inner))

def marks : Piece → List Mark
  | literal text => text.map .char
  | hole inner => [.hole inner]

theorem flatMap_source_marks (p : Piece) : p.marks.flatMap Mark.source = p.source := by
  cases p with
  | literal text => simp [marks, source, Mark.source, List.flatMap_map]
  | hole inner => simp [marks, source, Mark.source, opening, closing]

end Piece

/-- Pieces that a text falls into: there is something in each literal, and none is next to another;
placeholders are closed as early as can be, and no other one starts in a literal. -/
structure Split (pieces : List Piece) : Prop where
  solid : ∀ text, .literal text ∈ pieces → text ≠ []
  apart : ∀ front text text' rest, pieces ≠ front ++ .literal text :: .literal text' :: rest
  inner : ∀ inner, .hole inner ∈ pieces → IsInner inner
  unclosed : ∀ front text rest, pieces = front ++ .literal text :: rest →
    ∀ before behind, text = before ++ behind → behind ≠ [] →
      Unclosed (behind ++ rest.flatMap Piece.source)

/-- Pieces that have some segments and make up a text. -/
structure Spells (raw : String) (segments : List Segment) (pieces : List Piece) : Prop where
  segments : pieces.map Piece.segment = segments
  source : pieces.flatMap Piece.source = raw.toList

theorem Split.tail {p : Piece} {pieces : List Piece} (h : Split (p :: pieces)) :
    Split pieces where
  solid text hm := h.solid text (.tail _ hm)
  apart front text text' rest he := h.apart (p :: front) text text' rest (congrArg _ he)
  inner inner hm := h.inner inner (.tail _ hm)
  unclosed front text rest he := h.unclosed (p :: front) text rest (congrArg _ he)

/-! ## What the scanner makes of pieces -/

theorem marks_append_of_unclosed {back : List Char} : ∀ {text : List Char},
    (∀ before behind, text = before ++ behind → behind ≠ [] → Unclosed (behind ++ back)) →
    marks (text ++ back) = text.map .char ++ marks back
  | [], _ => rfl
  | c :: text, h => by
    have first := hole?_eq_none_iff.2 (h [] (c :: text) rfl (List.cons_ne_nil _ _))
    rw [List.cons_append] at first ⊢
    rw [marks_cons first, marks_append_of_unclosed fun before behind he =>
      h (c :: before) behind (congrArg _ he)]
    rfl

theorem marks_flatMap_source : ∀ {pieces : List Piece}, Split pieces →
    marks (pieces.flatMap Piece.source) = pieces.flatMap Piece.marks
  | [], _ => marks_nil
  | .literal text :: pieces, h => by
    rw [List.flatMap_cons, List.flatMap_cons, Piece.source,
      marks_append_of_unclosed (h.unclosed [] text pieces rfl), marks_flatMap_source h.tail]
    rfl
  | .hole inner :: pieces, h => by
    have closed : hole? (opening ++ inner ++ closing ++ pieces.flatMap Piece.source) =
        some (inner, pieces.flatMap Piece.source) := by
      exact untilClose?_append _ (h.inner inner (.head _))
    rw [List.flatMap_cons, List.flatMap_cons, Piece.source, marks_of_hole closed,
      marks_flatMap_source h.tail]
    rfl

theorem join_eq (ms : List Mark) : join ms = withLiteral (untilHole ms).1 (untilHole ms).2 := rfl

theorem untilHole_map_char (rest : List Mark) : ∀ text : List Char,
    untilHole (text.map .char ++ rest) = (text ++ (untilHole rest).1, (untilHole rest).2)
  | [] => rfl
  | c :: text => by
    rw [List.map_cons, List.cons_append, untilHole, untilHole_map_char rest text]
    rfl

theorem join_flatMap_marks : ∀ {pieces : List Piece}, Split pieces →
    join (pieces.flatMap Piece.marks) = pieces.map Piece.segment
  | [], _ => rfl
  | .hole inner :: pieces, h => by
    rw [List.map_cons, ← join_flatMap_marks h.tail]
    rfl
  | .literal text :: pieces, h => by
    -- What follows a literal starts with a placeholder, if anything follows.
    have next : (untilHole (pieces.flatMap Piece.marks)).1 = [] := by
      rcases pieces with _ | ⟨text' | inner, pieces⟩
      · rfl
      · exact absurd rfl (h.apart [] text text' pieces)
      · rfl
    obtain ⟨c, text, rfl⟩ := List.exists_cons_of_ne_nil (h.solid text (.head _))
    rw [List.map_cons, ← join_flatMap_marks h.tail, join_eq, join_eq, List.flatMap_cons,
      Piece.marks, untilHole_map_char, next, List.append_nil]
    rfl

theorem segments_of_split {raw : String} {pieces : List Piece} (h : Split pieces)
    (hr : pieces.flatMap Piece.source = raw.toList) :
    (ofString raw).segments = pieces.map Piece.segment := by
  rw [ofString, ← hr, marks_flatMap_source h, join_flatMap_marks h]

/-! ## The pieces of a text -/

/-- The pieces that the marks of a text make up. -/
def pieces : List Mark → List Piece
  | [] => []
  | .hole inner :: rest => .hole inner :: pieces rest
  | .char c :: rest =>
    match pieces rest with
    | .literal text :: others => .literal (c :: text) :: others
    | others => .literal [c] :: others

theorem flatMap_marks_pieces : ∀ ms : List Mark, (pieces ms).flatMap Piece.marks = ms
  | [] => rfl
  | .hole inner :: rest => by
    rw [pieces, List.flatMap_cons, flatMap_marks_pieces rest]
    rfl
  | .char c :: rest => by
    have ih := flatMap_marks_pieces rest
    rw [pieces]
    split
    · rename_i text others hp
      rw [hp] at ih
      rw [← ih]
      rfl
    · rw [List.flatMap_cons, ih]
      rfl

theorem solid_pieces : ∀ (ms : List Mark) (text : List Char), .literal text ∈ pieces ms → text ≠ []
  | .hole inner :: rest, text, h => by
    rw [pieces, List.mem_cons] at h
    exact solid_pieces rest text (h.resolve_left nofun)
  | .char c :: rest, text, h => by
    have ih := solid_pieces rest text
    rw [pieces] at h
    split at h
    · rename_i text' others hp
      rw [hp] at ih
      rcases List.mem_cons.1 h with he | hm
      · cases he
        exact List.cons_ne_nil _ _
      · exact ih (.tail _ hm)
    · rcases List.mem_cons.1 h with he | hm
      · cases he
        exact List.cons_ne_nil _ _
      · exact ih hm

theorem apart_pieces : ∀ (ms : List Mark) (front : List Piece) (text text' : List Char)
    (rest : List Piece), pieces ms ≠ front ++ .literal text :: .literal text' :: rest
  | [], front, _, _, _, h => by simp [pieces] at h
  | .hole inner :: ms, front, text, text', rest, h => by
    rw [pieces] at h
    cases front with
    | nil => cases h
    | cons p front => exact apart_pieces ms front text text' rest (List.cons.inj h).2
  | .char c :: ms, front, text, text', rest, h => by
    have ih := apart_pieces ms
    rw [pieces] at h
    split at h
    · rename_i text₁ others hp
      rw [hp] at ih
      cases front with
      | nil => exact ih [] text₁ text' rest (congrArg _ (List.cons.inj h).2)
      | cons p front =>
        exact ih (.literal text₁ :: front) text text' rest (congrArg _ (List.cons.inj h).2)
    · rename_i other
      cases front with
      | nil => exact other text' rest (List.cons.inj h).2
      | cons p front => exact ih front text text' rest (List.cons.inj h).2

theorem isInner_of_mem_marks {inner : List Char} (s : List Char) (h : .hole inner ∈ marks s) :
    IsInner inner := by
  induction s using marks.induct with
  | case1 s inner' after hh _ ih =>
    rw [marks_of_hole hh, List.mem_cons] at h
    rcases h with he | hm
    · rw [Mark.hole.inj he]
      exact isInner_of_hole? hh
    · exact ih hm
  | case2 =>
    rw [marks_nil] at h
    cases h
  | case3 c rest hh ih =>
    rw [marks_cons hh, List.mem_cons] at h
    rcases h with he | hm
    · cases he
    · exact ih hm

/-- Where the scanner sees a character, no placeholder starts. -/
theorem unclosed_of_marks {s : List Char} {front back : List Mark} {c : Char}
    (h : marks s = front ++ .char c :: back) : Unclosed (c :: back.flatMap Mark.source) := by
  induction s using marks.induct generalizing front with
  | case1 s inner after hh _ ih =>
    rw [marks_of_hole hh] at h
    cases front with
    | nil => cases h
    | cons m front => exact ih (List.cons.inj h).2
  | case2 =>
    rw [marks_nil] at h
    simp at h
  | case3 d rest hh ih =>
    rw [marks_cons hh] at h
    cases front with
    | nil =>
      obtain ⟨he, rfl⟩ := List.cons.inj h
      obtain rfl := Mark.char.inj he
      rw [Template.flatMap_source_marks]
      exact hole?_eq_none_iff.1 hh
    | cons m front => exact ih (List.cons.inj h).2

theorem flatMap_source_flatMap_marks (ps : List Piece) :
    (ps.flatMap Piece.marks).flatMap Mark.source = ps.flatMap Piece.source := by
  rw [List.flatMap_assoc]
  exact List.flatMap_congr fun p _ => p.flatMap_source_marks

theorem split_pieces (s : List Char) : Split (pieces (marks s)) where
  solid := solid_pieces _
  apart := apart_pieces _
  inner inner hm := by
    refine isInner_of_mem_marks s ?_
    rw [← flatMap_marks_pieces (marks s)]
    exact List.mem_flatMap.2 ⟨_, hm, List.mem_singleton.2 rfl⟩
  unclosed front text rest he before behind ht hb := by
    obtain ⟨c, behind, rfl⟩ := List.exists_cons_of_ne_nil hb
    have hm : marks s = (front.flatMap Piece.marks ++ before.map .char) ++
        .char c :: (behind.map .char ++ rest.flatMap Piece.marks) := by
      rw [← flatMap_marks_pieces (marks s), he, ht]
      simp [Piece.marks]
    have := unclosed_of_marks hm
    rw [List.flatMap_append, flatMap_source_flatMap_marks] at this
    simpa [List.flatMap_map, Mark.source] using this

/-- Every text falls into pieces. -/
theorem exists_split (s : List Char) : ∃ ps, Split ps ∧ ps.flatMap Piece.source = s := by
  refine ⟨pieces (marks s), split_pieces s, ?_⟩
  rw [← flatMap_source_flatMap_marks, flatMap_marks_pieces, Template.flatMap_source_marks]

/-- Pieces with the same segments and the same text are the same. -/
theorem pieces_inj : ∀ {ps qs : List Piece}, ps.map Piece.segment = qs.map Piece.segment →
    ps.flatMap Piece.source = qs.flatMap Piece.source → ps = qs
  | [], [], _, _ => rfl
  | .literal text :: ps, .literal text' :: qs, hs, ht => by
    obtain ⟨first, rest⟩ := List.cons.inj hs
    obtain rfl := String.ofList_injective (Segment.literal.inj first)
    rw [pieces_inj rest (List.append_cancel_left ht)]
  | .hole inner :: ps, .hole inner' :: qs, hs, ht => by
    obtain ⟨first, rest⟩ := List.cons.inj hs
    have trimmed := String.ofList_injective (Segment.placeholder.inj first)
    have behind : inner ++ '\x7d' :: ('\x7d' :: ps.flatMap Piece.source) =
        inner' ++ '\x7d' :: ('\x7d' :: qs.flatMap Piece.source) := by
      simpa [Piece.source, opening, closing] using ht
    obtain rfl := Text.eq_of_trim_eq (by decide) trimmed behind
    rw [pieces_inj rest (List.append_cancel_left ht)]
  | .literal _ :: _, .hole _ :: _, hs, _ => nomatch (List.cons.inj hs).1
  | .hole _ :: _, .literal _ :: _, hs, _ => nomatch (List.cons.inj hs).1
  | [], _ :: _, hs, _ => nomatch hs
  | _ :: _, [], hs, _ => nomatch hs

/-! ## Parameters -/

/-- The names of a list, each where it first appears. -/
structure FirstAppearances (names firsts : List String) : Prop where
  same : ∀ name, name ∈ firsts ↔ name ∈ names
  distinct : firsts.Nodup
  order : firsts.Pairwise (Precedes names)

theorem firstAppearances_parameters (t : Template) : FirstAppearances t.holes t.parameters where
  same _ := mem_parameters
  distinct := (pairwise_precedes_eraseDups t.holes).imp Precedes.ne
  order := pairwise_precedes_eraseDups t.holes

theorem isParameterized_iff_placeholder {t : Template} :
    t.isParameterized = true ↔ ∃ name, .placeholder name ∈ t.segments := by
  rw [isParameterized_iff_holes, ne_eq, List.eq_nil_iff_forall_not_mem, not_forall_not]
  simp only [mem_holes]

/-- The scanner keeps a text and finds its placeholders: it gives the segments of the pieces that
the text falls into, which are the only pieces that have these segments and make up the text. -/
theorem spells_ofString (raw : String) : (ofString raw).raw = raw ∧
    (∃ ps, Spells raw (ofString raw).segments ps ∧ Split ps ∧
      ∀ other, Spells raw (ofString raw).segments other → other = ps) ∧
    FirstAppearances (ofString raw).holes (ofString raw).parameters ∧
    ((ofString raw).isParameterized = true ↔
      ∃ name, .placeholder name ∈ (ofString raw).segments) := by
  obtain ⟨ps, split, source⟩ := exists_split raw.toList
  have segments := segments_of_split split source
  refine ⟨rfl, ⟨ps, ⟨segments.symm, source⟩, split, fun other h => ?_⟩,
    firstAppearances_parameters _, isParameterized_iff_placeholder⟩
  exact pieces_inj (h.segments.trans segments) (h.source.trans source.symm)

/-! ## Printed segments -/

/-- A segment with the blanks that it is printed with. -/
inductive Printed where
  | literal (text : String)
  | placeholder (before : List Char) (name : String) (behind : List Char)

namespace Printed

def segment : Printed → Segment
  | literal text => .literal text
  | placeholder _ name _ => .placeholder name

def text : Printed → List Char
  | literal text => text.toList
  | placeholder before name behind => opening ++ before ++ name.toList ++ behind ++ closing

def name? : Printed → Option String
  | literal _ => none
  | placeholder _ name _ => some name

def piece : Printed → Piece
  | literal text => .literal text.toList
  | placeholder before name behind => .hole (before ++ name.toList ++ behind)

end Printed

/-- Segments that can be told apart when they are printed. -/
structure Printable (ps : List Printed) : Prop where
  solid : ∀ text, .literal text ∈ ps → text ≠ ""
  apart : ∀ front text text' rest, ps ≠ front ++ .literal text :: .literal text' :: rest
  unopened : ∀ text, .literal text ∈ ps →
    ¬ opening <:+: text.toList ∧ text.toList.getLast? ≠ some '\x7b'
  named : ∀ before name behind, .placeholder before name behind ∈ ps → IsName name
  blank : ∀ before name behind, .placeholder before name behind ∈ ps →
    ∀ c ∈ before ++ behind, Text.isBlank c = true ∧ c ≠ '\n'

theorem toNat_of_isNameChar {c : Char} (h : isNameChar c = true) :
    48 ≤ c.toNat ∧ c.toNat ≤ 122 := by
  have val : c.toNat = c.val.toNat := rfl
  have ranges : (decide (c.val ≥ 'A'.val ∧ c.val ≤ 'Z'.val) ||
      (decide (c.val ≥ 'a'.val) && decide (c.val ≤ 'z'.val)) ||
      (decide (c.val ≥ '0'.val) && decide (c.val ≤ '9'.val)) || decide (c = '_')) = true := h
  simp only [Bool.or_eq_true, Bool.and_eq_true, decide_eq_true_eq, ge_iff_le,
    UInt32.le_iff_toNat_le, Char.reduceVal, UInt32.reduceToNat] at ranges
  rcases ranges with ranges | rfl
  · omega
  · decide

theorem isBlank_of_isNameChar {c : Char} (h : isNameChar c = true) : Text.isBlank c = false := by
  obtain ⟨low, high⟩ := toNat_of_isNameChar h
  by_contra hb
  simp only [Text.isBlank, Bool.not_eq_false, Bool.or_eq_true, Bool.and_eq_true,
    decide_eq_true_eq, beq_iff_eq] at hb
  omega

theorem notMem_of_blanks {s : List Char} (h : ∀ c ∈ s, Text.isBlank c = true) :
    '\x7d' ∉ s := fun hm => absurd (h _ hm) (by decide)

namespace Printable

variable {ps : List Printed} (h : Printable ps)
include h

theorem isInner {before behind : List Char} {name : String}
    (hm : .placeholder before name behind ∈ ps) :
    IsInner (before ++ name.toList ++ behind) := by
  have hn := h.named before name behind hm
  have blank := List.forall_mem_append.1 (h.blank before name behind hm)
  constructor
  · intro hl
    rcases List.mem_append.1 hl with hl | hl
    · rcases List.mem_append.1 hl with hl | hl
      · exact (blank.1 _ hl).2 rfl
      · exact hn.notMem (by decide) hl
    · exact (blank.2 _ hl).2 rfl
  · -- There is no closing brace in front of the last one.
    have none_ : '\x7d' ∉ before ++ name.toList ++ behind := by
      simp only [List.mem_append, not_or]
      exact ⟨⟨notMem_of_blanks fun c hc => (blank.1 c hc).1, hn.notMem (by decide)⟩,
        notMem_of_blanks fun c hc => (blank.2 c hc).1⟩
    intro hc
    rcases List.infix_concat_iff.1 hc with ⟨front, hf⟩ | hi
    · have last : front ++ ['\x7d'] = before ++ name.toList ++ behind :=
        List.append_cancel_right ((List.append_assoc _ _ _).trans hf)
      exact none_ (last ▸ List.mem_append_right _ (.head _))
    · exact none_ (hi.subset (.head _))

theorem split : Split (ps.map Printed.piece) where
  solid text hm := by
    obtain ⟨p, hp, he⟩ := List.mem_map.1 hm
    cases p with
    | literal text' =>
      cases he
      exact fun hn => h.solid text' hp (String.toList_eq_nil_iff.1 hn)
    | placeholder => cases he
  apart front text text' rest he := by
    obtain ⟨front', others, rfl, -, hp⟩ := List.map_eq_append_iff.1 he
    obtain ⟨p, others, rfl, first, hq⟩ := List.map_eq_cons_iff.1 hp
    obtain ⟨q, others, rfl, second, -⟩ := List.map_eq_cons_iff.1 hq
    cases p <;> cases first
    cases q <;> cases second
    exact h.apart _ _ _ _ rfl
  inner inner hm := by
    obtain ⟨p, hp, he⟩ := List.mem_map.1 hm
    cases p with
    | literal => cases he
    | placeholder before name behind =>
      cases he
      exact h.isInner hp
  unclosed front text rest he before behind ht hb inner beyond hs := by
    -- Braces that open in a literal would be part of it, or it would end with one.
    obtain ⟨front', others, rfl, -, hp⟩ := List.map_eq_append_iff.1 he
    obtain ⟨p, others, rfl, first, -⟩ := List.map_eq_cons_iff.1 hp
    cases p with
    | placeholder => cases first
    | literal text' =>
      cases first
      obtain ⟨clear, last⟩ := h.unopened text' (List.mem_append_right _ (.head _))
      rcases behind with _ | ⟨c, _ | ⟨d, behind⟩⟩
      · exact absurd rfl hb
      · refine absurd ?_ last
        rw [ht, (List.cons.inj hs).1, List.getLast?_concat]
      · refine absurd ⟨before, behind, ?_⟩ clear
        rw [ht, (List.cons.inj hs).1, (List.cons.inj (List.cons.inj hs).2).1]
        simp [opening]

theorem map_segment_piece : (ps.map Printed.piece).map Piece.segment = ps.map Printed.segment := by
  rw [List.map_map]
  refine List.map_congr_left fun p hp => ?_
  cases p with
  | literal text => simp [Printed.piece, Printed.segment, Piece.segment]
  | placeholder before name behind =>
    obtain ⟨hne, chars⟩ := nameChars (isName_iff.1 (h.named before name behind hp))
    have blank := List.forall_mem_append.1 (h.blank before name behind hp)
    have trimmed : Text.trim (before ++ name.toList ++ behind) = name.toList :=
      Text.trim_of_blanks (fun c hc => (blank.1 c hc).1) (fun c hc => (blank.2 c hc).1) hne
        fun c hc => isBlank_of_isNameChar (chars c hc)
    rw [Function.comp_apply, Printed.piece, Piece.segment, trimmed, String.ofList_toList]
    rfl

end Printable

theorem flatMap_source_piece (ps : List Printed) :
    (ps.map Printed.piece).flatMap Piece.source = ps.flatMap Printed.text := by
  rw [List.flatMap_map]
  refine List.flatMap_congr fun p _ => ?_
  cases p <;> simp [Printed.piece, Printed.text, Piece.source]

theorem holes_of_segments {t : Template} {ps : List Printed}
    (h : t.segments = ps.map Printed.segment) : t.holes = ps.filterMap Printed.name? := by
  rw [holes, h, List.filterMap_map]
  refine List.filterMap_congr fun p _ => ?_
  cases p <;> rfl

/-- Printed segments are scanned to what they were. -/
theorem ofString_printed {ps : List Printed} (h : Printable ps) :
    (ofString (String.ofList (ps.flatMap Printed.text))).segments = ps.map Printed.segment ∧
      FirstAppearances (ps.filterMap Printed.name?)
        (ofString (String.ofList (ps.flatMap Printed.text))).parameters := by
  have segments : (ofString (String.ofList (ps.flatMap Printed.text))).segments =
      ps.map Printed.segment := by
    rw [segments_of_split h.split, h.map_segment_piece]
    rw [String.toList_ofList, flatMap_source_piece]
  refine ⟨segments, ?_⟩
  rw [← holes_of_segments segments]
  exact firstAppearances_parameters _

/-- A brace in a literal and some right behind a placeholder, blanks that are no spaces, and a name
that is repeated. -/
def Printed.row : List Printed :=
  [.literal "a\x7bb", .placeholder ['\t', '\u00a0'] "x" ['\r'], .placeholder [] "x" [],
    .literal "\x7d\x7d \x7bc"]

theorem printable_row : Printable Printed.row where
  solid text hm := by
    simp only [Printed.row, List.mem_cons, Printed.literal.injEq, reduceCtorEq, List.not_mem_nil,
      or_false, false_or] at hm
    rcases hm with rfl | rfl <;> decide
  apart front text text' rest he := by
    rcases front with _ | ⟨p, _ | ⟨q, _ | ⟨r, _ | ⟨s, front⟩⟩⟩⟩ <;> simp [Printed.row] at he
  unopened text hm := by
    simp only [Printed.row, List.mem_cons, Printed.literal.injEq, reduceCtorEq, List.not_mem_nil,
      or_false, false_or] at hm
    rcases hm with rfl | rfl <;> decide
  named before name behind hm := by
    simp only [Printed.row, List.mem_cons, Printed.placeholder.injEq, reduceCtorEq,
      List.not_mem_nil, or_false, false_or] at hm
    rcases hm with ⟨-, rfl, -⟩ | ⟨-, rfl, -⟩ <;> exact isName_iff.2 (by decide)
  blank before name behind hm := by
    simp only [Printed.row, List.mem_cons, Printed.placeholder.injEq, reduceCtorEq,
      List.not_mem_nil, or_false, false_or] at hm
    rcases hm with ⟨rfl, -, rfl⟩ | ⟨rfl, -, rfl⟩ <;> simp [Text.isBlank]

theorem ofString_printed_row : Printable Printed.row ∧
    String.ofList (Printed.row.flatMap Printed.text) =
      "a\x7bb\x7b\x7b\t\u00a0x\r\x7d\x7d\x7b\x7bx\x7d\x7d\x7d\x7d \x7bc" ∧
    (ofString (String.ofList (Printed.row.flatMap Printed.text))).segments =
      [.literal "a\x7bb", .placeholder "x", .placeholder "x", .literal "\x7d\x7d \x7bc"] ∧
    FirstAppearances ["x", "x"]
      (ofString (String.ofList (Printed.row.flatMap Printed.text))).parameters :=
  ⟨printable_row, by decide, ofString_printed printable_row⟩

end Template

end PageAccessors
