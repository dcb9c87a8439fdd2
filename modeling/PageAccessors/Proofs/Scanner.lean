import Mathlib.Data.List.Basic
import Mathlib.Tactic.SplitIfs
import PageAccessors.Template

/-!
# What the scanner sees

The marks of a text are the text: written out again, with the braces put back around each
placeholder, they give every character in its place (`flatMap_source_marks`). Joining marks into
segments only groups them (`flatMap_join`), so the names of a template's placeholders are the
trimmed texts between the braces (`holes_ofString`). A text without braces has no placeholder.
-/

namespace PageAccessors.Template

/-- The text that a mark was read from. -/
def Mark.source : Mark → List Char
  | .char c => [c]
  | .hole inner => ['\x7b', '\x7b'] ++ inner ++ ['\x7d', '\x7d']

/-- The name that a mark refers to, if it is a placeholder. -/
def Mark.name? : Mark → Option String
  | .char _ => none
  | .hole inner => some (holeName inner)

/-- The text that a mark stands for when each name has a value. -/
def Mark.filled (value : String → String) : Mark → List Char
  | .char c => [c]
  | .hole inner => (value (holeName inner)).toList

/-- A text with the value of its name in the place of each placeholder. -/
def fill (value : String → String) (raw : String) : String :=
  String.ofList ((marks raw.toList).flatMap (Mark.filled value))

/-! ## Marks -/

theorem untilClose?_eq_some : ∀ {s inner after : List Char},
    untilClose? s = some (inner, after) → s = inner ++ '\x7d' :: '\x7d' :: after
  | [], _, _, h => by simp [untilClose?] at h
  | c :: rest, inner, after, h => by
    unfold untilClose? at h
    split_ifs at h with hn hc
    · obtain ⟨rfl, hh⟩ := hc
      simp only [Option.some.injEq, Prod.mk.injEq] at h
      obtain ⟨rfl, rfl⟩ := h
      cases rest with
      | nil => simp at hh
      | cons d rest =>
        simp only [List.head?_cons, Option.some.injEq] at hh
        simp [hh]
    · simp only [Option.map_eq_some_iff, Prod.mk.injEq, Prod.exists] at h
      obtain ⟨i, a, hr, rfl, rfl⟩ := h
      rw [untilClose?_eq_some hr]
      simp

theorem hole?_eq_some {s inner after : List Char} (h : hole? s = some (inner, after)) :
    s = (Mark.hole inner).source ++ after := by
  unfold hole? at h
  split at h
  · rw [untilClose?_eq_some h]
    simp [Mark.source]
  · simp at h

theorem marks_of_hole {s inner after : List Char} (h : hole? s = some (inner, after)) :
    marks s = .hole inner :: marks after := by
  rw [marks]
  split
  · rename_i h'
    rw [h, Option.some.injEq, Prod.mk.injEq] at h'
    rw [h'.1, h'.2]
  · rename_i h'
    rw [h] at h'
    cases h'

theorem marks_nil : marks [] = [] := by
  rw [marks]
  rfl

theorem marks_cons {c : Char} {rest : List Char} (h : hole? (c :: rest) = none) :
    marks (c :: rest) = .char c :: marks rest := by
  rw [marks]
  split
  · rename_i h'
    rw [h] at h'
    cases h'
  · rfl

/-- The marks of a text, put back together, are the text. -/
theorem flatMap_source_marks (s : List Char) : (marks s).flatMap Mark.source = s := by
  induction s using marks.induct with
  | case1 s inner after h _ ih =>
    rw [marks_of_hole h, List.flatMap_cons, ih, ← hole?_eq_some h]
  | case2 => rw [marks_nil, List.flatMap_nil]
  | case3 c rest h ih => rw [marks_cons h, List.flatMap_cons, ih]; rfl

theorem hole?_eq_none {c : Char} {rest : List Char} (h : c ≠ '\x7b') :
    hole? (c :: rest) = none := by
  unfold hole?
  split
  · simp_all
  · rfl

theorem marks_append : ∀ {front : List Char}, '\x7b' ∉ front → ∀ rest : List Char,
    marks (front ++ rest) = front.map .char ++ marks rest
  | [], _, _ => rfl
  | c :: front, h, rest => by
    rw [List.mem_cons, not_or] at h
    rw [List.cons_append, marks_cons (hole?_eq_none (Ne.symm h.1)), marks_append h.2,
      List.map_cons, List.cons_append]

/-! ## Segments -/

theorem flatMap_withLiteral {α : Type} (f : Segment → List α) (g : Char → List α)
    (hf : ∀ t, f (.literal t) = t.toList.flatMap g) (text : List Char) (segments : List Segment) :
    (withLiteral text segments).flatMap f = text.flatMap g ++ segments.flatMap f := by
  cases text with
  | nil => rfl
  | cons c rest => simp [withLiteral, hf]

/-- What is made of segments piece by piece is made of their marks. -/
theorem flatMap_join {α : Type} (f : Segment → List α) (g : Char → List α)
    (hf : ∀ t, f (.literal t) = t.toList.flatMap g) (marks : List Mark) :
    (join marks).flatMap f = marks.flatMap fun
      | .char c => g c
      | .hole inner => f (.placeholder (holeName inner)) := by
  have until_ : ∀ marks : List Mark,
      (untilHole marks).1.flatMap g ++ (untilHole marks).2.flatMap f = marks.flatMap fun
        | .char c => g c
        | .hole inner => f (.placeholder (holeName inner)) := by
    intro marks
    induction marks with
    | nil => rfl
    | cons m rest ih =>
      cases m with
      | char c => simp [untilHole, ← ih]
      | hole inner => simp [untilHole, flatMap_withLiteral f g hf, ← ih]
  simp only [join]
  rw [flatMap_withLiteral f g hf, until_]

theorem holes_ofString (raw : String) :
    (ofString raw).holes = (marks raw.toList).filterMap Mark.name? := by
  have hm : (marks raw.toList).filterMap Mark.name? =
      (marks raw.toList).flatMap fun m => m.name?.toList := by
    rw [List.filterMap_eq_flatMap_toList]
  rw [hm, holes, List.filterMap_eq_flatMap_toList]
  refine (flatMap_join _ (fun _ => []) (by simp) _).trans (List.flatMap_congr fun m _ => ?_)
  cases m <;> rfl

theorem mem_parameters {t : Template} {name : String} : name ∈ t.parameters ↔ name ∈ t.holes := by
  rw [parameters, List.mem_eraseDups]

theorem isParameterized_iff {t : Template} : t.isParameterized ↔ t.parameters ≠ [] := by
  simp [isParameterized]

theorem mem_holes {t : Template} {name : String} :
    name ∈ t.holes ↔ .placeholder name ∈ t.segments := by
  rw [holes, List.mem_filterMap]
  constructor
  · rintro ⟨s, hs, he⟩
    cases s with
    | literal text => cases he
    | placeholder other =>
      cases he
      exact hs
  · exact fun hm => ⟨_, hm, rfl⟩

theorem isParameterized_iff_holes {t : Template} : t.isParameterized ↔ t.holes ≠ [] := by
  rw [isParameterized_iff, ne_eq, ne_eq, not_iff_not, List.eq_nil_iff_forall_not_mem,
    List.eq_nil_iff_forall_not_mem]
  simp only [mem_parameters]

theorem holes_of_append {raw : String} {front rest : List Char} (hr : raw.toList = front ++ rest)
    (h : '\x7b' ∉ front) : (ofString raw).holes = (marks rest).filterMap Mark.name? := by
  rw [holes_ofString, hr, marks_append h, List.filterMap_append]
  simp [Mark.name?]

theorem parameters_of_notMem {raw : String} (h : '\x7b' ∉ raw.toList) :
    (ofString raw).parameters = [] := by
  rw [parameters, holes_of_append (List.append_nil _).symm h, marks_nil]
  rfl

/-- A placeholder at the end of a text, with no other brace in front, is its only parameter. -/
theorem parameters_of_lastHole {raw : String} (front inner : List Char) {rest : List Char}
    (hr : raw.toList = front ++ rest) (h : '\x7b' ∉ front) (hl : hole? rest = some (inner, [])) :
    (ofString raw).parameters = [holeName inner] := by
  rw [parameters, holes_of_append hr h, marks_of_hole hl, marks_nil]
  rfl

end PageAccessors.Template
