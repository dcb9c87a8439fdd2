import PageAccessors.Text.Blank

/-!
# Templates

A locator's text may hold placeholders: two opening braces, a name, and the next two closing ones,
all on one line. Scanning a text gives its segments, literal text and placeholders; the blanks
around a placeholder's name do not count. Braces that open and never close on their line are
literal text.

The scanner first marks every character and placeholder (`marks`), then joins neighbouring
characters into literals, so that no literal is empty or stands next to another.
-/

namespace PageAccessors

/-- A piece of a template: literal text, or the name of a parameter. -/
inductive Segment where
  | literal (text : String)
  | placeholder (name : String)
  deriving DecidableEq

namespace Template

/-- The text up to the first two closing braces of the line, and what follows them. -/
def untilClose? : List Char → Option (List Char × List Char)
  | [] => none
  | c :: rest =>
    if c = '\n' then none
    else if c = '\x7d' ∧ rest.head? = some '\x7d' then some ([], rest.tail)
    else (untilClose? rest).map fun (inner, after) => (c :: inner, after)

theorem untilClose?_length {s inner after : List Char} (h : untilClose? s = some (inner, after)) :
    after.length < s.length := by
  induction s generalizing inner after with
  | nil => simp [untilClose?] at h
  | cons c rest ih =>
    unfold untilClose? at h
    split at h
    · simp at h
    · split at h
      · simp only [Option.some.injEq, Prod.mk.injEq] at h
        simp only [← h.2, List.length_tail, List.length_cons]
        omega
      · simp only [Option.map_eq_some_iff, Prod.mk.injEq, Prod.exists] at h
        obtain ⟨i, a, hr, -, rfl⟩ := h
        have := ih hr
        simp only [List.length_cons]
        omega

/-- What the scanner sees at a place: a character that is literal text, or a placeholder with the
text between its braces. -/
inductive Mark where
  | char (c : Char)
  | hole (inner : List Char)
  deriving DecidableEq

/-- The placeholder that a text starts with, if it starts with one, and what follows it. -/
def hole? : List Char → Option (List Char × List Char)
  | '\x7b' :: '\x7b' :: rest => untilClose? rest
  | _ => none

theorem hole?_length {s inner after : List Char} (h : hole? s = some (inner, after)) :
    after.length < s.length := by
  unfold hole? at h
  split at h
  · have := untilClose?_length h
    simp only [List.length_cons]
    omega
  · simp at h

/-- The marks of a text, from the left; a placeholder is taken wherever one starts. -/
def marks (s : List Char) : List Mark :=
  match h : hole? s with
  | some (inner, after) =>
    have := hole?_length h
    .hole inner :: marks after
  | none =>
    match s with
    | [] => []
    | c :: rest => .char c :: marks rest
termination_by s.length

/-- The name of the parameter that a placeholder stands for. -/
def holeName (inner : List Char) : String := String.ofList (Text.trim inner)

/-- Puts literal text in front of segments, if there is any. -/
def withLiteral : List Char → List Segment → List Segment
  | [], segments => segments
  | c :: rest, segments => .literal (String.ofList (c :: rest)) :: segments

/-- The characters up to the first placeholder, and the segments from there on. -/
def untilHole : List Mark → List Char × List Segment
  | [] => ([], [])
  | .char c :: rest =>
    let (text, segments) := untilHole rest
    (c :: text, segments)
  | .hole inner :: rest =>
    let (text, segments) := untilHole rest
    ([], .placeholder (holeName inner) :: withLiteral text segments)

/-- The segments that the marks of a text make up. -/
def join (marks : List Mark) : List Segment :=
  let (text, segments) := untilHole marks
  withLiteral text segments

end Template

/-- A locator's text and its segments. -/
structure Template where
  raw : String
  segments : List Segment
  deriving DecidableEq

namespace Template

def ofString (raw : String) : Template := ⟨raw, join (marks raw.toList)⟩

/-- The names of the placeholders, in the order of the segments. -/
def holes (t : Template) : List String :=
  t.segments.filterMap fun
    | .literal _ => none
    | .placeholder name => some name

/-- The distinct names of the placeholders, in the order of their first appearance. -/
def parameters (t : Template) : List String := t.holes.eraseDups

def isParameterized (t : Template) : Bool := !t.parameters.isEmpty

end Template

end PageAccessors
