import PageAccessors.Yaml.Character

/-!
# Places in a YAML text

A cursor is what is left of a text together with the place it starts at. Reading moves it on
character by character, and a line break takes it to the next line.
-/

namespace PageAccessors.Yaml

/-- How many characters, how many lines, and how many characters of the line come before. -/
structure Mark where
  index : Nat
  line : Nat
  column : Nat
  deriving DecidableEq

/-- The place behind a character. -/
def Mark.after (m : Mark) (c : Char) : Mark :=
  if isBreak c then ⟨m.index + 1, m.line + 1, 0⟩ else ⟨m.index + 1, m.line, m.column + 1⟩

structure Cursor where
  rest : List Char
  mark : Mark

namespace Cursor

def ofText (text : List Char) : Cursor := ⟨text, ⟨0, 0, 0⟩⟩

def column (c : Cursor) : Nat := c.mark.column

/-- The cursor behind so many characters. -/
def skip : Nat → Cursor → Cursor
  | n + 1, ⟨c :: rest, mark⟩ => skip n ⟨rest, mark.after c⟩
  | _, cursor => cursor

def spanList (p : Char → Bool) : List Char → Mark → List Char × Cursor
  | [], mark => ([], ⟨[], mark⟩)
  | c :: rest, mark =>
    if p c then
      let (taken, cursor) := spanList p rest (mark.after c)
      (c :: taken, cursor)
    else ([], ⟨c :: rest, mark⟩)

/-- The characters up to the first one without a property, and the cursor before it. -/
def span (p : Char → Bool) (c : Cursor) : List Char × Cursor := spanList p c.rest c.mark

/-- The cursor before the first character without a property. -/
def skipWhile (p : Char → Bool) (c : Cursor) : Cursor := (c.span p).2

/-- Whether a mark that separates documents stands here. -/
def atDocumentMark (c : Cursor) : Bool :=
  c.column = 0 && (startsWithMark '-' c.rest || startsWithMark '.' c.rest)

/-- The cursor behind blanks, a comment and a line break; none if anything else stands there. -/
def finishLine? (c : Cursor) : Option Cursor :=
  let c := c.skipWhile isBlank
  let c := if c.rest.head? = some '#' then c.skipWhile (!isBreak ·) else c
  if lineEnds c.rest then some (c.skip 1) else none

end Cursor

end PageAccessors.Yaml
