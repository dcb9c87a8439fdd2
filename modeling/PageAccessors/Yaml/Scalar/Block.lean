import PageAccessors.Yaml.Scalar.Gap

/-!
# Texts by indentation

A text behind a bar or an angle is made up of the indented lines below it. Behind a bar its line
breaks are kept, and behind an angle they are folded, except around lines that start with a blank.
Its header may say how far the lines are indented and what becomes of the breaks at the end.
-/

namespace PageAccessors.Yaml

/-- What becomes of the line breaks at the end of a text: none, one or all of them are kept. -/
inductive Chomp where
  | strip
  | clip
  | keep
  deriving DecidableEq

def chomp? : Char → Option Chomp
  | '-' => some .strip
  | '+' => some .keep
  | _ => none

/-- The marks behind a bar or angle: what becomes of the last breaks, the depth of the lines, and
how many characters the marks take. -/
def blockHeader : List Char → Option (Chomp × Option Nat × Nat)
  | a :: rest =>
    match chomp? a with
    | some chomp =>
      match rest with
      | d :: _ =>
        if d = '0' then none
        else if d.isDigit then some (chomp, some (d.toNat - '0'.toNat), 2)
        else some (chomp, none, 1)
      | [] => some (chomp, none, 1)
    | none =>
      if a = '0' then none
      else if a.isDigit then
        match rest.head?.bind chomp? with
        | some chomp => some (chomp, some (a.toNat - '0'.toNat), 2)
        | none => some (.clip, some (a.toNat - '0'.toNat), 1)
      else some (.clip, none, 0)
  | [] => some (.clip, none, 0)

/-- The line breaks before a line, and the greatest depth on the way to it; no tab may stand in
for the indentation. -/
def leadingBreaks (indent : Option Nat) (deepest : Nat) (breaks : List Char) :
    List Char → Mark → Option (List Char × Nat × Cursor)
  | [], mark => some (breaks, max deepest mark.column, ⟨[], mark⟩)
  | c :: rest, mark =>
    let shallow := match indent with
      | none => true
      | some depth => decide (mark.column < depth)
    if c = ' ' && shallow then leadingBreaks indent deepest breaks rest (mark.after c)
    else
      let deepest := max deepest mark.column
      if c = '\t' && shallow then none
      else if isBreak c then leadingBreaks indent deepest (breaks ++ [c]) rest (mark.after c)
      else some (breaks, deepest, ⟨c :: rest, mark⟩)

/-- The lines of a text, the break behind the last one and the breaks behind that. -/
structure BlockLines where
  text : List Char
  first : Option Char
  more : List Char
  cursor : Cursor

def blockLines (literal : Bool) (depth : Nat) : Nat → Bool → Option Char → List Char →
    Cursor → Option BlockLines
  | 0, _, _, _, _ => none
  | fuel + 1, blankBefore, first, more, c =>
    match c.rest with
    | [] => some ⟨[], first, more, c⟩
    | a :: _ =>
      if c.column ≠ depth then some ⟨[], first, more, c⟩
      else do
        let breaks :=
          if !literal && first = some '\n' && !blankBefore && !isBlank a then
            (if more.isEmpty then [' '] else more)
          else first.toList ++ more
        let (line, c) := c.span (!isBreak ·)
        let first := c.rest.head?
        let c := c.skip 1
        let (more, _, c) ← leadingBreaks (some depth) 0 [] c.rest c.mark
        let below ← blockLines literal depth fuel (isBlank a) first more c
        some { below with text := breaks ++ line ++ below.text }

/-- Reads a text by indentation, at its bar or angle, inside something of the given depth. -/
def readBlock (literal : Bool) (outer : Int) (c : Cursor) : Option (List Char × Cursor) := do
  let c := c.skip 1
  let (chomp, increment, count) ← blockHeader c.rest
  let c ← (c.skip count).finishLine?
  let known := increment.map fun n => if outer ≥ 0 then outer.toNat + n else n
  let (breaks, deepest, c) ← leadingBreaks known 0 [] c.rest c.mark
  let depth := known.getD (max deepest (max (outer + 1).toNat 1))
  let lines ← blockLines literal depth (c.rest.length + 1) false none breaks c
  let tail := match chomp with
    | .strip => []
    | .clip => lines.first.toList
    | .keep => lines.first.toList ++ lines.more
  return (lines.text ++ tail, lines.cursor)

end PageAccessors.Yaml
