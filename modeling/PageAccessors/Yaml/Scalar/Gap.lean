import PageAccessors.Yaml.Cursor

/-!
# Gaps between words

Between two words of a text stand blanks, or line breaks with blanks around them. Blanks are kept,
and blanks around a line break are dropped. A single line feed becomes a blank, and of several the
first is dropped.
-/

namespace PageAccessors.Yaml

/-- Blanks, or line breaks of which the first one is told apart. -/
structure Gap where
  blanks : List Char
  broken : Bool
  first : Option Char
  more : List Char

namespace Gap

def none : Gap := ⟨[], false, .none, []⟩

/-- A gap whose first line break does not count. -/
def escaped : Gap := ⟨[], true, .none, []⟩

/-- What line breaks amount to. -/
def fold (first : Option Char) (more : List Char) : List Char :=
  if first = some '\n' then (if more.isEmpty then [' '] else more) else first.toList ++ more

def text (g : Gap) : List Char := if g.broken then fold g.first g.more else g.blanks

/-- The gap with a blank behind it. -/
def blank (g : Gap) (c : Char) : Gap := if g.broken then g else { g with blanks := g.blanks ++ [c] }

/-- The gap with a line break behind it. -/
def lineBreak (g : Gap) (c : Char) : Gap :=
  if g.broken then { g with more := g.more ++ [c] } else ⟨[], true, some c, []⟩

def readList (indent : Int) (g : Gap) : List Char → Mark → Option (Gap × Cursor)
  | [], mark => some (g, ⟨[], mark⟩)
  | c :: rest, mark =>
    if isBlank c then
      if g.broken && c = '\t' && mark.column < indent then .none
      else readList indent (g.blank c) rest (mark.after c)
    else if isBreak c then readList indent (g.lineBreak c) rest (mark.after c)
    else some (g, ⟨c :: rest, mark⟩)

/-- Reads on with a gap; a tab may not stand in for the indentation of a line. -/
def read (indent : Int) (g : Gap) (c : Cursor) : Option (Gap × Cursor) :=
  readList indent g c.rest c.mark

end Gap

end PageAccessors.Yaml
