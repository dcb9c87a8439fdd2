import PageAccessors.Yaml.Scalar.Gap

/-!
# Texts without quotes

A text without quotes ends before a colon with a space behind it, before a comment, before a mark
between documents, and where a line is not indented enough; in brackets it also ends before the
characters that separate what is in them.
-/

namespace PageAccessors.Yaml

/-- A text without quotes, whether a line break was read behind it, and what follows. -/
structure PlainText where
  text : List Char
  broken : Bool
  cursor : Cursor

/-- What may not follow a colon in brackets. -/
def colonRefused : List Char → Bool
  | [] => false
  | c :: _ => isFlowIndicator c || c = '?'

def plainWord (flow : Bool) : List Char → Mark → Option (List Char × Cursor)
  | [], mark => some ([], ⟨[], mark⟩)
  | c :: rest, mark =>
    if isSpace c then some ([], ⟨c :: rest, mark⟩)
    else if flow && c = ':' && colonRefused rest then none
    else if (c = ':' && spaceFollows rest) || (flow && isFlowIndicator c) then
      some ([], ⟨c :: rest, mark⟩)
    else do
      let (word, cursor) ← plainWord flow rest (mark.after c)
      some (c :: word, cursor)

/-- The words of a text behind a gap. -/
def plainWords (flow : Bool) (indent : Int) : Nat → Gap → Cursor → Option PlainText
  | 0, g, c => some ⟨[], g.broken, c⟩
  | fuel + 1, g, c => do
    if c.atDocumentMark || c.rest.head? = some '#' then return ⟨[], g.broken, c⟩
    let (word, c) ← plainWord flow c.rest c.mark
    if word.isEmpty then return ⟨[], g.broken, c⟩
    let text := g.text ++ word
    if !spaceFollows c.rest || c.rest.isEmpty then return ⟨text, false, c⟩
    let (g, c) ← Gap.none.read indent c
    if !flow && c.column < indent then return ⟨text, g.broken, c⟩
    let more ← plainWords flow indent fuel g c
    return ⟨text ++ more.text, more.broken, more.cursor⟩

/-- Reads a text without quotes. -/
def PlainText.read (flow : Bool) (indent : Int) (c : Cursor) : Option PlainText :=
  plainWords flow indent (c.rest.length + 1) Gap.none c

end PageAccessors.Yaml
