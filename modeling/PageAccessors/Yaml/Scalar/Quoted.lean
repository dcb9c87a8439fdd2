import PageAccessors.Yaml.Scalar.Gap

/-!
# Texts in quotes

In single quotes only the quote itself is special, and is written twice. In double quotes a
backslash starts an escape, and a line break behind it does not count.
-/

namespace PageAccessors.Yaml

/-- The character that a letter behind a backslash stands for. -/
def escapedChar? : Char → Option Char
  | '0' => some '\x00'
  | 'a' => some '\x07'
  | 'b' => some '\x08'
  | 't' => some '\t'
  | '\t' => some '\t'
  | 'n' => some '\n'
  | 'v' => some '\x0b'
  | 'f' => some '\x0c'
  | 'r' => some '\r'
  | 'e' => some '\x1b'
  | ' ' => some ' '
  | '"' => some '"'
  | '/' => some '/'
  | '\\' => some '\\'
  | 'N' => some '\u0085'
  | '_' => some '\u00a0'
  | 'L' => some '\u2028'
  | 'P' => some '\u2029'
  | _ => none

/-- How many digits of a character's number follow a letter behind a backslash. -/
def digitCount? : Char → Option Nat
  | 'x' => some 2
  | 'u' => some 4
  | 'U' => some 8
  | _ => none

/-- The character with a number. -/
def charOfNumber? (n : Nat) : Option Char :=
  if n.isValidChar then some (Char.ofNat n) else none

/-- The character of an escape, behind its backslash, and how many characters it takes. -/
def escape? : List Char → Option (Char × Nat)
  | [] => none
  | c :: rest =>
    match escapedChar? c with
    | some e => some (e, 1)
    | none => do
      let count ← digitCount? c
      let digits ← (rest.take count).mapM hexDigit?
      if digits.length < count then none
      let e ← charOfNumber? (digits.foldl (16 * · + ·) 0)
      some (e, count + 1)

/-- How a run of characters in quotes ends. -/
inductive RunEnd where
  | quote
  | gap
  | escapedBreak
  deriving DecidableEq

def singleRun : List Char → Mark → List Char × RunEnd × Cursor
  | [], mark => ([], .gap, ⟨[], mark⟩)
  | '\'' :: '\'' :: rest, mark =>
    let (run, how, cursor) := singleRun rest ((mark.after '\'').after '\'')
    ('\'' :: run, how, cursor)
  | c :: rest, mark =>
    if c = '\'' then ([], .quote, ⟨rest, mark.after c⟩)
    else if isSpace c then ([], .gap, ⟨c :: rest, mark⟩)
    else
      let (run, how, cursor) := singleRun rest (mark.after c)
      (c :: run, how, cursor)

def doubleRun : Nat → Cursor → Option (List Char × RunEnd × Cursor)
  | fuel + 1, ⟨c :: rest, mark⟩ =>
    if c = '"' then some ([], .quote, ⟨rest, mark.after c⟩)
    else if isSpace c then some ([], .gap, ⟨c :: rest, mark⟩)
    else if c = '\\' then
      match rest with
      | b :: more =>
        if isBreak b then some ([], .escapedBreak, ⟨more, (mark.after c).after b⟩)
        else do
          let (e, count) ← escape? rest
          let (run, how, cursor) ← doubleRun fuel (Cursor.skip (count + 1) ⟨c :: rest, mark⟩)
          some (e :: run, how, cursor)
      | [] => none
    else do
      let (run, how, cursor) ← doubleRun fuel ⟨rest, mark.after c⟩
      some (c :: run, how, cursor)
  | _, c => some ([], .gap, c)

def quotedRuns (double : Bool) : Nat → Cursor → Option (List Char × Cursor)
  | 0, _ => none
  | fuel + 1, c => do
    if c.atDocumentMark || c.rest.isEmpty then failure
    let (run, how, c) ←
      if double then doubleRun (c.rest.length + 1) c else some (singleRun c.rest c.mark)
    match how with
    | .quote => return (run, c)
    | .escapedBreak =>
      if c.rest.head? = some '"' then return (run, c.skip 1)
      let (g, c) ← Gap.escaped.read 0 c
      let (more, c) ← quotedRuns double fuel c
      return (run ++ g.text ++ more, c)
    | .gap =>
      let (g, c) ← Gap.none.read 0 c
      let (more, c) ← quotedRuns double fuel c
      return (run ++ g.text ++ more, c)

/-- Reads a text in quotes, at its opening quote. -/
def readQuoted (double : Bool) (c : Cursor) : Option (List Char × Cursor) :=
  quotedRuns double (c.rest.length + 1) (c.skip 1)

end PageAccessors.Yaml
