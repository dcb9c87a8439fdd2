import PageAccessors.Yaml.Scalar.Block
import PageAccessors.Yaml.Scalar.Plain
import PageAccessors.Yaml.Scalar.Quoted
import PageAccessors.Yaml.Tag

/-!
# Tokens of YAML texts

The tokens of a text tell its structure without regard to indentation: where lines go further in or
come back out, tokens say so. What turns out to be the key of a record has been read by then, so
tokens that might belong to a key wait until that is settled; a key has to end on its line.

The tokens of a text that cannot be read end without `streamEnd`. They are those that were settled
before the place where reading stops.
-/

namespace PageAccessors.Yaml

/-- How a text is written, as far as it matters to what it stands for. -/
inductive Style where
  | plain
  | literal
  | other
  deriving DecidableEq

inductive Token where
  | streamEnd
  | directive (d : Directive)
  | documentStart
  | documentEnd
  | blockListStart
  | blockRecordStart
  | blockEnd
  | flowListStart
  | flowListEnd
  | flowRecordStart
  | flowRecordEnd
  | blockEntry
  | flowEntry
  | key
  | value
  | alias (name : String)
  | anchor (name : String)
  | tag (tag : Tag)
  | scalar (style : Style) (text : String)
  deriving DecidableEq

/-- A token that may turn out to start a key: its number, its place, and whether nothing but a key
can stand there. -/
structure KeyStart where
  number : Nat
  required : Bool
  mark : Mark

/-- A text in the middle of being read. There is one possible key for each level of brackets, and
one outside of them. -/
structure Scanner where
  cursor : Cursor
  indent : Int
  indents : List Int
  key : Option KeyStart
  outerKeys : List (Option KeyStart)
  keyAllowed : Bool
  waiting : List Token
  settled : Nat

namespace Scanner

def ofText (text : List Char) : Scanner :=
  ⟨.ofText text, -1, [], none, [], true, [], 0⟩

/-- Whether brackets are open. -/
def flow (s : Scanner) : Bool := !s.outerKeys.isEmpty

def emit (s : Scanner) (t : Token) : Scanner := { s with waiting := s.waiting ++ [t] }

/-- Puts a token in front of the one with a number. -/
def emitBefore (s : Scanner) (number : Nat) (t : Token) : Scanner :=
  let (before, behind) := s.waiting.splitAt (number - s.settled)
  { s with waiting := before ++ t :: behind }

def moveTo (s : Scanner) (cursor : Cursor) : Scanner := { s with cursor := cursor }

def skip (s : Scanner) (n : Nat) : Scanner := s.moveTo (s.cursor.skip n)

/-! ## Keys and indentation -/

/-- A possible key is none any more behind its line or 1024 characters. -/
def outlived (m : Mark) (k : KeyStart) : Bool :=
  k.mark.line < m.line || k.mark.index + 1024 < m.index

def dropOutlived (m : Mark) : Option KeyStart → Option (Option KeyStart)
  | none => some none
  | some k => if outlived m k then (if k.required then none else some none) else some (some k)

/-- Gives up the keys that cannot be keys any more. -/
def dropKeys (s : Scanner) : Option Scanner := do
  let key ← dropOutlived s.cursor.mark s.key
  let outerKeys ← s.outerKeys.mapM (dropOutlived s.cursor.mark)
  some { s with key := key, outerKeys := outerKeys }

/-- Gives up the key of this level. -/
def removeKey (s : Scanner) : Option Scanner :=
  match s.key with
  | some k => if k.required then none else some { s with key := none }
  | none => some s

/-- Notes that the next token may start a key. -/
def saveKey (s : Scanner) : Option Scanner :=
  if s.keyAllowed then do
    let s ← s.removeKey
    let required := !s.flow && s.indent = s.cursor.column
    some { s with key := some ⟨s.settled + s.waiting.length, required, s.cursor.mark⟩ }
  else some s

/-- Whether the first waiting token may start a key. -/
def keyWaits (s : Scanner) : Bool :=
  (s.key :: s.outerKeys).any fun k => k.any (·.number = s.settled)

/-- Goes in to a column; outside of brackets this starts a list or record. -/
def goIn (s : Scanner) (column : Nat) (start : Token) (number : Option Nat) : Scanner :=
  if s.flow || s.indent ≥ column then s
  else
    let s := { s with indents := s.indent :: s.indents, indent := column }
    match number with
    | some n => s.emitBefore n start
    | none => s.emit start

def unwind (column : Int) : Int → List Int → Int × List Int × Nat
  | indent, [] => (indent, [], 0)
  | indent, outer :: rest =>
    if indent > column then
      let (indent, rest, count) := unwind column outer rest
      (indent, rest, count + 1)
    else (indent, outer :: rest, 0)

/-- Comes back out to a column. -/
def comeOut (s : Scanner) (column : Int) : Scanner :=
  if s.flow then s
  else
    let (indent, indents, count) := unwind column s.indent s.indents
    { s with
      indent := indent
      indents := indents
      waiting := s.waiting ++ List.replicate count .blockEnd }

/-! ## Reading a token -/

/-- Goes past blanks, comments and line breaks. A tab is a blank only where no key may start. -/
def pastSpace : Nat → Scanner → Scanner
  | 0, s => s
  | fuel + 1, s =>
    let s := if s.cursor.column = 0 && s.cursor.rest.head? = some byteOrderMark then s.skip 1 else s
    let isGap (c : Char) : Bool := c = ' ' || (c = '\t' && (s.flow || !s.keyAllowed))
    let s := s.moveTo (s.cursor.skipWhile isGap)
    let s :=
      if s.cursor.rest.head? = some '#' then s.moveTo (s.cursor.skipWhile (!isBreak ·)) else s
    match s.cursor.rest with
    | c :: _ =>
      if isBreak c then pastSpace fuel { s.skip 1 with keyAllowed := s.keyAllowed || !s.flow }
      else s
    | [] => s

def readEnd (s : Scanner) : Option Scanner := do
  let m := s.cursor.mark
  let s := if m.column = 0 then s else s.moveTo ⟨[], ⟨m.index, m.line + 1, 0⟩⟩
  let s ← (s.comeOut (-1)).removeKey
  some ({ s with keyAllowed := false }.emit .streamEnd)

def readDirective (s : Scanner) : Option Scanner := do
  let s ← (s.comeOut (-1)).removeKey
  let (d, cursor) ← Directive.read s.cursor
  some ({ s with keyAllowed := false, cursor := cursor }.emit (.directive d))

def readDocumentMark (s : Scanner) (t : Token) : Option Scanner := do
  let s ← (s.comeOut (-1)).removeKey
  some ({ s with keyAllowed := false }.skip 3 |>.emit t)

def readFlowStart (s : Scanner) (t : Token) : Option Scanner := do
  let s ← s.saveKey
  let s := { s with outerKeys := s.key :: s.outerKeys, key := none, keyAllowed := true }
  some (s.skip 1 |>.emit t)

def readFlowEnd (s : Scanner) (t : Token) : Option Scanner := do
  let s ← s.removeKey
  let s := match s.outerKeys with
    | [] => s
    | key :: outerKeys => { s with key := key, outerKeys := outerKeys }
  some ({ s with keyAllowed := false }.skip 1 |>.emit t)

def readFlowEntry (s : Scanner) : Option Scanner := do
  let s ← s.removeKey
  some ({ s with keyAllowed := true }.skip 1 |>.emit .flowEntry)

def readBlockEntry (s : Scanner) : Option Scanner := do
  if !s.flow && !s.keyAllowed then none
  let s ← (s.goIn s.cursor.column .blockListStart none).removeKey
  some ({ s with keyAllowed := true }.skip 1 |>.emit .blockEntry)

def readKey (s : Scanner) : Option Scanner := do
  if !s.flow && !s.keyAllowed then none
  let s ← (s.goIn s.cursor.column .blockRecordStart none).removeKey
  some ({ s with keyAllowed := !s.flow }.skip 1 |>.emit .key)

/-- A colon makes what may be a key into one, or belongs to a key that was marked as such. -/
def readValue (s : Scanner) : Option Scanner := do
  let s ← match s.key with
    | some k =>
      let s := s.emitBefore k.number .key
      let s := s.goIn k.mark.column .blockRecordStart (some k.number)
      some { s with key := none, keyAllowed := false }
    | none => do
      if !s.flow && !s.keyAllowed then none
      let s := s.goIn s.cursor.column .blockRecordStart none
      some { s with keyAllowed := !s.flow }
  some (s.skip 1 |>.emit .value)

def readMark (s : Scanner) (read : Cursor → Option (Token × Cursor)) : Option Scanner := do
  let s ← s.saveKey
  let (t, cursor) ← read s.cursor
  some ({ s with keyAllowed := false, cursor := cursor }.emit t)

def readBlockText (s : Scanner) (literal : Bool) : Option Scanner := do
  let s ← s.removeKey
  let (text, cursor) ← readBlock literal s.indent s.cursor
  some ({ s with keyAllowed := true, cursor := cursor }.emit
    (.scalar (if literal then .literal else .other) (String.ofList text)))

def readQuotedText (s : Scanner) (double : Bool) : Option Scanner :=
  s.readMark fun c => do
    let (text, c) ← readQuoted double c
    some (.scalar .other (String.ofList text), c)

def readPlainText (s : Scanner) : Option Scanner := do
  let s ← s.saveKey
  let plain ← PlainText.read s.flow (s.indent + 1) s.cursor
  some ({ s with keyAllowed := plain.broken, cursor := plain.cursor }.emit
    (.scalar .plain (String.ofList plain.text)))

/-- Whether a text without quotes may start here. -/
def startsPlain (flow : Bool) (c : Char) (rest : List Char) : Bool :=
  !(isSpace c || isIndicator c) ||
    (c = '-' && !(rest.head?.any isBlank)) ||
    (!flow && (c = '?' || c = ':') && !spaceFollows rest)

/-- Reads one token and what it implies. -/
def readToken (s : Scanner) : Option Scanner := do
  let s ← (pastSpace (s.cursor.rest.length + 1) s).dropKeys
  let s := s.comeOut s.cursor.column
  match s.cursor.rest with
  | [] => s.readEnd
  | c :: rest =>
    let atLineStart := s.cursor.column = 0
    if atLineStart && c = '%' then s.readDirective
    else if atLineStart && startsWithMark '-' (c :: rest) then s.readDocumentMark .documentStart
    else if atLineStart && startsWithMark '.' (c :: rest) then s.readDocumentMark .documentEnd
    else if c = '[' then s.readFlowStart .flowListStart
    else if c = '\x7b' then s.readFlowStart .flowRecordStart
    else if c = ']' then s.readFlowEnd .flowListEnd
    else if c = '\x7d' then s.readFlowEnd .flowRecordEnd
    else if c = ',' then s.readFlowEntry
    else if c = '-' && spaceFollows rest then s.readBlockEntry
    else if c = '?' && (s.flow || spaceFollows rest) then s.readKey
    else if c = ':' && (s.flow || spaceFollows rest) then s.readValue
    else if c = '*' then s.readMark fun c => (readAnchor c).map fun (n, c) => (.alias n, c)
    else if c = '&' then s.readMark fun c => (readAnchor c).map fun (n, c) => (.anchor n, c)
    else if c = '!' then s.readMark fun c => (Tag.read s.flow c).map fun (t, c) => (.tag t, c)
    else if c = '|' && !s.flow then s.readBlockText true
    else if c = '>' && !s.flow then s.readBlockText false
    else if c = '\'' then s.readQuotedText false
    else if c = '"' then s.readQuotedText true
    else if startsPlain s.flow c rest then s.readPlainText
    else none

/-- The tokens in the order in which they are settled. -/
def tokens : Nat → Scanner → List Token
  | 0, _ => []
  | fuel + 1, s =>
    match s.waiting with
    | [] => ((s.readToken).map (tokens fuel)).getD []
    | t :: waiting =>
      match s.dropKeys with
      | none => []
      | some s =>
        if s.keyWaits then ((s.readToken).map (tokens fuel)).getD []
        else if t = .streamEnd then [t]
        else t :: tokens fuel { s with waiting := waiting, settled := s.settled + 1 }

end Scanner

/-- The tokens of a text. -/
def tokens (text : String) : List Token :=
  let chars := text.toList
  if chars.all isAllowed then
    let chars := uniformBreaks chars
    Scanner.tokens (8 * (chars.length + 2)) (.ofText chars)
  else []

end PageAccessors.Yaml
