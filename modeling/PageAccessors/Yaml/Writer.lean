import PageAccessors.Yaml.Scalar.Value

/-!
# Writing YAML

A record of simple values, a line for each field. A text is written without quotes if it reads back
as the same text; in single quotes if it could be taken for something else; in double quotes, with
escapes, if it holds characters that cannot stand for themselves; and as a block of its lines if it
has several.
-/

namespace PageAccessors.Yaml

/-- A value that is a field's whole value. -/
inductive Simple where
  | text (s : String)
  | bool (b : Bool)
  | natural (n : Nat)
  deriving DecidableEq

/-! ## How a text can be written -/

/-- A character that can stand for itself outside of double quotes. -/
def isPrintable (c : Char) : Bool :=
  c = '\n' || ('\x20' ≤ c && c ≤ '\x7e') || ('\u00a0' ≤ c && c ≤ '\ufffd' && c ≠ byteOrderMark) ||
    0x10000 ≤ c.toNat

/-- A character between those before and behind it. -/
structure Neighbours where
  before : Option Char
  char : Char
  behind : Option Char

/-- The characters of a text with their neighbours. -/
def neighbours (before : Option Char) : List Char → List Neighbours
  | [] => []
  | c :: rest => ⟨before, c, rest.head?⟩ :: neighbours (some c) rest

/-- Whether there is nothing, or a blank or line break. -/
def isOpen (c : Option Char) : Bool := c.all isSpace

/-- A character that would be taken for something else where it stands. -/
def Neighbours.misleads (n : Neighbours) : Bool :=
  match n.before with
  | none =>
    "#,[]\x7b\x7d&*!|>'\"%@\x60".toList.contains n.char ||
      ("?:-".toList.contains n.char && isOpen n.behind)
  | some before => (n.char = ':' && isOpen n.behind) || (n.char = '#' && isSpace before)

def startsLikeMark : List Char → Bool
  | a :: b :: c :: _ => (a = '-' || a = '.') && b = a && c = a
  | _ => false

/-- A blank in front of a line break, which a line cannot keep. -/
def Neighbours.blankBeforeBreak (n : Neighbours) : Bool :=
  n.char = ' ' && n.behind.any isBreak

def Neighbours.blankAfterBreak (n : Neighbours) : Bool :=
  n.char = ' ' && n.before.any isBreak

/-- Whether a text can be written in double quotes only. -/
def needsEscapes (s : List Char) : Bool :=
  s.any (!isPrintable ·) || (neighbours none s).any Neighbours.blankBeforeBreak

def plainAllowed (s : List Char) : Bool :=
  !needsEscapes s && !s.any isBreak && s.head? != some ' ' && s.getLast? != some ' ' &&
    !startsLikeMark s && !(neighbours none s).any Neighbours.misleads

def singleAllowed (s : List Char) : Bool :=
  !needsEscapes s && !(neighbours none s).any Neighbours.blankAfterBreak

def blockAllowed (s : List Char) : Bool :=
  !s.isEmpty && !needsEscapes s && s.getLast? != some ' '

/-- Whether a text without quotes would stand for something else. -/
def isAmbiguous (s : String) : Bool :=
  match plainValue s with
  | .ok (.text _) => zeroPadded s.toList
  | _ => true

/-! ## Writing texts -/

def hexUpper (n : Nat) : Char := if n < 10 then Char.ofNat (48 + n) else Char.ofNat (55 + n)

def hexDigits (n width : Nat) : List Char :=
  (List.range width).reverse.map fun i => hexUpper ((n >>> (4 * i)) % 16)

def escapeOf (c : Char) : List Char :=
  let letters := ['0', 'a', 'b', 't', 'n', 'v', 'f', 'r', 'e', '"', '\\', 'N', '_', 'L', 'P']
  match letters.find? fun l => escapedChar? l = some c with
  | some l => [l]
  | none =>
    if c.toNat ≤ 0xff then 'x' :: hexDigits c.toNat 2
    else if c.toNat ≤ 0xffff then 'u' :: hexDigits c.toNat 4
    else 'U' :: hexDigits c.toNat 8

def doubleQuoted (s : List Char) : List Char :=
  let char (c : Char) : List Char :=
    if !isPrintable c || isBreak c || c = '"' || c = '\\' then '\\' :: escapeOf c else [c]
  '"' :: s.flatMap char ++ ['"']

/-- The characters of lines, each of which is indented. -/
def indented (write : Char → List Char) (afterBreak : Bool) : List Char → List Char
  | [] => []
  | c :: rest =>
    if isBreak c then c :: indented write true rest
    else (if afterBreak then [' ', ' '] else []) ++ write c ++ indented write false rest

def singleQuoted (s : List Char) : List Char :=
  let char (c : Char) : List Char := if c = '\'' then ['\'', '\''] else [c]
  let closing := if s.getLast?.any isBreak then [' ', ' ', '\''] else ['\'']
  '\'' :: indented char false s ++ closing

/-- The marks behind a bar: the depth, where it could be mistaken, and what becomes of the last line
breaks. -/
def blockMarks (s : List Char) : List Char :=
  let depth := if s.head?.any isSpace then ['2'] else []
  let chomp := match s.reverse with
    | [] => ['-']
    | last :: before =>
      if !isBreak last then ['-']
      else match before with
        | [] => ['+']
        | c :: _ => if isBreak c then ['+'] else []
  depth ++ chomp

def block (s : List Char) : List Char :=
  '|' :: blockMarks s ++ '\n' :: indented (fun c => [c]) true s

def textChars (s : String) : List Char :=
  let chars := s.toList
  if chars.contains '\n' then
    if blockAllowed chars then block chars else doubleQuoted chars
  else if !isAmbiguous s && plainAllowed chars then chars
  else if singleAllowed chars then singleQuoted chars
  else doubleQuoted chars

/-- The written form of a value. -/
def Simple.chars : Simple → List Char
  | .text s => textChars s
  | .bool b => (toString b).toList
  | .natural n => (toString n).toList

/-- A field with the end of its line. -/
def fieldChars (key : String) (value : Simple) : List Char :=
  let chars := key.toList ++ ':' :: ' ' :: value.chars
  let ended := match value with
    | .text s => s.toList.contains '\n' && blockAllowed s.toList && s.toList.getLast?.any isBreak
    | _ => false
  if ended then chars else chars ++ ['\n']

/-- The text of a record with some fields. -/
def render (fields : List (String × Simple)) : String :=
  String.ofList (fields.flatMap fun (key, value) => fieldChars key value)

end PageAccessors.Yaml
