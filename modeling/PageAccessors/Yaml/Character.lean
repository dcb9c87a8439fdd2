/-!
# Characters of YAML texts

Which characters a text may hold, and the classes that decide where its tokens end. Line breaks are
made uniform before anything else is read: the usual ones become line feeds, and only the line and
paragraph separators are kept.
-/

namespace PageAccessors.Yaml

/-- A character that a text may hold. -/
def isAllowed (c : Char) : Bool :=
  c = '\t' || c = '\n' || c = '\r' || ('\x20' ≤ c && c ≤ '\x7e') || c = '\u0085' ||
    ('\u00a0' ≤ c && c ≤ '\ufffd') || 0x10000 ≤ c.toNat

/-- The mark that may stand in front of a text or of one of its lines. -/
def byteOrderMark : Char := '\ufeff'

/-- A text with its line breaks made uniform. -/
def uniformBreaks : List Char → List Char
  | '\r' :: '\n' :: rest => '\n' :: uniformBreaks rest
  | '\r' :: rest => '\n' :: uniformBreaks rest
  | '\u0085' :: rest => '\n' :: uniformBreaks rest
  | c :: rest => c :: uniformBreaks rest
  | [] => []

def isBreak (c : Char) : Bool := c = '\n' || c = '\u2028' || c = '\u2029'

def isBlank (c : Char) : Bool := c = ' ' || c = '\t'

def isSpace (c : Char) : Bool := isBlank c || isBreak c

/-- Whether a text ends here or goes on with a blank or a line break. -/
def spaceFollows : List Char → Bool
  | [] => true
  | c :: _ => isSpace c

/-- Whether a text ends here or goes on with a line break. -/
def lineEnds : List Char → Bool
  | [] => true
  | c :: _ => isBreak c

/-- A character of an anchor's name, of a tag's handle or of a directive's name. -/
def isWord (c : Char) : Bool := c.isAlphanum || c = '_' || c = '-'

/-- A character that separates the parts of a list or record in brackets. -/
def isFlowIndicator (c : Char) : Bool :=
  c = ',' || c = '[' || c = ']' || c = '\x7b' || c = '\x7d'

/-- A character that a text without quotes cannot start with. -/
def isIndicator (c : Char) : Bool :=
  isFlowIndicator c || "-?:#&*!|>'\"%@\x60".toList.contains c

def hexDigit? (c : Char) : Option Nat :=
  if c.isDigit then some (c.toNat - '0'.toNat)
  else if 'a' ≤ c ∧ c ≤ 'f' then some (c.toNat - 'a'.toNat + 10)
  else if 'A' ≤ c ∧ c ≤ 'F' then some (c.toNat - 'A'.toNat + 10)
  else none

/-- Whether a line starts with three times the same character and nothing right behind it. -/
def startsWithMark (c : Char) : List Char → Bool
  | a :: b :: d :: rest => a = c && b = c && d = c && spaceFollows rest
  | _ => false

end PageAccessors.Yaml
