import PageAccessors.Data

/-!
# Writing JSON

Values are written without blanks (`render`) or with a line for each element and member (`pretty`).
Texts escape the quote, the backslash and the characters below the space, and nothing else, so
that a text has one written form.
-/

namespace PageAccessors.Json

/-- One character between the quotes of a text. -/
def escapeChar (c : Char) : List Char :=
  match c with
  | '"' => ['\\', '"']
  | '\\' => ['\\', '\\']
  | '\x08' => ['\\', 'b']
  | '\x0c' => ['\\', 'f']
  | '\n' => ['\\', 'n']
  | '\r' => ['\\', 'r']
  | '\t' => ['\\', 't']
  | c =>
    if c.toNat < 0x20 then
      ['\\', 'u', '0', '0', Nat.digitChar (c.toNat / 16), Nat.digitChar (c.toNat % 16)]
    else [c]

/-- The written form of a text. -/
def quoteChars (s : String) : List Char := '"' :: s.toList.flatMap escapeChar ++ ['"']

/-- The written form of a value that is neither a list nor a record. -/
def scalarChars : Data → List Char
  | .bool true => "true".toList
  | .bool false => "false".toList
  | .natural n => (toString n).toList
  | .negative m => (toString (-m : Int)).toList
  | .float x => if x.isFinite then (Decimal.text .short x).toList else "null".toList
  | .text s => quoteChars s
  | _ => "null".toList

/-- The text that a record's key is written as. -/
def keyChars : Data → List Char
  | .text s => quoteChars s
  | other => quoteChars (String.ofList (scalarChars other))

mutual

/-- The written form of a value, without blanks. -/
def renderChars : Data → List Char
  | .list items => '[' :: renderItems true items ++ [']']
  | .record fields => '\x7b' :: renderFields true fields ++ ['\x7d']
  | .null => scalarChars .null
  | .bool b => scalarChars (.bool b)
  | .natural n => scalarChars (.natural n)
  | .negative m => scalarChars (.negative m)
  | .float x => scalarChars (.float x)
  | .text s => scalarChars (.text s)

def renderItems (first : Bool) : List Data → List Char
  | [] => []
  | x :: xs => (if first then [] else [',']) ++ renderChars x ++ renderItems false xs

def renderFields (first : Bool) : List (Data × Data) → List Char
  | [] => []
  | (key, x) :: xs =>
    (if first then [] else [',']) ++ keyChars key ++ ':' :: renderChars x ++ renderFields false xs

end

/-- The text of a value, without blanks. -/
def render (d : Data) : String := String.ofList (renderChars d)

/-- A new line with the indentation of a depth, two blanks a level. -/
def newLine (depth : Nat) : List Char := '\n' :: List.replicate (2 * depth) ' '

mutual

/-- The written form of a value at a depth, one line an element. -/
def prettyChars (depth : Nat) : Data → List Char
  | .list [] => ['[', ']']
  | .list items => '[' :: prettyItems (depth + 1) true items ++ newLine depth ++ [']']
  | .record [] => ['\x7b', '\x7d']
  | .record fields => '\x7b' :: prettyFields (depth + 1) true fields ++ newLine depth ++ ['\x7d']
  | .null => scalarChars .null
  | .bool b => scalarChars (.bool b)
  | .natural n => scalarChars (.natural n)
  | .negative m => scalarChars (.negative m)
  | .float x => scalarChars (.float x)
  | .text s => scalarChars (.text s)

def prettyItems (depth : Nat) (first : Bool) : List Data → List Char
  | [] => []
  | x :: xs =>
    (if first then [] else [',']) ++ newLine depth ++ prettyChars depth x ++
      prettyItems depth false xs

def prettyFields (depth : Nat) (first : Bool) : List (Data × Data) → List Char
  | [] => []
  | (key, x) :: xs =>
    (if first then [] else [',']) ++ newLine depth ++ keyChars key ++ [':', ' '] ++
      prettyChars depth x ++ prettyFields depth false xs

end

/-- The text of a value over several lines, without a line feed at its end. -/
def pretty (d : Data) : String := String.ofList (prettyChars 0 d)

end PageAccessors.Json
