/-!
# String literals

A text as a Kotlin string literal. Quotes, backslashes and dollar signs are escaped, so that nothing
in the text ends the literal or starts an interpolation, and control characters are written by
their names or numbers, so that a literal stays on its line.
-/

namespace PageAccessors.Source

/-- The control characters of Unicode. -/
def isControl (c : Char) : Bool := c.toNat < 0x20 || (0x7F ≤ c.toNat && c.toNat < 0xA0)

/-- The four hexadecimal digits of a number below `2 ^ 16`. -/
def fourHex (n : Nat) : List Char :=
  [n / 4096 % 16, n / 256 % 16, n / 16 % 16, n % 16].map Nat.digitChar

/-- One character between the quotes of a literal. -/
def escapeChar (c : Char) : List Char :=
  match c with
  | '\\' => ['\\', '\\']
  | '"' => ['\\', '"']
  | '$' => ['\\', '$']
  | '\n' => ['\\', 'n']
  | '\r' => ['\\', 'r']
  | '\t' => ['\\', 't']
  | c => if isControl c then '\\' :: 'u' :: fourHex c.toNat else [c]

/-- A text as it stands between the quotes of a literal. -/
def escape (s : List Char) : List Char := s.flatMap escapeChar

/-- A text as a literal. -/
def quoted (s : String) : String := String.ofList ('"' :: escape s.toList ++ ['"'])

end PageAccessors.Source
