import PageAccessors.Data
import PageAccessors.Yaml.Node

/-!
# What texts stand for

A text without quotes may stand for nothing, a truth value or a number. A number may be written
with a sign and to the base of ten, two, eight or sixteen; a number of more digits that starts with
a zero is a text after all. A tag can ask for one of these values, and refuses any other text.
-/

namespace PageAccessors.Yaml

def isNullText (s : String) : Bool := ["null", "Null", "NULL", "~"].contains s

def boolOfText? (s : String) : Option Bool :=
  if ["true", "True", "TRUE"].contains s then some true
  else if ["false", "False", "FALSE"].contains s then some false
  else none

/-- Whether a text is empty or a word for nothing. -/
def standsForNull (s : String) : Bool := s.isEmpty || isNullText s

/-! ## Whole numbers -/

def digits? (base : Nat) (s : List Char) : Option Nat := do
  if s.isEmpty then none
  s.foldlM (fun n c => do
    let d ← hexDigit? c
    if d < base then some (base * n + d) else none) 0

/-- A sign, some digits that start with a zero, and nothing else. -/
def zeroPadded (s : List Char) : Bool :=
  let digits := match s with
    | '-' :: rest => rest
    | '+' :: rest => rest
    | rest => rest
  match digits with
  | '0' :: d :: rest => (d :: rest).all Char.isDigit
  | _ => false

def baseDigits? : List Char → Option Nat
  | '0' :: 'x' :: rest => digits? 16 rest
  | '0' :: 'o' :: rest => digits? 8 rest
  | '0' :: 'b' :: rest => digits? 2 rest
  | _ => none

/-- The magnitude of a whole number that is not negative. -/
def natural? (s : List Char) : Option Nat :=
  let unsigned := match s with
    | '+' :: rest => rest
    | rest => rest
  match baseDigits? unsigned with
  | some n => some n
  | none => if zeroPadded s then none else digits? 10 unsigned

/-- The magnitude of a whole number with a minus sign. -/
def negative? (s : List Char) : Option Nat :=
  match s with
  | '-' :: rest =>
    match baseDigits? rest with
    | some n => some n
    | none => if zeroPadded s then none else digits? 10 rest
  | _ => none

/-! ## Floating point numbers -/

/-- The value of `digits * 10 ^ exponent`. Exponents beyond all numbers are cut off. -/
def floatOfDigits (digits : Nat) (exponent : Int) : Float :=
  let size : Int := (Nat.toDigits 10 digits).length
  if digits = 0 || exponent + size < -400 then 0.0
  else if exponent + size > 400 then 1.0 / 0.0
  else Float.ofScientific digits (exponent < 0) exponent.natAbs

def exponentOf? : List Char → Option Int
  | [] => some 0
  | e :: rest =>
    if e = 'e' ∨ e = 'E' then
      match rest with
      | '-' :: rest => (digits? 10 rest).map fun n => -(n : Int)
      | '+' :: rest => (digits? 10 rest).map Int.ofNat
      | rest => (digits? 10 rest).map Int.ofNat
    else none

/-- A finite decimal number, with digits before or behind its point. -/
def decimal? (s : List Char) : Option Float := do
  let (minus, s) := match s with
    | '-' :: rest => (true, rest)
    | '+' :: rest => (false, rest)
    | rest => (false, rest)
  let whole := s.takeWhile Char.isDigit
  let s := s.dropWhile Char.isDigit
  let (part, s) := match s with
    | '.' :: rest => (rest.takeWhile Char.isDigit, rest.dropWhile Char.isDigit)
    | rest => ([], rest)
  let digits ← digits? 10 (whole ++ part)
  let x := floatOfDigits digits ((← exponentOf? s) - part.length)
  if x.isInf then none else some (if minus then -x else x)

def float? (s : String) : Option Float :=
  let unsigned := match s.toList with
    | '+' :: rest => rest
    | rest => rest
  if [".inf", ".Inf", ".INF"].contains (String.ofList unsigned) then some (1.0 / 0.0)
  else if ["-.inf", "-.Inf", "-.INF"].contains s then some (-1.0 / 0.0)
  else if [".nan", ".NaN", ".NAN"].contains s then some (0.0 / 0.0)
  else match s.toList with
    | '+' :: '+' :: _ => none
    | '+' :: '-' :: _ => none
    | _ => decimal? unsigned

/-! ## Texts and their tags -/

/-- A whole number; none if it does not fit into 128 bits, and no value if it does not fit into 64
bits. -/
def whole? (s : List Char) : Option (Except Int Data) :=
  match natural? s with
  | some n =>
    if n < 1 <<< 64 then some (.ok (.natural n))
    else if n < 1 <<< 128 then some (.error n)
    else none
  | none =>
    match negative? s with
    | some n =>
      if n ≤ 1 <<< 63 then some (.ok (.negative n))
      else if n ≤ 1 <<< 127 then some (.error (-n))
      else none
    | none => none

/-- What a text without quotes and without a tag stands for; no value if it is a whole number of
more than 64 bits. -/
def plainValue (text : String) : Except Int Data :=
  if standsForNull text then .ok .null
  else match boolOfText? text with
    | some b => .ok (.bool b)
    | none =>
      match whole? text.toList with
      | some value => value
      | none =>
        if zeroPadded text.toList then .ok (.text text)
        else match float? text with
          | some x => .ok (.float x)
          | none => .ok (.text text)

/-- The tags of the format itself. -/
def coreTag (name : String) : String := "tag:yaml.org,2002:" ++ name

/-- The value that was found, unless the text is refused for not being of a kind. -/
def orRefused (text kind : String) : Option Data → Except Mismatch Data
  | some d => .ok d
  | none => .error (.wrongValue (.text text) kind)

/-- What a text stands for under its tag, where something was expected. The tag may refuse it, and
a wide integer is no value. -/
def scalarValue (expected : String) (tag : Option String) (style : Style) (text : String) :
    Except Mismatch Data :=
  let narrow (value : Except Int Data) : Except Mismatch Data :=
    value.mapError fun i => .wrongType (.wide i) expected
  match tag with
  | none => if style = .plain then narrow (plainValue text) else .ok (.text text)
  | some tag =>
    if tag = coreTag "bool" then orRefused text "a boolean" ((boolOfText? text).map .bool)
    else if tag = coreTag "int" then
      match whole? text.toList with
      | some value => narrow value
      | none => orRefused text "an integer" none
    else if tag = coreTag "float" then orRefused text "a float" ((float? text).map .float)
    else if tag = coreTag "null" then
      orRefused text "null" (if isNullText text then some .null else none)
    else if tag.toList.head? = some '!' ∧ style = .plain then narrow (plainValue text)
    else .ok (.text text)

/-- The name that a tag gives to a value, if it is not one of the format's own. -/
def tagName? : Option String → Option String
  | none => none
  | some tag =>
    match tag.toList with
    | ['!'] => some "!"
    | '!' :: rest => some (String.ofList rest)
    | _ => none

end PageAccessors.Yaml
