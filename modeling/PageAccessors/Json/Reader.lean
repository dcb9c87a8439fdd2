import PageAccessors.Json.Error

/-!
# Reading JSON

A reader takes the rest of a text and gives back what it read and what is left. Values nest at most
127 deep. A text is read up to its closing quote by `textBody`, which takes `unescape`d characters
one at a time; numbers keep to 64 bits and become floating point numbers beyond them.
-/

namespace PageAccessors.Json

/-- A step of reading: what was read and what is left, or where reading stopped. -/
abbrev Reader (α : Type) := List Char → Except Stop (α × List Char)

def isSpace (c : Char) : Bool := c = ' ' || c = '\n' || c = '\t' || c = '\r'

def skipSpace (s : List Char) : List Char := s.dropWhile isSpace

/-! ## Texts -/

def hexValue? (c : Char) : Option Nat :=
  if '0' ≤ c && c ≤ '9' then some (c.toNat - '0'.toNat)
  else if 'a' ≤ c && c ≤ 'f' then some (c.toNat - 'a'.toNat + 10)
  else if 'A' ≤ c && c ≤ 'F' then some (c.toNat - 'A'.toNat + 10)
  else none

theorem hexValue?_digitChar : ∀ d < 16, hexValue? (Nat.digitChar d) = some d := by decide

/-- The number that four hexadecimal digits write. -/
def fourDigits? (a b c d : Char) : Option Nat := do
  let a ← hexValue? a
  let b ← hexValue? b
  let c ← hexValue? c
  let d ← hexValue? d
  some (((a * 16 + b) * 16 + c) * 16 + d)

/-- The number of a four digit escape. -/
def hexFour : Reader Nat := fun s =>
  match s with
  | a :: b :: c :: d :: rest =>
    match fourDigits? a b c d with
    | some n => .ok (n, rest)
    | none => .error ⟨.invalidEscape, s, 4⟩
  | _ =>
    if byteCount s < 4 then .error ⟨.endInText, [], 0⟩
    else .error ⟨.invalidEscape, s, 4⟩

theorem hexFour_length {s r : List Char} {n : Nat} (h : hexFour s = .ok (n, r)) :
    r.length < s.length := by
  unfold hexFour at h
  split at h
  · split at h
    · simp only [Except.ok.injEq, Prod.mk.injEq] at h
      simp only [← h.2, List.length_cons]
      omega
    · simp at h
  · split at h <;> simp at h

/-- The second half of a character beyond the sixteen bit ones, whose first half was `high`. -/
def lowSurrogate (high : Nat) : Reader Char
  | '\\' :: 'u' :: rest => do
    let (low, rest) ← hexFour rest
    if 0xDC00 ≤ low ∧ low ≤ 0xDFFF then
      .ok (Char.ofNat (0x10000 + (high - 0xD800) * 0x400 + (low - 0xDC00)), rest)
    else .error ⟨.loneSurrogate, rest, 0⟩
  | '\\' :: [] => .error ⟨.endInText, [], 0⟩
  | '\\' :: rest => .error ⟨.unfinishedSurrogate, rest, 1⟩
  | [] => .error ⟨.endInText, [], 0⟩
  | rest => .error ⟨.unfinishedSurrogate, rest, 1⟩

theorem lowSurrogate_length {high : Nat} {s r : List Char} {c : Char}
    (h : lowSurrogate high s = .ok (c, r)) : r.length < s.length := by
  unfold lowSurrogate at h
  split at h
  · rename_i rest
    rcases hf : hexFour rest with e | ⟨n, r'⟩
    · simp [hf, bind, Except.bind] at h
    · simp only [hf, bind, Except.bind] at h
      split at h
      · simp only [Except.ok.injEq, Prod.mk.injEq] at h
        have := hexFour_length hf
        simp only [← h.2, List.length_cons]
        omega
      · simp at h
  all_goals simp at h

/-- The character that an escape stands for, read behind its backslash. -/
def unescape : Reader Char
  | [] => .error ⟨.endInText, [], 0⟩
  | c :: rest =>
    match c with
    | '"' => .ok ('"', rest)
    | '\\' => .ok ('\\', rest)
    | '/' => .ok ('/', rest)
    | 'b' => .ok ('\x08', rest)
    | 'f' => .ok ('\x0c', rest)
    | 'n' => .ok ('\n', rest)
    | 'r' => .ok ('\r', rest)
    | 't' => .ok ('\t', rest)
    | 'u' => do
      let (n, rest) ← hexFour rest
      if 0xDC00 ≤ n ∧ n ≤ 0xDFFF then .error ⟨.loneSurrogate, rest, 0⟩
      else if 0xD800 ≤ n ∧ n ≤ 0xDBFF then lowSurrogate n rest
      else .ok (Char.ofNat n, rest)
    | _ => .error ⟨.invalidEscape, rest, 0⟩

theorem unescape_length {s r : List Char} {c : Char} (h : unescape s = .ok (c, r)) :
    r.length < s.length := by
  unfold unescape at h
  split at h
  · simp at h
  · rename_i c' rest
    split at h
    case h_9 =>
      rcases hf : hexFour rest with e | ⟨n, r'⟩
      · simp [hf, bind, Except.bind] at h
      · have hl := hexFour_length hf
        simp only [hf, bind, Except.bind] at h
        split at h
        · simp at h
        · split at h
          · have := lowSurrogate_length h
            simp only [List.length_cons]
            omega
          · simp only [Except.ok.injEq, Prod.mk.injEq] at h
            simp only [List.length_cons, ← h.2]
            omega
    all_goals simp_all

/-- A text behind its opening quote, up to and with the closing one. -/
def textBody : Reader (List Char)
  | [] => .error ⟨.endInText, [], 0⟩
  | c :: rest =>
    if c = '"' then .ok ([], rest)
    else if c = '\\' then
      match h : unescape rest with
      | .error stop => .error stop
      | .ok (x, after) =>
        have := unescape_length h
        match textBody after with
        | .error stop => .error stop
        | .ok (xs, final) => .ok (x :: xs, final)
    else if c.toNat < 0x20 then .error ⟨.controlCharacter, rest, 0⟩
    else
      match textBody rest with
      | .error stop => .error stop
      | .ok (xs, final) => .ok (c :: xs, final)
termination_by s => s.length
decreasing_by
  · simp only [List.length_cons]
    omega
  · simp

/-- A text behind its opening quote. -/
def text : Reader String := fun s => do
  let (cs, rest) ← textBody s
  .ok (String.ofList cs, rest)

/-! ## Numbers -/

/-- The largest number that keeps its digits. -/
def naturalLimit : Nat := 1 <<< 64 - 1

/-- Adds digits to a number as long as it stays within the limit; gives the number, how many
digits it took, and what is left. -/
def takeDigits (n count : Nat) : List Char → Nat × Nat × List Char
  | [] => (n, count, [])
  | c :: rest =>
    let n' := n * 10 + (c.toNat - '0'.toNat)
    if c.isDigit && n' ≤ naturalLimit then takeDigits n' (count + 1) rest
    else (n, count, c :: rest)

/-- The floating point number `f * 10 ^ e`, found by one exact power of ten at a time; none if it
is too large. -/
def scaleFloat : Nat → Float → Int → Option Float
  | 0, f, _ => some f
  | fuel + 1, f, e =>
    if e.natAbs ≤ 308 then
      let power := Float.ofScientific 1 false e.natAbs
      if 0 ≤ e then
        let f := f * power
        if f.isInf then none else some f
      else some (f / power)
    else if f == 0 then some f
    else if 0 ≤ e then none
    else scaleFloat fuel (f / Float.ofScientific 1 false 308) (e + 308)

/-- The floating point number with the given sign, digits and exponent. -/
def floatOf (positive : Bool) (n : Nat) (e : Int) (s : List Char) :
    Except Stop (Data × List Char) :=
  match scaleFloat (e.natAbs / 308 + 1) n.toUInt64.toFloat e with
  | none => .error ⟨.numberOutOfRange, s, 0⟩
  | some f => .ok (.float (if positive then f else -f), s)

/-- The digits of an exponent, which stay below a limit; the flag says that they went past it. -/
def exponentDigits (n : Nat) : List Char → Nat × Bool × List Char
  | [] => (n, false, [])
  | c :: rest =>
    if c.isDigit then
      let n' := n * 10 + (c.toNat - '0'.toNat)
      if n' < 1 <<< 31 then exponentDigits n' rest else (n, true, rest)
    else (n, false, c :: rest)

/-- An exponent, read behind its letter. -/
def exponentPart (positive : Bool) (n : Nat) (e : Int) (s : List Char) :
    Except Stop (Data × List Char) :=
  let (up, s) := match s with
    | '+' :: rest => (true, rest)
    | '-' :: rest => (false, rest)
    | rest => (true, rest)
  match s with
  | [] => .error ⟨.endInValue, [], 0⟩
  | c :: rest =>
    if c.isDigit then
      match exponentDigits (c.toNat - '0'.toNat) rest with
      | (_, true, rest) =>
        if n ≠ 0 && up then .error ⟨.numberOutOfRange, rest, 0⟩
        else .ok (.float (if positive then 0.0 else -0.0), rest.dropWhile Char.isDigit)
      | (p, false, rest) => floatOf positive n (if up then e + p else e - p) rest
    else .error ⟨.invalidNumber, rest, 0⟩

/-- What may follow the digits of a number that is already known not to be whole. -/
def exponent? (positive : Bool) (n : Nat) (e : Int) : List Char → Except Stop (Data × List Char)
  | 'e' :: rest => exponentPart positive n e rest
  | 'E' :: rest => exponentPart positive n e rest
  | rest => floatOf positive n e rest

/-- The digits behind a point. Those that no longer fit are dropped. -/
def fractionPart (positive : Bool) (n : Nat) (e : Int) (s : List Char) :
    Except Stop (Data × List Char) :=
  let (n, count, rest) := takeDigits n 0 s
  match count, rest with
  | 0, [] => .error ⟨.endInValue, [], 1⟩
  | 0, c :: rest =>
    if c.isDigit then exponent? positive n e (rest.dropWhile Char.isDigit)
    else .error ⟨.invalidNumber, c :: rest, 1⟩
  | count, rest => exponent? positive n (e - count) (rest.dropWhile Char.isDigit)

/-- A whole number keeps its digits if it fits into 64 bits with its sign. -/
def wholeNumber (positive : Bool) (n : Nat) : Data :=
  if positive then .natural n
  else if n = 0 ∨ n > 1 <<< 63 then .float (-n.toUInt64.toFloat)
  else .negative n

/-- What follows the digits of a whole number. -/
def afterDigits (positive : Bool) (n : Nat) : List Char → Except Stop (Data × List Char)
  | '.' :: rest => fractionPart positive n 0 rest
  | 'e' :: rest => exponentPart positive n 0 rest
  | 'E' :: rest => exponentPart positive n 0 rest
  | rest => .ok (wholeNumber positive n, rest)

/-- A number behind its sign. -/
def magnitude (positive : Bool) : Reader Data
  | [] => .error ⟨.endInValue, [], 0⟩
  | c :: rest =>
    if c = '0' then
      match rest with
      | d :: _ =>
        if d.isDigit then .error ⟨.invalidNumber, rest, 1⟩ else afterDigits positive 0 rest
      | [] => afterDigits positive 0 []
    else if c.isDigit then
      match takeDigits 0 0 (c :: rest) with
      | (n, _, rest) =>
        let more := rest.takeWhile Char.isDigit
        if more.isEmpty then afterDigits positive n rest
        else
          match rest.dropWhile Char.isDigit with
          | '.' :: rest => fractionPart positive n more.length rest
          | rest => exponent? positive n more.length rest
    else .error ⟨.invalidNumber, rest, 0⟩

/-- A number, read from its sign or first digit on. -/
def number : Reader Data
  | '-' :: rest => magnitude false rest
  | rest => magnitude true rest

/-! ## Values -/

/-- The letters of a word, up to the first that differs. -/
def word : List Char → List Char → Except Stop (List Char)
  | [], rest => .ok rest
  | _ :: _, [] => .error ⟨.endInValue, [], 0⟩
  | w :: ws, c :: rest => if c = w then word ws rest else .error ⟨.expectedWord, rest, 0⟩

/-- Everything but a list or an object. -/
def scalar : Reader Data
  | [] => .error ⟨.endInValue, [], 1⟩
  | c :: rest =>
    match c with
    | 'n' => do .ok (.null, ← word ['u', 'l', 'l'] rest)
    | 't' => do .ok (.bool true, ← word ['r', 'u', 'e'] rest)
    | 'f' => do .ok (.bool false, ← word ['a', 'l', 's', 'e'] rest)
    | '"' => do
      let (s, rest) ← text rest
      .ok (.text s, rest)
    | c =>
      if c = '-' || c.isDigit then number (c :: rest) else .error ⟨.expectedValue, c :: rest, 1⟩

/-- Goes to the next element of a list: none at its end, which is not taken. -/
def nextElement (first : Bool) (s : List Char) : Except Stop (Option (List Char)) :=
  match skipSpace s with
  | [] => .error ⟨.endInList, [], 1⟩
  | ']' :: _ => .ok none
  | c :: rest =>
    if first then .ok (some (c :: rest))
    else if c = ',' then
      match skipSpace rest with
      | [] => .error ⟨.endInValue, [], 1⟩
      | ']' :: rest => .error ⟨.trailingComma, ']' :: rest, 1⟩
      | rest => .ok (some rest)
    else .error ⟨.expectedListEnd, c :: rest, 1⟩

/-- Goes to the next key of an object and reads it: none at the object's end, which is not taken. -/
def nextKey (first : Bool) (s : List Char) : Except Stop (Option (String × List Char)) :=
  let key : List Char → Except Stop (Option (String × List Char))
    | [] => .error ⟨.endInValue, [], 1⟩
    | '"' :: rest => do .ok (some (← text rest))
    | '\x7d' :: rest => .error ⟨.trailingComma, '\x7d' :: rest, 1⟩
    | rest => .error ⟨.keyMustBeText, rest, 1⟩
  match skipSpace s with
  | [] => .error ⟨.endInObject, [], 1⟩
  | '\x7d' :: _ => .ok none
  | c :: rest =>
    if first then key (c :: rest)
    else if c = ',' then key (skipSpace rest)
    else .error ⟨.expectedObjectEnd, c :: rest, 1⟩

/-- The colon between a key and its value. -/
def colon (s : List Char) : Except Stop (List Char) :=
  match skipSpace s with
  | [] => .error ⟨.endInObject, [], 1⟩
  | ':' :: rest => .ok rest
  | rest => .error ⟨.expectedColon, rest, 1⟩

/-- The elements of a list behind its bracket, up to and with the closing one. -/
def elements (item : Reader Data) : Nat → Bool → Reader (List Data)
  | 0, _, s => .error ⟨.endInList, s, 1⟩
  | fuel + 1, first, s => do
    match ← nextElement first s with
    | none => .ok ([], (skipSpace s).drop 1)
    | some s =>
      let (x, s) ← item s
      let (xs, s) ← elements item fuel false s
      .ok (x :: xs, s)

/-- The members of an object behind its brace, up to and with the closing one. -/
def members (item : Reader Data) : Nat → Bool → Reader (List (String × Data))
  | 0, _, s => .error ⟨.endInObject, s, 1⟩
  | fuel + 1, first, s => do
    match ← nextKey first s with
    | none => .ok ([], (skipSpace s).drop 1)
    | some (key, s) =>
      let (x, s) ← item (← colon s)
      let (xs, s) ← members item fuel false s
      .ok ((key, x) :: xs, s)

/-- A value that holds lists and objects at most so deep. -/
def value : Nat → Reader Data
  | 0, s =>
    match skipSpace s with
    | '[' :: rest => .error ⟨.tooDeep, '[' :: rest, 1⟩
    | '\x7b' :: rest => .error ⟨.tooDeep, '\x7b' :: rest, 1⟩
    | rest => scalar rest
  | depth + 1, s =>
    match skipSpace s with
    | '[' :: rest => do
      let (items, rest) ← elements (value depth) (rest.length + 1) true rest
      .ok (.list items, rest)
    | '\x7b' :: rest => do
      let (fields, rest) ← members (value depth) (rest.length + 1) true rest
      .ok (.object fields, rest)
    | rest => scalar rest

/-- How deep lists and objects may nest. -/
def depthLimit : Nat := 127

/-- Nothing but space may follow the value of a text. -/
def finish (s : List Char) : Except Stop Unit :=
  match skipSpace s with
  | [] => .ok ()
  | rest => .error ⟨.trailingCharacters, rest, 1⟩

/-- Reads a whole text with a reader. -/
def readAll {α : Type} (reader : Reader α) (source : String) : Except Error α :=
  let step := do
    let (a, rest) ← reader source.toList
    finish rest
    pure a
  step.mapError (Stop.toError source.toList)

/-- The value of a text. -/
def parse (source : String) : Except Error Data := readAll (value depthLimit) source

/-- The value of a text, given a meaning. A value without that meaning is refused before anything
behind it is looked at, and its error has no place. -/
def decode {α : Type} (meaning : Data → Except Mismatch α) (source : String) : Except Error α := do
  let (data, rest) ← (value depthLimit source.toList).mapError (Stop.toError source.toList)
  let a ← (meaning data).mapError fun m => ⟨.mismatch m, none⟩
  (finish rest).mapError (Stop.toError source.toList)
  pure a

end PageAccessors.Json
