import PageAccessors.Json.Reader

/-!
# Reading records of known fields

A record with known fields is read from an object, in which other fields are skipped, or from a
list of its fields in their declared order. A value of the wrong kind is refused where it stands.
A mismatch that concerns the record as a whole is found with part of it still unread, and is placed
behind the brace or bracket that closes the record, if that comes next.
-/

namespace PageAccessors.Json

/-! ## Skipped values -/

/-- The escapes of a skipped text need not stand for a character. -/
def skipEscape : List Char → Except Stop (List Char)
  | [] => .error ⟨.endInText, [], 0⟩
  | 'u' :: rest => do .ok (← hexFour rest).2
  | c :: rest =>
    if c = '"' ∨ c = '\\' ∨ c = '/' ∨ c = 'b' ∨ c = 'f' ∨ c = 'n' ∨ c = 'r' ∨ c = 't' then .ok rest
    else .error ⟨.invalidEscape, rest, 0⟩

theorem skipEscape_length {s r : List Char} (h : skipEscape s = .ok r) : r.length < s.length := by
  unfold skipEscape at h
  split at h
  · simp at h
  · rename_i rest
    rcases hf : hexFour rest with e | ⟨n, r'⟩
    · simp [hf, bind, Except.bind] at h
    · simp only [hf, bind, Except.bind, Except.ok.injEq] at h
      have := hexFour_length hf
      simp only [← h, List.length_cons]
      omega
  · split at h <;> simp at h
    simp [h]

/-- What is left behind a skipped text. -/
def skipText : List Char → Except Stop (List Char)
  | [] => .error ⟨.endInText, [], 0⟩
  | c :: rest =>
    if c = '"' then .ok rest
    else if c = '\\' then
      match h : skipEscape rest with
      | .error stop => .error stop
      | .ok after =>
        have := skipEscape_length h
        skipText after
    else if c.toNat < 0x20 then .error ⟨.controlCharacter, rest, 0⟩
    else skipText rest
termination_by s => s.length
decreasing_by
  · simp only [List.length_cons]
    omega
  · simp

/-- What is left behind the exponent of a skipped number, after its letter. -/
def skipExponent (s : List Char) : Except Stop (List Char) :=
  let s := match s with
    | '+' :: rest => rest
    | '-' :: rest => rest
    | rest => rest
  match s with
  | [] => .error ⟨.invalidNumber, [], 0⟩
  | c :: rest =>
    if c.isDigit then .ok (rest.dropWhile Char.isDigit) else .error ⟨.invalidNumber, rest, 0⟩

/-- What is left behind what may follow the digits of a skipped number. -/
def skipAfterDigits : List Char → Except Stop (List Char)
  | '.' :: rest =>
    match rest with
    | [] => .error ⟨.invalidNumber, [], 1⟩
    | c :: more =>
      if c.isDigit then
        match more.dropWhile Char.isDigit with
        | 'e' :: rest => skipExponent rest
        | 'E' :: rest => skipExponent rest
        | rest => .ok rest
      else .error ⟨.invalidNumber, rest, 1⟩
  | 'e' :: rest => skipExponent rest
  | 'E' :: rest => skipExponent rest
  | rest => .ok rest

/-- What is left behind a skipped number, after its sign. -/
def skipMagnitude : List Char → Except Stop (List Char)
  | [] => .error ⟨.invalidNumber, [], 0⟩
  | c :: rest =>
    if c = '0' then
      match rest with
      | d :: _ => if d.isDigit then .error ⟨.invalidNumber, rest, 1⟩ else skipAfterDigits rest
      | [] => .ok []
    else if c.isDigit then skipAfterDigits (rest.dropWhile Char.isDigit)
    else .error ⟨.invalidNumber, rest, 0⟩

/-- The two kinds of values that are open around a skipped one. -/
inductive Enclosing where
  | list
  | object
  deriving DecidableEq

/-- What is left behind the key of a skipped member and its colon. -/
def skipKey (s : List Char) : Except Stop (List Char) :=
  match skipSpace s with
  | [] => .error ⟨.endInObject, [], 1⟩
  | '"' :: rest => do colon (← skipText rest)
  | rest => .error ⟨.keyMustBeText, rest, 1⟩

mutual

/-- Skips a value, then whatever is open around it. -/
def skipOpen : Nat → List Enclosing → List Char → Except Stop (List Char)
  | 0, _, s => .error ⟨.endInValue, s, 1⟩
  | fuel + 1, around, s =>
    match skipSpace s with
    | [] => .error ⟨.endInValue, [], 1⟩
    | c :: rest =>
      match c with
      | 'n' => do skipClosed fuel true around (← word ['u', 'l', 'l'] rest)
      | 't' => do skipClosed fuel true around (← word ['r', 'u', 'e'] rest)
      | 'f' => do skipClosed fuel true around (← word ['a', 'l', 's', 'e'] rest)
      | '-' => do skipClosed fuel true around (← skipMagnitude rest)
      | '"' => do skipClosed fuel true around (← skipText rest)
      | '[' => skipClosed fuel false (.list :: around) rest
      | '\x7b' => skipClosed fuel false (.object :: around) rest
      | c =>
        if c.isDigit then do skipClosed fuel true around (← skipMagnitude (c :: rest))
        else .error ⟨.expectedValue, c :: rest, 1⟩

/-- Goes on behind a value, or behind an opening bracket or brace, in the innermost of what is
open. -/
def skipClosed : Nat → Bool → List Enclosing → List Char → Except Stop (List Char)
  | 0, _, _, s => .error ⟨.endInValue, s, 1⟩
  | _, _, [], s => .ok s
  | fuel + 1, comma, .list :: around, s =>
    match skipSpace s with
    | [] => .error ⟨.endInList, [], 1⟩
    | c :: rest =>
      if comma && c = ',' then skipOpen fuel (.list :: around) rest
      else if c = ']' then skipClosed fuel true around rest
      else if comma then .error ⟨.expectedListEnd, c :: rest, 1⟩
      else skipOpen fuel (.list :: around) (c :: rest)
  | fuel + 1, comma, .object :: around, s =>
    match skipSpace s with
    | [] => .error ⟨.endInObject, [], 1⟩
    | c :: rest =>
      if comma && c = ',' then do skipOpen fuel (.object :: around) (← skipKey rest)
      else if c = '\x7d' then skipClosed fuel true around rest
      else if comma then .error ⟨.expectedObjectEnd, c :: rest, 1⟩
      else do skipOpen fuel (.object :: around) (← skipKey (c :: rest))

end

/-- What is left behind a skipped value, however deep. -/
def skipValue (s : List Char) : Except Stop (List Char) := skipOpen (2 * s.length + 2) [] s

/-! ## Values of a known kind -/

/-- Refuses the value that comes next; a list or an object is refused without being read. -/
def refuse {α : Type} (expected : String) (s : List Char) : Except Stop (α × List Char) :=
  let wrong (found : Found) (rest : List Char) : Except Stop (α × List Char) :=
    .error ⟨.mismatch (.wrongType found expected), rest, 0⟩
  match s with
  | '[' :: _ => wrong .list s
  | '\x7b' :: _ => wrong .record s
  | _ => do
    let (found, rest) ← scalar s
    wrong found.found rest

/-- A text, where nothing else will do. -/
def textField : Reader Data := fun s =>
  match skipSpace s with
  | [] => .error ⟨.endInValue, [], 1⟩
  | '"' :: rest => do
    let (t, rest) ← text rest
    .ok (.text t, rest)
  | s => refuse "a string" s

/-- A natural number below `1 <<< 32`. -/
def wordField : Reader Data := fun s =>
  match skipSpace s with
  | [] => .error ⟨.endInValue, [], 1⟩
  | c :: rest =>
    if c = '-' || c.isDigit then do
      let (n, rest) ← number (c :: rest)
      match n with
      | .natural n =>
        if n < 1 <<< 32 then .ok (.natural n, rest)
        else .error ⟨.mismatch (.wrongValue (.integer n) "u32"), rest, 0⟩
      | .negative m => .error ⟨.mismatch (.wrongValue (.integer (-m)) "u32"), rest, 0⟩
      | other => .error ⟨.mismatch (.wrongType other.found "u32"), rest, 0⟩
    else refuse "u32" (c :: rest)

/-! ## Records -/

/-- A stop whose place is known, or a mismatch of a whole record found at the rest of a text. -/
inductive Interrupt where
  | placed (stop : Stop)
  | whole (mismatch : Mismatch) (rest : List Char)

/-- Places a mismatch of an object behind its closing brace, if that comes next. -/
def Interrupt.inObject : Interrupt → Stop
  | .placed stop => stop
  | .whole m rest =>
    match skipSpace rest with
    | '\x7d' :: rest => ⟨.mismatch m, rest, 0⟩
    | rest => ⟨.mismatch m, rest, 0⟩

/-- Places a mismatch of a list behind its closing bracket, or a comma, if one comes next. -/
def Interrupt.inList : Interrupt → Stop
  | .placed stop => stop
  | .whole m rest =>
    match skipSpace rest with
    | ']' :: rest => ⟨.mismatch m, rest, 0⟩
    | ',' :: rest => ⟨.mismatch m, skipSpace rest, 0⟩
    | rest => ⟨.mismatch m, rest, 0⟩

/-- A field's name and the reader of its value. -/
abbrev Field := String × Reader Data

/-- The fields that an object has, up to its closing brace, which is not taken. -/
def objectFields (fields : List Field) : Nat → Bool → List (String × Data) → List Char →
    Except Interrupt (List (String × Data) × List Char)
  | 0, _, found, s => .ok (found, s)
  | fuel + 1, first, found, s => do
    match ← (nextKey first s).mapError .placed with
    | none => .ok (found, s)
    | some (key, s) =>
      match fields.lookup key with
      | none =>
        let s ← (do skipValue (← colon s)).mapError .placed
        objectFields fields fuel false found s
      | some read =>
        if (found.lookup key).isSome then throw (.whole (.duplicateField key) s)
        let (x, s) ← (do read (← colon s)).mapError .placed
        objectFields fields fuel false ((key, x) :: found) s

/-- The values of a record's fields in their declared order, each of which has to be there. -/
def declaredOrder (found : List (String × Data)) (s : List Char) :
    List String → Except Interrupt (List Data)
  | [] => .ok []
  | name :: names =>
    match found.lookup name with
    | none => .error (.whole (.missingField name) s)
    | some x => do .ok (x :: (← declaredOrder found s names))

/-- The elements of a list as the fields of a record in their declared order. -/
def listFields (expected : String) : Nat → List Field → List Char →
    Except Interrupt (List Data × List Char)
  | _, [], s => .ok ([], s)
  | count, (_, read) :: fields, s => do
    match ← (nextElement (count == 0) s).mapError .placed with
    | none => throw (.whole (.wrongLength count expected) s)
    | some s =>
      let (x, s) ← (read s).mapError .placed
      let (xs, s) ← listFields expected (count + 1) fields s
      .ok (x :: xs, s)

/-- The bracket that closes a list of a known length. -/
def closeList (s : List Char) : Except Stop (List Char) :=
  match skipSpace s with
  | [] => .error ⟨.endInList, [], 1⟩
  | ']' :: rest => .ok rest
  | ',' :: rest =>
    match skipSpace rest with
    | ']' :: rest => .error ⟨.trailingComma, ']' :: rest, 1⟩
    | rest => .error ⟨.trailingCharacters, rest, 1⟩
  | rest => .error ⟨.trailingCharacters, rest, 1⟩

/-- A record of the given type: the values of its fields in their declared order. -/
def record (type : String) (fields : List Field) : Reader (List Data) := fun s =>
  match skipSpace s with
  | [] => .error ⟨.endInValue, [], 1⟩
  | '\x7b' :: rest => do
    let step := do
      let (found, s) ← objectFields fields (rest.length + 1) true [] rest
      let values ← declaredOrder found s (fields.map Prod.fst)
      pure (values, s)
    let (values, s) ← step.mapError Interrupt.inObject
    .ok (values, (skipSpace s).drop 1)
  | '[' :: rest => do
    let expected := type ++ " with " ++ toString fields.length ++ " elements"
    let (values, s) ← (listFields expected 0 fields rest).mapError Interrupt.inList
    .ok (values, ← closeList s)
  | s => refuse type s

end PageAccessors.Json
