import PageAccessors.Data

/-!
# Why a JSON text cannot be read

An error has a cause and, when it was found at a place of the text, the line and column of that
place. Columns count bytes.
-/

namespace PageAccessors.Json

/-- How JSON speaks of a null and of numbers. -/
def wording : Wording := ⟨"null", .short⟩

inductive Cause where
  | endInValue
  | endInText
  | endInList
  | endInObject
  | expectedColon
  | expectedListEnd
  | expectedObjectEnd
  | expectedWord
  | expectedValue
  | invalidEscape
  | invalidNumber
  | numberOutOfRange
  | loneSurrogate
  | unfinishedSurrogate
  | controlCharacter
  | keyMustBeText
  | trailingComma
  | trailingCharacters
  | tooDeep
  | mismatch (m : Mismatch)

def Cause.message : Cause → String
  | .endInValue => "EOF while parsing a value"
  | .endInText => "EOF while parsing a string"
  | .endInList => "EOF while parsing a list"
  | .endInObject => "EOF while parsing an object"
  | .expectedColon => "expected `:`"
  | .expectedListEnd => "expected `,` or `]`"
  | .expectedObjectEnd => "expected `,` or `\x7d`"
  | .expectedWord => "expected ident"
  | .expectedValue => "expected value"
  | .invalidEscape => "invalid escape"
  | .invalidNumber => "invalid number"
  | .numberOutOfRange => "number out of range"
  | .loneSurrogate => "lone leading surrogate in hex escape"
  | .unfinishedSurrogate => "unexpected end of hex escape"
  | .controlCharacter => "control character (\\u0000-\\u001F) found while parsing a string"
  | .keyMustBeText => "key must be a string"
  | .trailingComma => "trailing comma"
  | .trailingCharacters => "trailing characters"
  | .tooDeep => "recursion limit exceeded"
  | .mismatch m => m.message wording

/-- A place in a text: its line, counted from one, and the bytes of that line before it. -/
structure Position where
  line : Nat
  column : Nat
  deriving DecidableEq

/-- The place behind the first `index` bytes of a text, or its end if the text is shorter. -/
def Position.atByte : List Char → Nat → Position → Position
  | [], _, p => p
  | c :: rest, index, p =>
    if index = 0 then p
    else if c = '\n' then atByte rest (index - 1) ⟨p.line + 1, 0⟩
    else if index < c.utf8Size then ⟨p.line, p.column + index⟩
    else atByte rest (index - c.utf8Size) ⟨p.line, p.column + c.utf8Size⟩

structure Error where
  cause : Cause
  position? : Option Position

def Error.message (e : Error) : String :=
  e.cause.message ++
    match e.position? with
    | none => ""
    | some p => " at line " ++ toString p.line ++ " column " ++ toString p.column

/-- Where reading stopped: the cause, what was left of the text, and how many bytes of it the
place of the error includes. -/
structure Stop where
  cause : Cause
  rest : List Char
  offset : Nat

/-- How many bytes some characters take. -/
def byteCount (s : List Char) : Nat := (String.ofList s).utf8ByteSize

/-- The error that a stop amounts to in the text it happened in. -/
def Stop.toError (text : List Char) (stop : Stop) : Error :=
  let index := byteCount text - byteCount stop.rest + stop.offset
  ⟨stop.cause, some (Position.atByte text index ⟨1, 0⟩)⟩

end PageAccessors.Json
