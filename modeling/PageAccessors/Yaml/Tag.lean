import PageAccessors.Yaml.Cursor

/-!
# Names that mark nodes

The names of anchors, the tags of nodes, and the directives in front of a document, which name the
version of the format and give handles for tags. A tag is a handle and what follows it; a tag
without a handle stands by itself.
-/

namespace PageAccessors.Yaml

/-- A tag as written: its handle, which may be empty, and what follows it. -/
structure Tag where
  handle : String
  suffix : String
  deriving DecidableEq

/-- What a line with a percent sign says. -/
inductive Directive where
  | version (major minor : Nat)
  | handle (handle meaning : String)
  deriving DecidableEq

/-- The name of an anchor, behind its sign. -/
def readAnchor (c : Cursor) : Option (String × Cursor) :=
  let (name, c) := (c.skip 1).span isWord
  let ended := match c.rest with
    | [] => true
    | a :: _ => isSpace a || "?:,]\x7d%@\x60".toList.contains a
  if name.isEmpty || !ended then none else some (String.ofList name, c)

/-! ## Tags -/

/-- A character of a tag; those of lists are special unless the tag is in angles or of a
directive. -/
private def isTagChar (verbatim : Bool) (c : Char) : Bool :=
  isWord c || ";/?:@&=+$.%!~*'()".toList.contains c || (verbatim && ",[]".toList.contains c)

/-- How many bytes a character takes whose first byte is given. -/
private def encodedLength? (byte : Nat) : Option Nat :=
  if byte < 0x80 then some 1
  else if 0xc0 ≤ byte ∧ byte < 0xe0 then some 2
  else if 0xe0 ≤ byte ∧ byte < 0xf0 then some 3
  else if 0xf0 ≤ byte ∧ byte < 0xf8 then some 4
  else none

private def percentByte? : List Char → Option Nat
  | '%' :: a :: b :: _ => do return 16 * (← hexDigit? a) + (← hexDigit? b)
  | _ => none

/-- The bytes of a character that is written with percent signs, and what follows. -/
private def percentBytes (s : List Char) : Option (List Nat × List Char) := do
  let first ← percentByte? s
  let length ← encodedLength? first
  let more ← (List.range (length - 1)).mapM fun i => do
    let byte ← percentByte? (s.drop (3 * (i + 1)))
    if 0x80 ≤ byte ∧ byte < 0xc0 then some byte else none
  some (first :: more, s.drop (3 * length))

private def bytesText (bytes : List Nat) : List Char :=
  match String.fromUTF8? ⟨(bytes.map UInt8.ofNat).toArray⟩ with
  | some text => text.toList
  | none => ['\ufffd']

private def tagChars (verbatim : Bool) : Nat → List Char → Option (List Char × List Char)
  | fuel + 1, c :: rest =>
    if c = '%' then do
      let (bytes, rest) ← percentBytes (c :: rest)
      let (more, rest) ← tagChars verbatim fuel rest
      some (bytesText bytes ++ more, rest)
    else if isTagChar verbatim c then do
      let (more, rest) ← tagChars verbatim fuel rest
      some (c :: more, rest)
    else some ([], c :: rest)
  | _, rest => some ([], rest)

/-- The characters of a tag and the cursor behind them. -/
private def readTagChars (verbatim : Bool) (c : Cursor) : Option (List Char × Cursor) := do
  let (chars, rest) ← tagChars verbatim (c.rest.length + 1) c.rest
  some (chars, c.skip (c.rest.length - rest.length))

/-- A tag, at its exclamation mark. -/
def Tag.read (flow : Bool) (c : Cursor) : Option (Tag × Cursor) := do
  let (tag, c) ← match c.rest with
    | '!' :: '<' :: _ => do
      let (suffix, c) ← readTagChars true (c.skip 2)
      if suffix.isEmpty || c.rest.head? != some '>' then none
      some (⟨"", String.ofList suffix⟩, c.skip 1)
    | _ => do
      let (word, after) := (c.skip 1).span isWord
      if after.rest.head? = some '!' then
        let (suffix, c) ← readTagChars false (after.skip 1)
        if suffix.isEmpty then none
        some (⟨String.ofList ('!' :: word ++ ['!']), String.ofList suffix⟩, c)
      else
        let (suffix, c) ← readTagChars false after
        let suffix := word ++ suffix
        some (if suffix.isEmpty then ⟨"", "!"⟩ else ⟨"!", String.ofList suffix⟩, c)
  if spaceFollows c.rest || (flow && c.rest.head? = some ',') then some (tag, c) else none

/-! ## Directives -/

private def readNumber (c : Cursor) : Option (Nat × Cursor) :=
  let (digits, c) := c.span Char.isDigit
  if digits.isEmpty || digits.length > 9 then none
  else some (digits.foldl (fun n d => 10 * n + (d.toNat - '0'.toNat)) 0, c)

private def readVersion (c : Cursor) : Option (Directive × Cursor) := do
  let (major, c) ← readNumber (c.skipWhile isBlank)
  if c.rest.head? != some '.' then none
  let (minor, c) ← readNumber (c.skip 1)
  some (.version major minor, c)

private def readHandle (c : Cursor) : Option (Directive × Cursor) := do
  let c := c.skipWhile isBlank
  if c.rest.head? != some '!' then none
  let (word, c) := (c.skip 1).span isWord
  let (handle, c) ← match c.rest with
    | '!' :: _ => some (String.ofList ('!' :: word ++ ['!']), c.skip 1)
    | _ => if word.isEmpty then some ("!", c) else none
  if !(c.rest.head?.any isBlank) then none
  let (meaning, c) ← readTagChars true (c.skipWhile isBlank)
  if meaning.isEmpty || !spaceFollows c.rest then none
  some (.handle handle (String.ofList meaning), c)

/-- A directive and the end of its line, at its percent sign. -/
def Directive.read (c : Cursor) : Option (Directive × Cursor) := do
  let (name, c) := (c.skip 1).span isWord
  if !spaceFollows c.rest then none
  let (directive, c) ←
    if name = "YAML".toList then readVersion c
    else if name = "TAG".toList then readHandle c
    else none
  some (directive, ← c.finishLine?)

end PageAccessors.Yaml
