import PageAccessors.Url.Direction
import PageAccessors.Url.HostCharacter
import PageAccessors.Url.Joining
import PageAccessors.Url.NormalForm
import PageAccessors.Url.Punycode
import PageAccessors.Url.Replacement

/-!
# Domain names

Turning the host name of an address into the form in which it is looked up: percent signs are
decoded, characters are mapped to those they stand for, the text is brought into its one form, and
every label has to be one that the rules of internationalized domain names allow.
-/

namespace PageAccessors.Url

/-- The ASCII characters that no domain name may hold. -/
def isForbidden (c : Char) : Bool :=
  c.toNat ≤ 0x20 || c.toNat = 0x7F ||
    c ∈ ['#', '/', ':', '<', '>', '?', '@', '[', '\\', ']', '^', '|', '%']

def isAscii (c : Char) : Bool := c.toNat < 0x80

/-- What a character of a host name stands for; none if it may not be there. -/
def mapChar? (c : Char) : Option (List Char) :=
  if isAscii c then some [c.toLower]
  else if inRanges refusedRanges c then none
  else if inRanges droppedRanges c then some []
  else some ((replacement? c).getD [c])

/-- A character that stands for itself in a host name. -/
def isSettled (c : Char) : Bool := !isForbidden c && mapChar? c = some [c]

/-- The joiners: the one that separates letters, and the one that connects them. -/
def isJoiner (c : Char) : Bool := c.toNat = 0x200C || c.toNat = 0x200D

/-- A mark that makes the characters around it join. -/
def isVirama (c : Char) : Bool := classOf c = 9

/-- Whether a letter that joins comes first, apart from what letters join across. -/
def meetsJoining (joins : Char → Bool) (s : List Char) : Bool :=
  match s.dropWhile fun c => inRanges nonspacingRanges c || inRanges acrossRanges c with
  | [] => false
  | c :: _ => joins c

/-- Whether each joiner stands behind a mark that joins; the one that separates letters may also
stand between two that would join. The characters before come last one first. -/
def joinersAllowed (before : List Char) : List Char → Bool
  | [] => true
  | c :: rest =>
    let allowed : Bool :=
      !isJoiner c || before.head?.any isVirama ||
        (c.toNat = 0x200C && meetsJoining joinsOn before && meetsJoining joinsBack rest)
    allowed && joinersAllowed (c :: before) rest

/-- The directional class of a character. -/
inductive Direction where
  | left
  | right
  | arabicNumber
  | europeanNumber
  | nonspacing
  | neutral
  deriving DecidableEq

def directionOf (c : Char) : Direction :=
  if inRanges europeanNumberRanges c then .europeanNumber
  else if inRanges rightRanges c then .right
  else if inRanges arabicNumberRanges c then .arabicNumber
  else if inRanges nonspacingRanges c then .nonspacing
  else if inRanges neutralRanges c then .neutral
  else .left

/-- Whether the directions of a label's characters go together. A label starts with a letter,
keeps to the characters of its direction, and ends with a letter or a digit. -/
def directionsAgree (label : List Char) : Bool :=
  let classes := label.map directionOf
  let last := (classes.reverse.dropWhile (· = .nonspacing)).head?
  match classes.head? with
  | none => true
  | some .right =>
    classes.all (· ≠ .left) &&
      (last = some .right || last = some .europeanNumber || last = some .arabicNumber) &&
      !(classes.contains .europeanNumber && classes.contains .arabicNumber)
  | some .left =>
    classes.all (fun d => d ≠ .right && d ≠ .arabicNumber) &&
      (last = some .left || last = some .europeanNumber)
  | some _ => false

/-- The characters of a label with the mark of a coded one decoded; none if it is not allowed. -/
def label? (label : List Char) : Option (List Char) :=
  match label with
  | 'x' :: 'n' :: '-' :: '-' :: coded =>
    match Punycode.decode? coded with
    | none => none
    | some decoded =>
      if coded.all isAscii && !decoded.all isAscii && decoded.all isSettled &&
          normalForm decoded = decoded then
        check decoded
      else none
  | _ => if label.all isAscii then some label else check label
where
  check (decoded : List Char) : Option (List Char) :=
    match decoded with
    | [] => none
    | first :: _ =>
      if inRanges markRanges first || !joinersAllowed [] decoded then none
      else some decoded

/-- The parts of a text between full stops. -/
def splitDots (s : List Char) : List (List Char) := s.splitOn '.'

/-- The bytes of a text with its percent signs decoded. A sign without two digits stands for
itself. -/
def percentDecode : List Char → List UInt8
  | '%' :: a :: b :: rest =>
    match hex? a, hex? b with
    | some x, some y => (x * 16 + y).toUInt8 :: percentDecode rest
    | _, _ => '%'.toUInt8 :: percentDecode (a :: b :: rest)
  | c :: rest => (String.singleton c).toUTF8.toList ++ percentDecode rest
  | [] => []
termination_by s => s.length
where
  hex? (c : Char) : Option Nat :=
    if c.isDigit then some (c.toNat - '0'.toNat)
    else if 'a' ≤ c && c ≤ 'f' then some (c.toNat - 'a'.toNat + 10)
    else if 'A' ≤ c && c ≤ 'F' then some (c.toNat - 'A'.toNat + 10)
    else none

/-- The labels of a host name, each in the form that its lookup takes; none if it is no domain
name. -/
def domain? (host : List Char) : Option (List (List Char)) := do
  let text ← String.fromUTF8? ⟨(percentDecode host).toArray⟩
  let mapped ← text.toList.mapM mapChar?
  let name := normalForm mapped.flatten
  -- Only here, since a mark may turn a forbidden character in front of it into another one.
  if name.any isForbidden then failure
  let labels := splitDots name
  let decoded ← labels.mapM label?
  let rightward := decoded.any fun label => label.any fun c =>
    directionOf c = .right || directionOf c = .arabicNumber
  if rightward && !decoded.all directionsAgree then none
  else some labels

end PageAccessors.Url
