/-!
# Network addresses

Hosts given by number. An address of four bytes has up to four parts, in decimal, octal or
hexadecimal, the last of which fills the bytes that are left. An address of eight pieces has
hexadecimal pieces between colons, one run of which may be left out, and may end in four decimal
bytes.
-/

namespace PageAccessors.Url

/-- What a part of a dotted address is: no number, one too large, or a number. -/
inductive Part where
  | noNumber
  | tooLarge
  | number (n : Nat)
  deriving DecidableEq

def hexValue (c : Char) : Option Nat :=
  if c.isDigit then some (c.toNat - '0'.toNat)
  else if 'a' ≤ c && c ≤ 'f' then some (c.toNat - 'a'.toNat + 10)
  else if 'A' ≤ c && c ≤ 'F' then some (c.toNat - 'A'.toNat + 10)
  else none

/-- A number in a base, if all its characters are digits of the base. -/
def numberIn (base : Nat) (s : List Char) : Part :=
  let digits := s.mapM fun c => (hexValue c).filter (· < base)
  match digits with
  | none => .noNumber
  | some ds =>
    let n := ds.foldl (fun n d => n * base + d) 0
    if n < 1 <<< 32 then .number n else .tooLarge

/-- A part of a dotted address: `0x` starts a hexadecimal number, another `0` an octal one. -/
def part (s : List Char) : Part :=
  match s with
  | [] => .noNumber
  | '0' :: 'x' :: digits => numberIn 16 digits
  | '0' :: 'X' :: digits => numberIn 16 digits
  | '0' :: d :: digits => numberIn 8 (d :: digits)
  | digits => numberIn 10 digits

/-- The labels without an empty one at the end. -/
def withoutRoot (labels : List (List Char)) : List (List Char) :=
  if labels.getLast? = some [] then labels.dropLast else labels

/-- Whether a host name has to be read as a dotted address: its last label is a number. -/
def endsInNumber (labels : List (List Char)) : Bool :=
  match (withoutRoot labels).getLast? with
  | none => false
  | some last => (!last.isEmpty && last.all Char.isDigit) || part last ≠ .noNumber

/-- Whether a dotted address is one: every part but the last fits a byte, and the last one the
bytes that are left. -/
def isDottedAddress (labels : List (List Char)) : Bool :=
  let parts := (withoutRoot labels).map part
  let numbers := parts.filterMap fun
    | .number n => some n
    | _ => none
  parts.length ≤ 4 && numbers.length = parts.length &&
    match numbers.getLast? with
    | none => false
    | some last => numbers.dropLast.all (· ≤ 255) && last < 1 <<< (8 * (5 - numbers.length))

/-- A byte in decimal, without zeros in front, and what follows it. -/
def decimalByte? (s : List Char) : Option (List Char) :=
  let digits := s.takeWhile Char.isDigit
  let n := digits.foldl (fun n c => n * 10 + (c.toNat - '0'.toNat)) 0
  if digits.isEmpty || (digits.length > 1 && digits.head? = some '0') || n > 255 then none
  else some (s.dropWhile Char.isDigit)

/-- Four decimal bytes between full stops, and nothing else. -/
def isFourBytes (s : List Char) : Bool :=
  let dot : List Char → Option (List Char)
    | '.' :: rest => decimalByte? rest
    | _ => none
  (decimalByte? s >>= dot >>= dot >>= dot) = some []

/-- Reads the pieces of an address from a place on: `count` pieces have been read, and `gap` says
whether a run was left out. -/
def isPieces : Nat → Nat → Bool → List Char → Bool
  | 0, _, _, _ => false
  | _, count, gap, [] => gap || count = 8
  | fuel + 1, count, gap, c :: rest =>
    if count ≥ 8 then false
    else if c = ':' then !gap && isPieces fuel (count + 1) true rest
    else
      let digits := ((c :: rest).take 4).takeWhile fun c => (hexValue c).isSome
      match (c :: rest).drop digits.length with
      | [] => isPieces fuel (count + 1) gap []
      | '.' :: _ =>
        !digits.isEmpty && count ≤ 6 && isFourBytes (c :: rest) && (gap || count = 6)
      | ':' :: after => !after.isEmpty && isPieces fuel (count + 1) gap after
      | _ => false

/-- Whether a text between brackets is an address. -/
def isBracketedAddress (s : List Char) : Bool :=
  match s with
  | ':' :: ':' :: rest => isPieces (rest.length + 2) 1 true rest
  | ':' :: _ => false
  | _ => s.length ≥ 2 && isPieces (s.length + 2) 0 false s

end PageAccessors.Url
