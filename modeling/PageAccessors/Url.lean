import PageAccessors.Url.Address
import PageAccessors.Url.Domain

/-!
# Start addresses

Reading a text as an absolute address. An address has a scheme; for the schemes of the web any
slashes may stand before the host, for files two of them, and for all other schemes exactly two
stand before a host if there is one. The host of a web address is a domain name or a network
address; other schemes allow any text free of delimiters.

Nothing of an address matters to pages but whether it has a host, so that a host is given as the
address spells it.
-/

namespace PageAccessors.Url

/-- A reader of addresses. It tells of a text why it is no address, or else the host of the address,
if it has one. -/
abbrev Parser := String → Except String (Option String)

/-- Why a text is no address. -/
inductive Fault where
  | relative
  | emptyHost
  | invalidHostNumber
  | invalidDomain
  | invalidDottedAddress
  | invalidBracketedAddress
  | invalidHostCharacter
  deriving DecidableEq

def Fault.message : Fault → String
  | .relative => "relative URL without a base"
  | .emptyHost => "empty host"
  | .invalidHostNumber => "invalid port number"
  | .invalidDomain => "invalid international domain name"
  | .invalidDottedAddress => "invalid IPv4 address"
  | .invalidBracketedAddress => "invalid IPv6 address"
  | .invalidHostCharacter => "invalid domain character"

/-- How a scheme treats what follows it. -/
inductive SchemeClass where
  | web
  | file
  | other
  deriving DecidableEq

def SchemeClass.ofScheme (scheme : String) : SchemeClass :=
  if scheme ∈ ["http", "https", "ws", "wss", "ftp"] then .web
  else if scheme = "file" then .file
  else .other

/-- A text as it is read: without controls and blanks at its ends, and without tabs and line ends
anywhere. -/
def significant (s : List Char) : List Char :=
  let outer (c : Char) : Bool := c.toNat ≤ 0x20
  let trimmed := ((s.dropWhile outer).reverse.dropWhile outer).reverse
  trimmed.filter fun c => c ≠ '\t' && c ≠ '\n' && c ≠ '\r'

/-- The scheme of an address in lower case, and what follows its colon. -/
def scheme? (s : List Char) : Option (String × List Char) :=
  let isSchemeChar (c : Char) : Bool := c.isAlphanum || c = '+' || c = '-' || c = '.'
  let front := s.takeWhile isSchemeChar
  match front.head?, s.drop front.length with
  | some first, ':' :: rest =>
    if first.isAlpha then some (String.ofList (front.map Char.toLower), rest) else none
  | _, _ => none

/-- The characters that end the part of an address before its path. -/
def endsAuthority (c : SchemeClass) (x : Char) : Bool :=
  x = '/' || x = '?' || x = '#' || (x = '\\' && c ≠ .other)

/-- What follows the name and password in front of a host, and whether there was one. -/
def afterUser (c : SchemeClass) (s : List Char) : Except Fault (Bool × List Char) :=
  let authority := s.takeWhile (!endsAuthority c ·)
  if !authority.contains '@' then .ok (false, s)
  else
    let host := (authority.reverse.takeWhile (· ≠ '@')).reverse
    let user := authority.take (authority.length - host.length - 1)
    let rest := host ++ s.drop authority.length
    if user.isEmpty then
      match rest with
      | [] => .ok (false, rest)
      | x :: _ => if endsAuthority c x then .error .emptyHost else .ok (false, rest)
    else .ok (user ≠ [':'], rest)

/-- The characters of a host and what follows them. A colon ends the host outside of brackets. -/
def splitHost (c : SchemeClass) (inside : Bool) : List Char → List Char × List Char
  | [] => ([], [])
  | x :: rest =>
    if (x = ':' && !inside) || endsAuthority c x then ([], x :: rest)
    else
      let inside := if x = '[' then true else if x = ']' then false else inside
      let (host, after) := splitHost c inside rest
      (x :: host, after)

/-- A host in brackets, if the text starts with one. -/
def bracketed? (host : List Char) : Option (Except Fault Unit) :=
  match host with
  | '[' :: inner =>
    some <|
      if inner.getLast? = some ']' && isBracketedAddress inner.dropLast then .ok ()
      else .error .invalidBracketedAddress
  | _ => none

/-- The host of a web or file address, in labels; none if it is a network address. -/
def checkDomain (host : List Char) : Except Fault (Option (List (List Char))) :=
  match bracketed? host with
  | some result => result.map fun _ => none
  | none =>
    match domain? host with
    | none => .error .invalidDomain
    | some labels =>
      if labels.all List.isEmpty && labels.length ≤ 1 then .error .emptyHost
      else if endsInNumber labels then
        if isDottedAddress labels then .ok none else .error .invalidDottedAddress
      else .ok (some labels)

/-- The host of an address of another scheme. -/
def checkOpaque (host : List Char) : Except Fault Unit :=
  match bracketed? host with
  | some result => result
  | none =>
    if host.any fun c => c ∈ ['\x00', '\t', '\n', '\r', ' ', '#', '/', ':', '<', '>', '?', '@', '[',
        '\\', ']', '^', '|'] then .error .invalidHostCharacter
    else .ok ()

/-- The number behind a host is below `2 ^ 16`, or left out, and ends where the path starts. -/
def checkHostNumber (s : List Char) : Except Fault Unit :=
  let digits := s.takeWhile Char.isDigit
  let n := digits.foldl (fun n c => n * 10 + (c.toNat - '0'.toNat)) 0
  let ends : Bool :=
    match s.drop digits.length with
    | [] => true
    | c :: _ => c ∈ ['/', '\\', '?', '#']
  if n < 1 <<< 16 && ends then .ok () else .error .invalidHostNumber

/-- The host of an address, from what follows its slashes. A name or a number needs a host. -/
def authorityHost (c : SchemeClass) (s : List Char) : Except Fault (Option (List Char)) := do
  let (hasUser, s) ← afterUser c s
  let (host, after) := splitHost c false s
  if host.isEmpty then
    if c = .web || after.head? = some ':' || hasUser then throw .emptyHost
    return none
  if c = .other then checkOpaque host else let _ ← checkDomain host
  match after with
  | ':' :: number => checkHostNumber number
  | _ => pure ()
  return some host

/-- A letter and a colon or bar, which stand for a drive. -/
def isDrive (s : List Char) : Bool :=
  match s with
  | [letter, mark] => letter.isAlpha && (mark = ':' || mark = '|')
  | _ => false

/-- The host of a file address, from what follows its scheme. The local host and one in front of a
drive are no hosts. -/
def fileHost (s : List Char) : Except Fault (Option (List Char)) :=
  let slash (c : Char) : Bool := c = '/' || c = '\\'
  match s with
  | a :: b :: rest =>
    if slash a && slash b then do
      let host := rest.takeWhile (!endsAuthority .file ·)
      if host.isEmpty || isDrive host then return none
      let labels ← checkDomain host
      let drive : Bool :=
        match rest.drop host.length with
        | c :: path => slash c && isDrive (path.takeWhile (!endsAuthority .file ·))
        | [] => false
      return if labels = some ["localhost".toList] || drive then none else some host
    else .ok none
  | _ => .ok none

/-- The host of an address, if it has one. -/
def host? (text : String) : Except Fault (Option (List Char)) :=
  match scheme? (significant text.toList) with
  | none => .error .relative
  | some (scheme, rest) =>
    match SchemeClass.ofScheme scheme with
    | .web => authorityHost .web (rest.dropWhile fun c => c = '/' || c = '\\')
    | .file => fileHost rest
    | .other =>
      match rest with
      | '/' :: '/' :: rest => authorityHost .other rest
      | _ => .ok none

/-- The reader of addresses. -/
def parse : Parser := fun text =>
  (host? text).map (·.map String.ofList) |>.mapError Fault.message

end PageAccessors.Url
