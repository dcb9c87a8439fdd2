import PageAccessors.Yaml.Token

/-!
# Documents

A document is a node: a text, a list, a record, or an alias of a node that an anchor marks. Anchors
are numbered by how many names there were before, so an anchor that takes an earlier name may share
its number with the next new name; of the nodes with a number the last one is meant.

A file is read as a single document. What follows the document is told as well, since it is only
of interest once the document itself has been understood.
-/

namespace PageAccessors.Yaml

/-- A node, with its tag if it has one. A text without quotes may stand for another value. -/
inductive Node where
  | scalar (tag : Option String) (style : Style) (text : String)
  | list (tag : Option String) (items : List Node)
  | record (tag : Option String) (fields : List (Node × Node))
  | alias (number : Nat)
  deriving Inhabited

/-- The empty text without quotes, which stands where a node is left out. -/
def Node.missing : Node := .scalar none .plain ""

/-- A node that an anchor marks: the anchor's number, how many steps of the document come before
the node, and the node. -/
structure Anchored where
  number : Nat
  position : Nat
  node : Node

/-- A document: its node, its anchors, and the number of its steps, of which a text or an alias is
one and a list or record has one at its start and one at its end. -/
structure Document where
  root : Node
  anchored : List Anchored
  steps : Nat

/-- The last node with a number. -/
def Document.node? (d : Document) (number : Nat) : Option Node :=
  let candidates := d.anchored.filter (·.number = number)
  let last := candidates.foldl (fun best a =>
    match best with
    | some (b : Anchored) => if b.position < a.position then some a else some b
    | none => some a) none
  last.map Anchored.node

/-- What comes behind a document. -/
inductive Following where
  | nothing
  | unreadable
  | more
  deriving DecidableEq

/-- What a text holds first. -/
inductive First where
  | unreadable
  | nothing
  | document (d : Document) (following : Following)

/-! ## Reading -/

/-- A document in the middle of being read: the tokens to come, the meanings of tag handles, and
the anchors so far with their numbers. -/
structure Draft where
  tokens : List Token
  handles : List (String × String)
  names : List (String × Nat)
  anchored : List Anchored
  steps : Nat

/-- A step that reads part of a document. -/
abbrev Draft.Step := StateT Draft Option

namespace Draft

def peek : Step Token := fun d => d.tokens.head?.map (·, d)

def skip : Step Unit := modify fun d => { d with tokens := d.tokens.drop 1 }

/-- Counts a step of the document. -/
def count : Step Unit := modify fun d => { d with steps := d.steps + 1 }

/-- Skips the next token if it is the one that is asked for. -/
def skipIf (t : Token) : Step Bool := do
  if (← peek) = t then
    skip
    return true
  return false

/-- The numbers of anchors: as many names as there are already. -/
def nameAnchor (name : String) : Step Nat := fun d =>
  let number := d.names.length
  some (number, { d with names := (name, number) :: d.names.filter (·.1 ≠ name) })

/-- The number of an alias. -/
def numberOf (name : String) : Step Nat := fun d => (d.names.lookup name).map (·, d)

/-- The tag that is meant by a handle and what follows it. -/
def resolveTag (tag : Tag) : Step String := fun d =>
  if tag.handle.isEmpty then some (tag.suffix, d)
  else (d.handles.lookup tag.handle).map fun meaning => (meaning ++ tag.suffix, d)

/-- The anchor and the tag of a node, in either order. -/
def properties : Step (Option String × Option Tag) := do
  match ← peek with
  | .anchor name =>
    skip
    match ← peek with
    | .tag t =>
      skip
      return (some name, some t)
    | _ => return (some name, none)
  | .tag t =>
    skip
    match ← peek with
    | .anchor name =>
      skip
      return (some name, some t)
    | _ => return (none, some t)
  | _ => return (none, none)

/-- A node that was left out. -/
def missing : Step Node := do
  count
  return .missing

/-- Notes the node of an anchor. -/
def noteAnchor (number : Option Nat) (position : Nat) (node : Node) : Step Unit :=
  match number with
  | none => pure ()
  | some n => modify fun d => { d with anchored := ⟨n, position, node⟩ :: d.anchored }

/-- Whether the next token is one of some. -/
def next (ts : List Token) : Step Bool := do
  return ts.contains (← peek)

mutual

/-- A node, which may be by indentation, and which may be a list without indentation. -/
def node : Nat → Bool → Bool → Step Node
  | 0, _, _ => failure
  | fuel + 1, block, unindented => do
    match ← peek with
    | .alias name =>
      let number ← numberOf name
      skip
      count
      return .alias number
    | _ =>
      let (anchor, tag) ← properties
      let tag ← tag.mapM resolveTag
      let marked := anchor.isSome || tag.isSome
      let marking (read : Option Nat → Nat → Step Node) : Step Node := do
        let number ← anchor.mapM nameAnchor
        let position := (← get).steps
        count
        let n ← read number position
        noteAnchor number position n
        return n
      match ← peek with
      | .scalar style text =>
        skip
        marking fun _ _ => return .scalar tag style text
      | .blockEntry =>
        if unindented then
          marking fun _ _ => return .list tag (← unindentedItems fuel)
        else if marked then marking fun _ _ => return .scalar tag .plain ""
        else failure
      | .flowListStart =>
        skip
        marking fun _ _ => return .list tag (← flowItems fuel true)
      | .flowRecordStart =>
        skip
        marking fun _ _ => return .record tag (← flowFields fuel true)
      | .blockListStart =>
        if block then
          skip
          marking fun _ _ => return .list tag (← blockItems fuel)
        else if marked then marking fun _ _ => return .scalar tag .plain ""
        else failure
      | .blockRecordStart =>
        if block then
          skip
          marking fun _ _ => return .record tag (← blockFields fuel)
        else if marked then marking fun _ _ => return .scalar tag .plain ""
        else failure
      | _ =>
        if marked then marking fun _ _ => return .scalar tag .plain ""
        else failure

/-- A node, unless one of some tokens comes instead. -/
def nodeUnless : Nat → List Token → Bool → Bool → Step Node
  | 0, _, _, _ => failure
  | fuel + 1, ts, block, unindented => do
    if ← next ts then missing else node fuel block unindented

def blockItems : Nat → Step (List Node)
  | 0 => failure
  | fuel + 1 => do
    if ← skipIf .blockEntry then
      let item ← nodeUnless fuel [.blockEntry, .blockEnd] true false
      return item :: (← blockItems fuel)
    else if ← skipIf .blockEnd then
      count
      return []
    else failure

def unindentedItems : Nat → Step (List Node)
  | 0 => failure
  | fuel + 1 => do
    if ← skipIf .blockEntry then
      let item ← nodeUnless fuel [.blockEntry, .key, .value, .blockEnd] true false
      return item :: (← unindentedItems fuel)
    else
      count
      return []

def blockFields : Nat → Step (List (Node × Node))
  | 0 => failure
  | fuel + 1 => do
    if ← skipIf .key then
      let key ← nodeUnless fuel [.key, .value, .blockEnd] true true
      let value ←
        if ← skipIf .value then nodeUnless fuel [.key, .value, .blockEnd] true true else missing
      return (key, value) :: (← blockFields fuel)
    else if ← skipIf .blockEnd then
      count
      return []
    else failure

/-- The items of a list in brackets; a key among them makes a record of one field. -/
def flowItems : Nat → Bool → Step (List Node)
  | 0, _ => failure
  | fuel + 1, first => do
    if ← skipIf .flowListEnd then
      count
      return []
    if !first && !(← skipIf .flowEntry) then failure
    if ← skipIf .key then
      count
      let field ← pair fuel
      return .record none [field] :: (← flowItems fuel false)
    if ← skipIf .flowListEnd then
      count
      return []
    let item ← node fuel false false
    return item :: (← flowItems fuel false)

/-- The one field of a record among the items of a list. Where its key is left out, the token
behind the mark of the key is left out too. -/
def pair : Nat → Step (Node × Node)
  | 0 => failure
  | fuel + 1 => do
    let key ←
      if ← next [.value, .flowEntry, .flowListEnd] then
        skip
        missing
      else node fuel false false
    let value ←
      if ← skipIf .value then nodeUnless fuel [.flowEntry, .flowListEnd] false false else missing
    count
    return (key, value)

def flowFields : Nat → Bool → Step (List (Node × Node))
  | 0, _ => failure
  | fuel + 1, first => do
    if ← skipIf .flowRecordEnd then
      count
      return []
    if !first && !(← skipIf .flowEntry) then failure
    if ← skipIf .key then
      let key ← nodeUnless fuel [.value, .flowEntry, .flowRecordEnd] false false
      let value ←
        if ← skipIf .value then nodeUnless fuel [.flowEntry, .flowRecordEnd] false false
        else missing
      return (key, value) :: (← flowFields fuel false)
    if ← skipIf .flowRecordEnd then
      count
      return []
    let key ← node fuel false false
    let value ← missing
    return (key, value) :: (← flowFields fuel false)

end

/-- The directives of a document: the version at most once, and no handle twice. -/
def directives : Nat → Bool → Step Unit
  | 0, _ => failure
  | fuel + 1, versionSeen => do
    match ← peek with
    | .directive (.version major minor) =>
      if versionSeen || major ≠ 1 || (minor ≠ 1 && minor ≠ 2) then failure
      skip
      directives fuel true
    | .directive (.handle handle meaning) =>
      if ((← get).handles.lookup handle).isSome then failure
      skip
      modify fun d => { d with handles := d.handles ++ [(handle, meaning)] }
      directives fuel versionSeen
    | _ => pure ()

/-- The handles that need no directive. -/
def knownHandles : List (String × String) := [("!", "!"), ("!!", "tag:yaml.org,2002:")]

private def isDirective : Token → Bool
  | .directive _ => true
  | _ => false

/-- The node of the first document. -/
def root (fuel : Nat) : Step Node := do
  let first ← peek
  let explicit := isDirective first || first = .documentStart
  if explicit then
    directives fuel false
    if !(← skipIf .documentStart) then failure
  modify fun d => { d with handles := d.handles ++ knownHandles }
  let t ← peek
  if explicit && (isDirective t || t = .documentStart || t = .documentEnd || t = .streamEnd) then
    missing
  else node fuel true false

end Draft

/-- What follows a document: tokens that end it, and then nothing or anything else. -/
private def following (tokens : List Token) : Following :=
  match tokens with
  | [] => .unreadable
  | _ =>
    match tokens.dropWhile (· = .documentEnd) with
    | .streamEnd :: _ => .nothing
    | _ => .more

/-- The first document of a text. -/
def First.ofTokens (tokens : List Token) : First :=
  match tokens with
  | .streamEnd :: _ => .nothing
  | _ =>
    let fuel := 4 * tokens.length + 4
    match Draft.root fuel ⟨tokens, [], [], [], 0⟩ with
    | none => .unreadable
    | some (node, draft) => .document ⟨node, draft.anchored, draft.steps⟩ (following draft.tokens)

/-- The first document of a text. -/
def First.ofText (text : String) : First := .ofTokens (tokens text)

end PageAccessors.Yaml
