import PageAccessors.Yaml.Scalar.Value

/-!
# Values of YAML texts

A node gets its value by following aliases and resolving texts. Nodes may nest to a limit only,
and aliases may be followed a number of times that depends on the size of the document, so that a
short text cannot stand for a value out of all proportion. Where a node has a tag of its own, a
reader of data refuses it.
-/

namespace PageAccessors.Yaml

/-- How YAML speaks of a missing value and of numbers. -/
def wording : Wording := ⟨"unit value", .positional⟩

/-- A place in a value: the way to it by indices and keys; a key that is no text is not named. -/
inductive Place where
  | root
  | item (within : Place) (index : Nat)
  | field (within : Place) (key : Option String)

/-- The way to a place. -/
def Place.text : Place → String
  | root => "."
  | item p i => p.text ++ "[" ++ toString i ++ "]"
  | field root key => key.getD "?"
  | field p key => p.text ++ "." ++ key.getD "?"

/-- Why a text does not have the value that was asked for. A mismatch may be told with its place;
of a text that cannot be read at all, nothing more is told. -/
inductive Error where
  | unreadable
  | mismatch (place : Option Place) (m : Mismatch)
  | severalDocuments
  | tooManyAliases

/-- Whether an error is one of a place of the text. -/
def Error.isPlaced : Error → Bool
  | .unreadable => true
  | .mismatch place _ => place.isSome
  | .severalDocuments => false
  | .tooManyAliases => false

def Error.message : Error → String
  | .unreadable => "the text is not well-formed"
  | .mismatch none m => m.message wording
  | .mismatch (some .root) m => m.message wording
  | .mismatch (some place) m => place.text ++ ": " ++ m.message wording
  | .severalDocuments =>
    "deserializing from YAML containing more than one document is not supported"
  | .tooManyAliases => "repetition limit exceeded"

/-! ## Reading nodes -/

/-- Reading parts of a document; the state says how many aliases have been followed. -/
abbrev Reading := ReaderT Document (StateT Nat (Except Error))

/-- How deep lists and records may nest. -/
def depthLimit : Nat := 128

/-- A node, or the one that it stands for if it is an alias. -/
def follow : Node → Reading Node
  | .alias number => do
    modify (· + 1)
    let d ← read
    if (← get) > 100 * d.steps then throw .tooManyAliases
    match d.node? number with
    | some node => return node
    | none => throw .unreadable
  | node => return node

/-- Fails at a place. -/
def Reading.refuse {α : Type} (place : Place) (m : Mismatch) : Reading α :=
  throw (.mismatch (some place) m)

/-- The place of a value in a record, by its key. -/
def Place.ofKey (within : Place) : Node → Place
  | .scalar _ _ text => .field within (some text)
  | _ => .field within none

/-- The data of a text with a tag, at a place. -/
def dataOfScalar (place : Place) (tag : Option String) (style : Style) (text : String) :
    Reading Data :=
  if (tagName? tag).isSome then Reading.refuse place .taggedValue
  else match scalarValue "any value" tag style text with
    | .ok d => return d
    | .error m => Reading.refuse place m

/-- The items of a list with their places. -/
def itemsWithPlaces (place : Place) (items : List Node) : List (Place × Node) :=
  items.zipIdx.map fun (item, i) => (.item place i, item)

/-- The data of a node that may hold lists and records so deep. -/
def dataOf : Nat → Place → Node → Reading Data
  | depth, place, node => do
    match ← follow node with
    | .alias _ => throw .unreadable
    | .scalar tag style text => dataOfScalar place tag style text
    | .list tag items =>
      if (tagName? tag).isSome then Reading.refuse place .taggedValue
      match depth with
      | 0 => throw .unreadable
      | depth + 1 =>
        return .list (← (itemsWithPlaces place items).mapM fun (p, item) => dataOf depth p item)
    | .record tag fields =>
      if (tagName? tag).isSome then Reading.refuse place .taggedValue
      match depth with
      | 0 => throw .unreadable
      | depth + 1 =>
        return .record (← fields.mapM fun (key, value) => do
          return (← dataOf depth place key, ← dataOf depth (place.ofKey key) value))

/-! ## Reading texts -/

/-- The end of a document, once it has been understood. -/
def Following.check : Following → Except Error Unit
  | .nothing => .ok ()
  | .unreadable => .error .unreadable
  | .more => .error .severalDocuments

/-- What is read in a document. -/
def Reading.within {α : Type} (reading : Reading α) (d : Document) : Except Error α :=
  ((reading.run d).run 0).map Prod.fst

/-- Reads the node of a text; a text may hold none. -/
def readText {α : Type} (reader : Option Node → Reading α) (text : String) : Except Error α := do
  match First.ofText text with
  | .unreadable => throw .unreadable
  | .nothing => (reader none).within ⟨.missing, [], 1⟩
  | .document d following =>
    let a ← (reader (some d.root)).within d
    following.check
    return a

/-- The value of a text, given a meaning. -/
def decode {α : Type} (meaning : Data → Except Mismatch α) : String → Except Error α :=
  readText fun node => do
    let data ← match node with
      | none => pure .null
      | some node => dataOf depthLimit .root node
    match meaning data with
    | .ok a => return a
    | .error m => throw (.mismatch none m)

end PageAccessors.Yaml
