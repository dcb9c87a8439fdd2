import PageAccessors.Yaml.Value

/-!
# Fields of a known kind

Where it is known what a node has to be, its text is read as just that: a text field takes any text
as it is written, whatever else the text could stand for.
-/

namespace PageAccessors.Yaml

/-- Refuses a node, where something else was expected. -/
def refuseNode {α : Type} (expected : String) (place : Place) (node : Node) : Reading α :=
  match node with
  | .scalar tag style text =>
    Reading.refuse place (match scalarValue expected tag style text with
      | .ok d => .wrongType d.found expected
      | .error m => m)
  | .list _ _ => Reading.refuse place (.wrongType .list expected)
  | .record _ _ => Reading.refuse place (.wrongType .record expected)
  | .alias _ => throw .unreadable

/-- A text as it is written. -/
def textField (expected : String) (place : Place) (node : Node) : Reading String := do
  match ← follow node with
  | .scalar _ _ text => return text
  | node => refuseNode expected place node

/-- Whether a text may stand for something of the format's own kind `name`. -/
def mayStandFor (name : String) (tag : Option String) (style : Style) : Bool :=
  style = .plain || (style = .literal && tag = some (coreTag name))

/-- A natural number of at most 64 bits. -/
def naturalField (place : Place) (node : Node) : Reading Nat := do
  let node ← follow node
  match node with
  | .scalar tag style text =>
    match if mayStandFor "int" tag style then natural? text.toList else none with
    | some n => if n < 1 <<< 64 then return n else refuseNode "usize" place node
    | none => refuseNode "usize" place node
  | node => refuseNode "usize" place node

def boolField (place : Place) (node : Node) : Reading Bool := do
  let node ← follow node
  match node with
  | .scalar tag style text =>
    match if mayStandFor "bool" tag style then boolOfText? text else none with
    | some b => return b
    | none => refuseNode "a boolean" place node
  | node => refuseNode "a boolean" place node

/-- What a name stands for. -/
def choose {α : Type} (choices : List (String × α)) (place : Option Place) (name : String) :
    Reading α :=
  match choices.lookup name with
  | some a => return a
  | none => throw (.mismatch place (.unknownVariant name (choices.map Prod.fst)))

/-- What is left of a node whose tag names a variant: there has to be nothing else. -/
def nothingElse (place : Place) (node : Node) : Reading Unit := do
  match node with
  | .scalar tag style text =>
    unless (style = .plain || (style = .literal && tag = some (coreTag "null"))) &&
        standsForNull text do
      Reading.refuse place (.wrongValue (.text text) "null")
  | node => refuseNode "unit" place node

/-- A choice that is named by a tag; nothing else may be said of the node. -/
def chooseByTag {α : Type} (choices : List (String × α)) (name : String) (place : Place)
    (node : Node) : Reading α := do
  let a ← choose choices none name
  nothingElse place node
  return a

/-- One of some choices, named by a text or by the tag of nothing. -/
def variantField {α : Type} (choices : List (String × α)) (place : Place) (node : Node) :
    Reading α := do
  let node ← follow node
  match node with
  | .alias _ => throw .unreadable
  | .scalar tag _ text =>
    match tagName? tag with
    | none => choose choices (some place) text
    | some name => chooseByTag choices name place node
  | .list tag _ =>
    match tagName? tag with
    | none => Reading.refuse place (.wrongType .list "a YAML tag starting with '!'")
    | some name => chooseByTag choices name place node
  | .record tag _ =>
    match tagName? tag with
    | none => Reading.refuse place (.wrongType .record "a YAML tag starting with '!'")
    | some name => chooseByTag choices name place node

/-- The fields of a record; an empty text and an empty file stand for one without fields. -/
def recordFields (expected : String) (place : Place) : Option Node → Reading (List (Node × Node))
  | none => return []
  | some node => do
    let node ← follow node
    match node with
    | .record _ fields => return fields
    | .scalar _ .plain "" => return []
    | node => refuseNode expected place node

end PageAccessors.Yaml
