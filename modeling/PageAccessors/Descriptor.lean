import PageAccessors.Json.Record
import PageAccessors.Page
import PageAccessors.Path
import PageAccessors.Yaml.Field

/-!
# Descriptor texts

Pages are described in JSON or YAML, and the name of a file tells which of the two it is in. A
single marker can be read by itself as well; its text is then read strictly from front to back, so
that what is wrong first is reported.
-/

namespace PageAccessors

/-- The formats of descriptor files. -/
inductive Format where
  | yaml
  | json
  deriving DecidableEq

/-- The format of a file by its extension, in which case does not count. -/
def Format.ofPath? (p : Path) : Option Format :=
  match p.extension?.map String.toLower with
  | some "yaml" => some .yaml
  | some "yml" => some .yaml
  | some "json" => some .json
  | _ => none

/-- Why a descriptor text cannot be read. -/
inductive TextError where
  | json (e : Json.Error)
  | yaml (e : Yaml.Error)

/-- The pages that a text describes. -/
def Page.listOfText (format : Format) (text : String) : Except TextError (List Page) :=
  match format with
  | .yaml => (Yaml.decode Page.listOfData text).mapError .yaml
  | .json => (Json.decode Page.listOfData text).mapError .json

/-! ## Single names -/

/-- What a name stands for, written as a text or as the only key of a record without a value. -/
def chosen {α : Type} (choices : List (String × α)) (d : Data) : Except Mismatch α :=
  let choose (name : String) : Except Mismatch α :=
    match choices.lookup name with
    | some a => .ok a
    | none => .error (.unknownVariant name (choices.map Prod.fst))
  match d with
  | .text name => choose name
  | .record [(.text name, value)] => do
    let a ← choose name
    match value with
    | .null => .ok a
    | other => .error (.wrongType other.found "unit")
  | .record _ => .error (.wrongValue .record "map with a single key")
  | other => .error (.wrongType other.found "string or map")

/-- The strategy that a value names. -/
def Strategy.ofData : Data → Except Mismatch Strategy :=
  chosen (Strategy.all.map fun s => (s.toString, s))

/-- The kind that a value names. -/
def Kind.ofData : Data → Except Mismatch Kind := chosen (Kind.all.map fun k => (k.key, k))

/-! ## Single markers -/

namespace Marker

/-- What is expected where a marker stands. -/
def expected : String := "a single-key map from marker name to locator value"

/-- The names of the strategies that have markers. -/
def names : List String := (Strategy.all.filter Strategy.isMarker).map Strategy.toString

/-- The strategy that a marker's key names. -/
def strategyOfKey (key : String) : Except Mismatch { s : Strategy // s.isMarker } :=
  match strategyOfName? key with
  | some s => .ok s
  | none => .error (.unknownVariant key names)

/-- The marker of a strategy with a value. -/
def ofValue (strategy : { s : Strategy // s.isMarker }) (value : Data) : Except Mismatch Marker :=
  match MarkerArgs.ofData? value with
  | some args => .ok ⟨strategy, args, strategy.property⟩
  | none => .error (.noReading "MarkerArgs")

/-- Reads a marker from a YAML node. -/
def ofNode (node : Option Yaml.Node) : Yaml.Reading Marker := do
  match ← Yaml.recordFields expected .root node with
  | [] => Yaml.Reading.refuse .root (.wrongLength 0 expected)
  | (key, value) :: more =>
    let name ← Yaml.textField "a string" .root key
    match strategyOfKey name with
    | .error m => Yaml.Reading.refuse .root m
    | .ok strategy =>
      let place := Yaml.Place.ofKey .root key
      match ofValue strategy (← Yaml.dataOf (Yaml.depthLimit - 1) place value) with
      | .error m => Yaml.Reading.refuse .root m
      | .ok marker =>
        if more.isEmpty then return marker
        else Yaml.Reading.refuse .root (.wrongLength 2 expected)

/-- Reads a marker from JSON text. -/
def ofJson : Json.Reader Marker := fun s =>
  match Json.skipSpace s with
  | [] => .error ⟨.endInValue, [], 1⟩
  | '\x7b' :: rest => do
    let step : Except Json.Interrupt (Marker × List Char) := do
      match ← (Json.nextKey true rest).mapError .placed with
      | none => throw (.whole (.wrongLength 0 expected) rest)
      | some (key, rest) =>
        let strategy ← (strategyOfKey key).mapError (.whole · rest)
        let (value, rest) ← (do
          Json.value (Json.depthLimit - 1) (← Json.colon rest)).mapError .placed
        let marker ← (ofValue strategy value).mapError (.whole · rest)
        match ← (Json.nextKey false rest).mapError .placed with
        | none => pure (marker, rest)
        | some (_, rest) => throw (.whole (.wrongLength 2 expected) rest)
    let (marker, rest) ← step.mapError Json.Interrupt.inObject
    .ok (marker, (Json.skipSpace rest).drop 1)
  | rest => Json.refuse expected rest

/-- The marker of a text. -/
def ofText (format : Format) (text : String) : Except TextError Marker :=
  match format with
  | .yaml => (Yaml.readText ofNode text).mapError .yaml
  | .json => (Json.readAll ofJson text).mapError .json

end Marker

end PageAccessors
