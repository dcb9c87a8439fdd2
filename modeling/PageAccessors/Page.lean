import PageAccessors.Data
import PageAccessors.Locator

/-!
# Pages

A page as a descriptor declares it: what kind of declaration it was, its names, an optional start
address, and entries that carry locator markers. Nothing about a page has been judged yet.

A page has one canonical value (`Page.toData`), whose JSON text names the page's contents. Pages
are read from generic values (`Page.ofData?`): a record may be written as a record or as a list of
its fields in their declared order. A file holds a list of pages or a single page.
-/

namespace PageAccessors

/-- The kind of declaration that a page was taken from. -/
inductive Kind where
  | enum
  | ordinaryClass
  | dataClass
  | object
  | interface
  deriving DecidableEq

namespace Kind

def all : List Kind := [enum, ordinaryClass, dataClass, object, interface]

/-- The name of a kind in messages. -/
def toString : Kind → String
  | enum => "enum"
  | ordinaryClass => "class"
  | dataClass => "data class"
  | object => "object"
  | interface => "interface"

instance : ToString Kind := ⟨toString⟩

/-- The name of a kind in descriptors. -/
def key : Kind → String
  | dataClass => "data_class"
  | k => k.toString

def ofKey? (text : String) : Option Kind := all.find? fun k => k.key = text

theorem ofKey?_key (k : Kind) : ofKey? k.key = some k := by
  cases k <;> decide

end Kind

/-- What a marker says of its lookup: the text alone, or optionally the text and whether all
matching elements are wanted. -/
inductive MarkerArgs where
  | value (text : String)
  | detailed (text : Option String) (collect : Bool)
  deriving DecidableEq

/-- A locator marker of an entry. -/
structure Marker where
  strategy : Strategy
  args : MarkerArgs
  isMarker : strategy.isMarker := by decide
  deriving DecidableEq

namespace Marker

/-- The marker with a strategy. The lookup by id or name has no marker, and becomes the one by
id. -/
def ofArgs (strategy : Strategy) (args : MarkerArgs) : Marker :=
  if h : strategy.isMarker then ⟨strategy, args, h⟩ else ⟨.id, args, rfl⟩

/-- A marker for a text, which is written by itself unless all elements are wanted. -/
def make (strategy : Strategy) (text : String) (collect : Bool) : Marker :=
  ofArgs strategy (if collect then .detailed (some text) true else .value text)

/-- The lookup that a marker asks for; without a text it looks for the entry's name. -/
def locator (m : Marker) (entry : String) : Locator :=
  match m.args with
  | .value text => ⟨m.strategy, text, .single⟩
  | .detailed value collect => ⟨m.strategy, value.getD entry, .ofCollect collect⟩

end Marker

/-- An entry of a page. More than one marker is a mistake that is found later. -/
structure Entry where
  name : String
  markers : List Marker
  deriving DecidableEq

/-- A page as declared. -/
structure Page where
  name : String
  package : String
  kind : Kind
  className : Option String
  url : Option String
  entries : List Entry
  deriving DecidableEq

namespace Page

/-- A page without entries. -/
def empty (package name : String) : Page := ⟨name, package, .enum, none, none, []⟩

/-- A page with one entry that asks for nothing. -/
def bare (package name entry : String) : Page :=
  { empty package name with entries := [⟨entry, []⟩] }

end Page

/-! ## Canonical values -/

/-- A field that is left out when it has no value. -/
def optionalField (key : String) : Option String → List (String × Data)
  | none => []
  | some text => [(key, .text text)]

def MarkerArgs.toData : MarkerArgs → Data
  | .value text => .text text
  | .detailed text collect => .object (optionalField "value" text ++ [("collect", .bool collect)])

def Marker.toData (m : Marker) : Data := .object [(m.strategy.toString, m.args.toData)]

def Entry.toData (e : Entry) : Data :=
  .object <| ("name", .text e.name) ::
    if e.markers.isEmpty then [] else [("locators", .list (e.markers.map Marker.toData))]

def Page.toData (p : Page) : Data :=
  .object <|
    [("name", .text p.name), ("package", .text p.package), ("kind", .text p.kind.key)] ++
      optionalField "class_name" p.className ++ optionalField "url" p.url ++
      [("entries", .list (p.entries.map Entry.toData))]

/-! ## Reading -/

/-- The field that a record's key stands for: its name, or its number in the declared order. A
number past the last field, like an unknown name, stands for no field. -/
def fieldOfKey? (fields : List String) : Data → Option (Option String)
  | .text s => some (fields.find? (· == s))
  | .natural n => some fields[n]?
  | _ => none

/-- The known fields of a record; none if a key is neither a text nor a number, or if a field
appears twice. -/
def knownFields? (fields : List String) : List (Data × Data) → Option (List (String × Data))
  | [] => some []
  | (key, value) :: rest => do
    match ← fieldOfKey? fields key with
    | none => knownFields? fields rest
    | some field =>
      let known ← knownFields? fields rest
      if (known.lookup field).isSome then none else some ((field, value) :: known)

/-- The fields of a record, written as a record or as a list in their declared order. -/
def recordFields? (fields : List String) : Data → Option (List (String × Data))
  | .record members => knownFields? fields members
  | .list items => if items.length ≤ fields.length then some (fields.zip items) else none
  | _ => none

/-- A field with a default, read by `read` if it is there. -/
def fieldOr? {α : Type} (fields : List (String × Data)) (key : String) (default : α)
    (read : Data → Option α) : Option α :=
  match fields.lookup key with
  | none => some default
  | some value => read value

/-- The kind that a text names, also as the only key of a record without a value. -/
def Kind.ofData? : Data → Option Kind
  | .text s => ofKey? s
  | .record [(.text s, .null)] => ofKey? s
  | .record [(.natural n, .null)] => all[n]?
  | _ => none

/-- The details of a marker can only be written as a record. -/
def MarkerArgs.ofData? : Data → Option MarkerArgs
  | .text s => some (.value s)
  | .record members => do
    let fields ← knownFields? ["value", "collect"] members
    let text ← fieldOr? fields "value" none Data.optionalText?
    let collect ← fieldOr? fields "collect" false Data.bool?
    some (.detailed text collect)
  | _ => none

/-- The strategy of a marker's name. -/
def Marker.strategyOfName? (name : String) : Option { s : Strategy // s.isMarker } :=
  match Strategy.ofString? name with
  | some s => if h : s.isMarker then some ⟨s, h⟩ else none
  | none => none

/-- A marker is a record with one key, its strategy. -/
def Marker.ofData? : Data → Option Marker
  | .record [(.text name, value)] => do
    let ⟨strategy, h⟩ ← strategyOfName? name
    let args ← MarkerArgs.ofData? value
    some ⟨strategy, args, h⟩
  | _ => none

/-- A list each of whose elements is read by `read`. -/
def listOf? {α : Type} (read : Data → Option α) (d : Data) : Option (List α) :=
  d.list?.bind (List.mapM read)

def Entry.ofData? (d : Data) : Option Entry := do
  let fields ← recordFields? ["name", "locators"] d
  let name ← (← fields.lookup "name").text?
  let markers ← fieldOr? fields "locators" [] (listOf? Marker.ofData?)
  some ⟨name, markers⟩

def Page.ofData? (d : Data) : Option Page := do
  let fields ← recordFields? ["name", "package", "kind", "class_name", "url", "entries"] d
  let name ← (← fields.lookup "name").text?
  let package ← fieldOr? fields "package" "" Data.text?
  let kind ← fieldOr? fields "kind" .enum Kind.ofData?
  let className ← fieldOr? fields "class_name" none Data.optionalText?
  let url ← fieldOr? fields "url" none Data.optionalText?
  let entries ← fieldOr? fields "entries" [] (listOf? Entry.ofData?)
  some ⟨name, package, kind, className, url, entries⟩

/-- The pages of a descriptor file: a list of pages, or a single one. -/
def Page.listOfData (d : Data) : Except Mismatch (List Page) :=
  match listOf? Page.ofData? d with
  | some pages => .ok pages
  | none =>
    match Page.ofData? d with
    | some page => .ok [page]
    | none => .error (.noReading "DescriptorFile")

end PageAccessors
