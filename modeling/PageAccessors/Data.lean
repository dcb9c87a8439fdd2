import PageAccessors.Decimal.Shortest
import PageAccessors.Text.Escaped

/-!
# Generic values

What a descriptor file, a manifest or a settings file holds before it is given a meaning: scalars,
lists and records, the same whichever format it was written in. A `Mismatch` says why a value
cannot be given the meaning that was asked for.
-/

namespace PageAccessors

/-- A generic value. The keys of a record may be any values, and may repeat. -/
inductive Data where
  | null
  | bool (b : Bool)
  | natural (n : Nat)
  | negative (magnitude : Nat)
  | float (x : Float)
  | text (s : String)
  | list (items : List Data)
  | record (fields : List (Data × Data))
  deriving Inhabited

namespace Data

/-- A record whose keys are texts. -/
def object (fields : List (String × Data)) : Data :=
  .record (fields.map fun (key, value) => (.text key, value))

def bool? : Data → Option Bool
  | .bool b => some b
  | _ => none

def text? : Data → Option String
  | .text s => some s
  | _ => none

/-- A text or nothing: a null is read as nothing. -/
def optionalText? : Data → Option (Option String)
  | .null => some none
  | .text s => some (some s)
  | _ => none

def list? : Data → Option (List Data)
  | .list items => some items
  | _ => none

end Data

/-- How the formats tell the kinds of values apart in messages. An integer of more than 64 bits is
wide, and no value. -/
inductive Found where
  | null
  | bool (b : Bool)
  | integer (i : Int)
  | wide (i : Int)
  | float (x : Float)
  | text (s : String)
  | list
  | record

def Data.found : Data → Found
  | .null => .null
  | .bool b => .bool b
  | .natural n => .integer n
  | .negative m => .integer (-m)
  | .float x => .float x
  | .text s => .text s
  | .list _ => .list
  | .record _ => .record

/-- The words in which a format speaks of a value without content and of numbers. -/
structure Wording where
  null : String
  numbers : Decimal.Notation

def Found.message (w : Wording) : Found → String
  | .null => w.null
  | .bool b => "boolean `" ++ toString b ++ "`"
  | .integer i => "integer `" ++ toString i ++ "`"
  | .wide i => "integer `" ++ toString i ++ "` as " ++ (if i < 0 then "i128" else "u128")
  | .float x => "floating point `" ++ Decimal.text w.numbers x ++ "`"
  | .text s => "string " ++ Text.quote s
  | .list => "sequence"
  | .record => "map"

/-- Why a value does not have the meaning that was asked for. -/
inductive Mismatch where
  | wrongType (found : Found) (expected : String)
  | wrongValue (found : Found) (expected : String)
  | wrongLength (length : Nat) (expected : String)
  | unknownVariant (name : String) (known : List String)
  | missingField (name : String)
  | duplicateField (name : String)
  | noReading (type : String)
  | taggedValue

namespace Mismatch

/-- The names one of which was expected. -/
private def choices : List String → String
  | [] => "there are no variants"
  | [a] => "expected `" ++ a ++ "`"
  | [a, b] => "expected `" ++ a ++ "` or `" ++ b ++ "`"
  | names => "expected one of " ++ ", ".intercalate (names.map fun n => "`" ++ n ++ "`")

def message (w : Wording) : Mismatch → String
  | .wrongType found expected => "invalid type: " ++ found.message w ++ ", expected " ++ expected
  | .wrongValue found expected => "invalid value: " ++ found.message w ++ ", expected " ++ expected
  | .wrongLength n expected => "invalid length " ++ toString n ++ ", expected " ++ expected
  | .unknownVariant name known => "unknown variant `" ++ name ++ "`, " ++ choices known
  | .missingField name => "missing field `" ++ name ++ "`"
  | .duplicateField name => "duplicate field `" ++ name ++ "`"
  | .noReading type => "data did not match any variant of untagged enum " ++ type
  | .taggedValue => "untagged and internally tagged enums do not support enum input"

end Mismatch

end PageAccessors
