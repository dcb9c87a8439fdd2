import PageAccessors.Yaml.Value

/-!
# Well-formed texts

A text is well-formed if it holds one value, whatever tags its nodes have, and if no record of it
has two equal keys. Records are equal whatever the order of their fields.
-/

namespace PageAccessors.Yaml

/-- A value with the tags of its nodes. -/
inductive Value where
  | scalar (d : Data)
  | list (items : List Value)
  | record (fields : List (Value × Value))
  | tagged (name : String) (value : Value)
  deriving Inhabited

def withTag (tag : Option String) (v : Value) : Value :=
  match tagName? tag with
  | some name => .tagged name v
  | none => v

/-- The value of a node that may hold lists and records so deep. -/
def valueOf : Nat → Node → Reading Value
  | depth, node => do
    match ← follow node with
    | .alias _ => throw .unreadable
    | .scalar tag style text =>
      match scalarValue "any value" tag style text with
      | .ok d => return withTag tag (.scalar d)
      | .error _ => throw .unreadable
    | .list tag items =>
      match depth with
      | 0 => throw .unreadable
      | depth + 1 => return withTag tag (.list (← items.mapM (valueOf depth)))
    | .record tag fields =>
      match depth with
      | 0 => throw .unreadable
      | depth + 1 =>
        return withTag tag (.record (← fields.mapM fun (key, value) => do
          return (← valueOf depth key, ← valueOf depth value)))

namespace Value

def sameScalar : Data → Data → Bool
  | .null, .null => true
  | .bool a, .bool b => a = b
  | .natural a, .natural b => a = b
  | .negative a, .negative b => a = b
  | .natural a, .negative b => a = 0 && b = 0
  | .negative a, .natural b => a = 0 && b = 0
  | .float a, .float b => a == b || (a.isNaN && b.isNaN)
  | .text a, .text b => a = b
  | _, _ => false

mutual

/-- Whether two values are equal as keys. -/
def same : Value → Value → Bool
  | .scalar a, .scalar b => sameScalar a b
  | .list as, .list bs => sameItems as bs
  | .record as, .record bs => as.length = bs.length && sameFields as bs
  | .tagged n a, .tagged m b => n = m && same a b
  | _, _ => false

def sameItems : List Value → List Value → Bool
  | [], [] => true
  | a :: as, b :: bs => same a b && sameItems as bs
  | _, _ => false

/-- Whether each of some fields is among others. -/
def sameFields : List (Value × Value) → List (Value × Value) → Bool
  | [], _ => true
  | (key, v) :: rest, others =>
    others.any (fun other => same key other.1 && same v other.2) && sameFields rest others

end

def distinctKeys : List Value → Bool
  | [] => true
  | key :: rest => !rest.any (key.same ·) && distinctKeys rest

mutual

/-- Whether no record in a value has two equal keys. -/
def keysDistinct : Value → Bool
  | .scalar _ => true
  | .list items => itemsKeysDistinct items
  | .record fields => distinctKeys (fields.map Prod.fst) && fieldsKeysDistinct fields
  | .tagged _ v => keysDistinct v

def itemsKeysDistinct : List Value → Bool
  | [] => true
  | v :: rest => keysDistinct v && itemsKeysDistinct rest

def fieldsKeysDistinct : List (Value × Value) → Bool
  | [] => true
  | (key, v) :: rest => keysDistinct key && keysDistinct v && fieldsKeysDistinct rest

end

end Value

/-- Whether a text holds one value with distinct keys. -/
def isWellFormed (text : String) : Bool :=
  let value := readText (fun node => match node with
    | none => pure (.scalar .null)
    | some node => valueOf depthLimit node) text
  match value with
  | .ok v => v.keysDistinct
  | .error _ => false

/-- What is told of an error in a text. Of a text that is not well-formed, nothing more is told. -/
def Error.inText (text : String) (e : Error) : Error := if isWellFormed text then e else .unreadable

end PageAccessors.Yaml
