/-!
# Identifiers

A name that Kotlin takes as it stands: not empty, made of ASCII letters, digits and underscores,
not starting with a digit, and no hard keyword. An `Identifier` carries the fact that no rule
refuses it, so that whatever is built from identifiers needs no further check.
-/

namespace PageAccessors

/-- Kotlin's hard keywords. -/
def reservedWords : List String :=
  ["as", "break", "class", "continue", "do", "else", "false", "for", "fun", "if", "in",
    "interface", "is", "null", "object", "package", "return", "super", "this", "throw", "true",
    "try", "typealias", "typeof", "val", "var", "when", "while"]

/-- Why a name is no identifier. -/
inductive NameFault where
  | empty
  | leadingDigit
  | invalidCharacter (c : Char)
  | reserved
  deriving DecidableEq

def NameFault.message : NameFault → String
  | .empty => "identifier cannot be empty"
  | .leadingDigit => "identifier cannot start with a digit"
  | .invalidCharacter c => "invalid character '" ++ String.ofList [c] ++ "'"
  | .reserved => "reserved word"

/-- The characters of an identifier: ASCII letters, digits and the underscore. -/
def isNameChar (c : Char) : Bool := c.isAlphanum || c = '_'

/-- The first rule that refuses a name, if one does. -/
def nameFault? (name : String) : Option NameFault :=
  match name.toList with
  | [] => some .empty
  | first :: rest =>
    if first.isDigit then some .leadingDigit
    else
      match (first :: rest).find? (fun c => !isNameChar c) with
      | some c => some (.invalidCharacter c)
      | none => if name ∈ reservedWords then some .reserved else none

/-- A name that no rule refuses. -/
structure Identifier where
  text : String
  accepted : nameFault? text = none
  deriving DecidableEq

instance : ToString Identifier := ⟨Identifier.text⟩

theorem Identifier.text_inj {i j : Identifier} : i.text = j.text ↔ i = j := by
  cases i
  cases j
  rw [Identifier.mk.injEq]

/-- The identifier of a name, or the first rule that refuses it. -/
def Identifier.ofString (name : String) : Except NameFault Identifier :=
  match h : nameFault? name with
  | none => .ok ⟨name, h⟩
  | some fault => .error fault

theorem Identifier.ofString_ok {name : String} {i : Identifier} :
    Identifier.ofString name = .ok i ↔ i.text = name := by
  constructor
  · intro h
    unfold ofString at h
    split at h <;> simp_all
    simp [← h]
  · rintro rfl
    unfold ofString
    split
    · rfl
    · rename_i h
      simp [i.accepted] at h

theorem Identifier.ofString_error {name : String} {fault : NameFault} :
    Identifier.ofString name = .error fault ↔ nameFault? name = some fault := by
  unfold ofString
  split <;> simp_all

/-- A name refused as an identifier, and why. -/
structure NameError where
  name : String
  fault : NameFault

def NameError.message (e : NameError) : String :=
  "Invalid identifier '" ++ e.name ++ "': " ++ e.fault.message

end PageAccessors
