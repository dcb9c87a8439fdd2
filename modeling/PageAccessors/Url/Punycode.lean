/-!
# Punycode

Reading the ASCII form of a host label that holds other characters. The characters in front of the
last hyphen stand for themselves; what follows it is a sequence of numbers, each of which says
which character comes next, in ascending order, and where it goes. Numbers are written with a
varying base that follows the sizes of the numbers before.
-/

namespace PageAccessors.Url.Punycode

/-- The value of a digit: letters first, then numerals. -/
def digit? (c : Char) : Option Nat :=
  if c.isLower then some (c.toNat - 'a'.toNat)
  else if c.isUpper then some (c.toNat - 'A'.toNat)
  else if c.isDigit then some (c.toNat - '0'.toNat + 26)
  else none

/-- The value from which on the digit at a place is not the last of its number. -/
def threshold (place bias : Nat) : Nat := min (max (place - bias) 1) 26

/-- Divides a step down to the range of a single digit, counting the places that takes. -/
def settle (step places : Nat) : Nat :=
  if step > 455 then settle (step / 35) (places + 36) else places + 36 * step / (step + 38)
termination_by step
decreasing_by exact Nat.div_lt_self (by omega) (by decide)

/-- The bias after a number that moved `step` places among `count` characters. -/
def adapt (step count : Nat) (first : Bool) : Nat :=
  let step := if first then step / 700 else step / 2
  settle (step + step / count) 0

/-- Reads one number and adds it to `total`; gives the sum and what is left. -/
def number? (bias : Nat) : List Char → Nat → Nat → Nat → Option (Nat × List Char)
  | [], _, _, _ => none
  | c :: rest, place, weight, total => do
    let d ← digit? c
    let total := total + d * weight
    let t := threshold place bias
    if d < t then some (total, rest) else number? bias rest (place + 36) (weight * (36 - t)) total

theorem number?_length {bias place weight total n : Nat} {s rest : List Char}
    (h : number? bias s place weight total = some (n, rest)) : rest.length < s.length := by
  induction s generalizing place weight total with
  | nil => simp [number?] at h
  | cons c tail ih =>
    simp only [number?, Option.bind_eq_bind, Option.bind_eq_some_iff] at h
    obtain ⟨d, -, h⟩ := h
    split at h
    · simp only [Option.some.injEq, Prod.mk.injEq] at h
      simp [← h.2]
    · have := ih h
      simp only [List.length_cons]
      omega

/-- Puts the characters that some numbers describe into a label. -/
def insertAll (bias code place : Nat) (label s : List Char) : Option (List Char) :=
  match s with
  | [] => some label
  | c :: rest =>
    match h : number? bias (c :: rest) 36 1 place with
    | none => none
    | some (n, left) =>
      have := number?_length h
      let count := label.length + 1
      let code := code + n / count
      if code.isValidChar then
        insertAll (adapt (n - place) count (place = 0)) code (n % count + 1)
          (label.insertIdx (n % count) (Char.ofNat code)) left
      else none
termination_by s.length
decreasing_by assumption

/-- The label that a text stands for, without the mark in front of it. -/
def decode? (s : List Char) : Option (List Char) :=
  let front := s.reverse.dropWhile (· ≠ '-')
  let basic := (front.drop 1).reverse
  let coded := s.drop front.length
  insertAll 72 128 0 basic coded

end PageAccessors.Url.Punycode
