/-!
# The fewest digits that read back

A finite binary floating point number is a whole number times a power of two, and the reals that
round to it form an interval around it. Its text takes the shortest decimal of that interval, and
of two equally short ones the nearer. A notation says which decimals are written out by place, with
a point; all others take an exponent.
-/

namespace PageAccessors.Decimal

/-- A positive number `mantissa * 2 ^ exponent`. The flag says that the gap to the next smaller
number is half the gap to the next larger one. -/
structure Binary where
  mantissa : Nat
  exponent : Int
  narrowBelow : Bool

/-- A decimal `digits * 10 ^ exponent`. -/
structure Digits where
  digits : Nat
  exponent : Int

/-- The magnitude of a finite number other than zero, from its bits. -/
def Binary.ofBits (bits : UInt64) : Binary :=
  let fraction := (bits &&& 0xFFFFFFFFFFFFF).toNat
  let power := ((bits >>> 52) &&& 0x7FF).toNat
  if power = 0 then ⟨fraction, -1074, false⟩
  else ⟨fraction + 1 <<< 52, (power : Int) - 1075, fraction = 0 && power > 1⟩

/-- A fraction of two naturals: `a * base ^ e`, kept exact for either sign of `e`. -/
private def scaled (a base : Nat) (e : Int) : Nat × Nat :=
  if 0 ≤ e then (a * base.pow e.toNat, 1) else (a, base.pow (-e).toNat)

private def ratioLt (x y : Nat × Nat) : Bool := x.1 * y.2 < y.1 * x.2
private def ratioLe (x y : Nat × Nat) : Bool := x.1 * y.2 ≤ y.1 * x.2

/-- Whether a decimal lies in the interval of the reals that round to the number; its two ends
belong to it when the mantissa is even. -/
def Binary.readsBack (b : Binary) (d : Digits) : Bool :=
  let low := scaled (4 * b.mantissa - if b.narrowBelow then 1 else 2) 2 (b.exponent - 2)
  let high := scaled (4 * b.mantissa + 2) 2 (b.exponent - 2)
  let value := scaled d.digits 10 d.exponent
  if b.mantissa % 2 = 0 then ratioLe low value && ratioLe value high
  else ratioLt low value && ratioLt value high

/-- The least `k` up to `limit` with `x < 10 ^ k`, going up from `k`. -/
private def scaleFrom (x : Nat × Nat) : Nat → Int → Int
  | 0, k => k
  | limit + 1, k => if ratioLt x (scaled 1 10 k) then k else scaleFrom x limit (k + 1)

/-- The nearest decimal of `count` digits that reads back, if one of the two neighbours of the
number on that grid does. -/
private def Binary.atPlaces? (b : Binary) (scale : Int) (count : Nat) : Option Digits :=
  let value := scaled b.mantissa 2 b.exponent
  let step := scale - count
  let unit := scaled 1 10 step
  let below := value.1 * unit.2 / (value.2 * unit.1)
  let lower : Digits := ⟨below, step⟩
  let upper : Digits := ⟨below + 1, step⟩
  let twice := (2 * value.1, value.2)
  let middle := scaled (2 * below + 1) 10 step
  match b.readsBack lower, b.readsBack upper with
  | true, true => some (if ratioLt middle twice then upper
      else if ratioLt twice middle then lower else if below % 2 = 0 then lower else upper)
  | true, false => some lower
  | false, true => some upper
  | false, false => none

/-- The shortest decimal that reads back, and of two such the nearer. Seventeen digits always
read back. -/
def Binary.shortest (b : Binary) : Digits :=
  let scale := scaleFrom (scaled b.mantissa 2 b.exponent) 640 (-324)
  ((List.range 17).findSome? fun i => b.atPlaces? scale (i + 1)).getD ⟨b.mantissa, 0⟩

/-- A decimal written out by place, with a point and at least one digit on either side of it. -/
def Digits.positional (d : Digits) : String :=
  let digits := (toString d.digits).toList
  let zeros (n : Nat) := List.replicate n '0'
  String.ofList <|
    if 0 ≤ d.exponent then digits ++ zeros d.exponent.toNat ++ ['.', '0']
    else
      let places := (-d.exponent).toNat
      if places < digits.length then
        digits.take (digits.length - places) ++ '.' :: digits.drop (digits.length - places)
      else '0' :: '.' :: zeros (places - digits.length) ++ digits

/-- The digits without the zeros at their end. -/
private def withoutZeros : Nat → Digits → Digits
  | 0, d => d
  | fuel + 1, d =>
    if d.digits % 10 = 0 && d.digits ≠ 0 then withoutZeros fuel ⟨d.digits / 10, d.exponent + 1⟩
    else d

/-- The place of the point behind the first digit of a decimal. -/
def Digits.place (d : Digits) : Int := (toString d.digits).length + d.exponent

/-- A decimal as one digit before the point, the others behind it, and an exponent. -/
def Digits.scientific (d : Digits) : String :=
  let power := toString (d.place - 1)
  match (toString d.digits).toList with
  | [] => "0"
  | [c] => String.ofList [c, 'e'] ++ power
  | c :: more => String.ofList (c :: '.' :: more) ++ "e" ++ power

/-- Which places of the point are written out, the others taking an exponent. -/
abbrev Notation := Int → Bool

/-- Every number is written out by place. -/
def Notation.positional : Notation := fun _ => true

/-- Numbers from `0.00001` up to sixteen digits before the point are written out by place. -/
def Notation.short : Notation := fun place => -5 < place && place ≤ 16

/-- The text of a floating point number; the infinite ones and `NaN` go by name. -/
def text (layout : Notation) (x : Float) : String :=
  let bits := x.toBits
  let negative := bits >>> 63 = 1
  let magnitude := bits &&& 0x7FFFFFFFFFFFFFFF
  if magnitude > 0x7FF0000000000000 then "NaN"
  else
    (if negative then "-" else "") ++
      if magnitude = 0x7FF0000000000000 then "inf"
      else if magnitude = 0 then "0.0"
      else
        let d := withoutZeros 20 (Binary.ofBits magnitude).shortest
        if layout d.place then d.positional else d.scientific

end PageAccessors.Decimal
