/-!
# Tables of characters

A class of characters is given by ranges of their numbers, first and last included. What belongs to
single characters is given by words, each of which is a character with a text behind it.
-/

namespace PageAccessors.Url

/-- Whether a character lies in one of some ranges. -/
def inRanges (ranges : Array (Nat × Nat)) (c : Char) : Bool :=
  ranges.any fun (low, high) => low ≤ c.toNat && c.toNat ≤ high

/-- The words of a table. -/
def wordsOf (table : Array String) : List (List Char) :=
  table.toList.flatMap fun line => line.toList.splitOn ' '

/-- The text behind a character in a table. -/
def textIn? (table : Array String) (c : Char) : Option (List Char) :=
  (wordsOf table).findSome? fun word => if word.head? = some c then some word.tail else none

end PageAccessors.Url
