/-!
# Whole numbers

A whole number is written with ASCII digits and an optional sign in front. What may stand in a place is a
range of such numbers.
-/

namespace Planetarium.Numeral

/-- The value of a run of decimal digits. -/
def ofDigits (ds : List Char) : Nat := ds.foldl (fun n d => 10 * n + (d.toNat - '0'.toNat)) 0

/-- A sign in front, if there is one: whether it is a minus, and what follows. -/
def splitSign : List Char → Bool × List Char
  | '+' :: cs => (false, cs)
  | '-' :: cs => (true, cs)
  | cs => (false, cs)

/-- Reads a whole number of any size: an optional sign and at least one digit. -/
def whole? (cs : List Char) : Option Int :=
  let (negative, ds) := splitSign cs
  if ds ≠ [] && ds.all Char.isDigit then
    some (if negative then -(ofDigits ds : Int) else ofDigits ds)
  else none

/-- Reads a whole number between `low` and `high`. -/
def wholeIn? (low high : Int) (cs : List Char) : Option Int :=
  (whole? cs).filter fun n => low ≤ n && n ≤ high

/-- Reads a signed number of 32 bits. -/
def int32? (cs : List Char) : Option Int := wholeIn? (-0x80000000) 0x7fffffff cs

end Planetarium.Numeral
