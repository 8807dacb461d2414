import Planetarium.Numeral.Whole

/-!
# Decimal numerals

The grammar of the numbers in messages and settings, and their value in single precision.

* A numeral has an optional sign. It is followed by `inf`, `infinity` or `nan` in any letter case, or by
  digits with an optional point among, before or after them, and an optional exponent.
* The exact decimal value is rounded once, to the nearest number and to the even one of two that are equally
  near. What is too large becomes infinite and what is too small becomes zero, and both keep the sign.
-/

namespace Planetarium.Numeral

/-- A finite numeral: the number `mantissa * 10 ^ exponent`, negated if `negative`. -/
structure Decimal where
  negative : Bool
  mantissa : Nat
  exponent : Int
  deriving DecidableEq

/-- Reads the exponent that may follow the digits: nothing, or `e` with an optional sign and digits. -/
def exponent? : List Char → Option Int
  | [] => some 0
  | c :: cs => if c = 'e' || c = 'E' then whole? cs else none

/-- Reads digits with an optional point and exponent. At least one digit stands beside the point. -/
def decimal? (negative : Bool) (cs : List Char) : Option Decimal :=
  let integral := cs.takeWhile Char.isDigit
  let rest := cs.dropWhile Char.isDigit
  let (fraction, tail) :=
    match rest with
    | '.' :: ds => (ds.takeWhile Char.isDigit, ds.dropWhile Char.isDigit)
    | _ => ([], rest)
  let digits := integral ++ fraction
  if digits = [] then none
  else (exponent? tail).map fun e => ⟨negative, ofDigits digits, e - fraction.length⟩

/-- The magnitude of a decimal number. A mantissa of `b + 1` bits lies between `10 ^ (b / 10 * 3)` and
`10 ^ (b / 3 + 1)`. By these bounds a number from `10 ^ 42` on is infinite and one below `10 ^ (-50)` is zero,
so no large power of ten is formed for an exponent of any size. -/
def Decimal.magnitude (d : Decimal) : Float32 :=
  let b : Int := d.mantissa.log2
  if d.mantissa = 0 || b / 3 + 1 + d.exponent < -50 then 0
  else if 41 < b / 10 * 3 + d.exponent then 1 / 0
  else if d.exponent < 0 then Float32.ofScientific d.mantissa true d.exponent.natAbs
  else Float32.ofScientific d.mantissa false d.exponent.natAbs

/-- The number in single precision that is nearest to a decimal number. -/
def Decimal.round (d : Decimal) : Float32 := if d.negative then -d.magnitude else d.magnitude

/-- The numerals that are words. -/
def wordValue? (word : String) : Option Float32 :=
  match word with
  | "inf" => some (1 / 0)
  | "infinity" => some (1 / 0)
  | "nan" => some (0 / 0)
  | _ => none

/-- Reads a number in single precision. -/
def real? (cs : List Char) : Option Float32 :=
  let (negative, body) := splitSign cs
  match wordValue? (String.ofList (body.map Char.toLower)) with
  | some v => some (if negative then -v else v)
  | none => (decimal? negative body).map Decimal.round

end Planetarium.Numeral
