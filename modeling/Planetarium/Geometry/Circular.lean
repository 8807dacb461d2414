import Planetarium.Numeral.Single

/-!
# Circular functions

Sine, cosine and arc cosine in single precision, each rounded once from a value that is exact to more than
seventy binary places. The computation is in whole numbers, which stand for fractions with 80 binary places.

An angle is reduced to the first quarter of the circle with `π / 2` to 256 places, so that the reduction is
exact enough for the greatest numbers too. There the power series of sine and cosine are summed. The arc
cosine is twice the arc sine of the half angle, whose series is summed as well.
-/

namespace Planetarium.Circular

open Numeral.Single

/-- The number of binary places of a fraction. -/
def places : Nat := 80

/-- One, as a fraction. -/
def unit : Nat := 1 <<< places

/-- The product of two fractions. -/
def times (a b : Nat) : Nat := (a * b) >>> places

/-- A right angle in radians, with 256 binary places. -/
def rightAngle : Nat := 0x1921fb54442d18469898cc51701b839a252049c1114cf98e804177d4c76273644

/-- A half turn in radians, as a fraction. -/
def halfTurn : Nat := rightAngle >>> (255 - places)

/-- The alternating series that begins with `term`, which has a power and a factorial of the order `order`.
Each term is the one before it times `square` over the product of the next two orders. -/
def alternating (square : Nat) : (steps term order : Nat) → Nat
  | 0, _, _ => 0
  | steps + 1, term, order =>
    if term = 0 then 0
    else
      let next := times term square / ((order + 1) * (order + 2))
      term - alternating square steps next (order + 2)

/-- The sine of an angle in the first quarter. -/
def quarterSine (angle : Nat) : Nat := alternating (times angle angle) 20 angle 1

/-- The cosine of an angle in the first quarter. -/
def quarterCosine (angle : Nat) : Nat := alternating (times angle angle) 20 unit 0

/-- The sine of an angle that lies by `angle` beyond a number of right angles. -/
def sineBeyond (rights angle : Nat) : Int :=
  match rights % 4 with
  | 0 => quarterSine angle
  | 1 => quarterCosine angle
  | 2 => -quarterSine angle
  | _ => -quarterCosine angle

/-- A fraction in single precision. -/
def toSingle (v : Int) : Float32 :=
  let magnitude := nearest v.natAbs places
  if v < 0 then -magnitude else magnitude

/-- The right angles in the magnitude of an angle in radians, and what lies beyond them. -/
def reduce (x : Float32) : Nat × Nat :=
  let angle := units x <<< (256 - 149)
  (angle / rightAngle, (angle % rightAngle) >>> (256 - places))

/-- **The sine** of an angle in radians. A very small angle is its own sine. -/
def sin (x : Float32) : Float32 :=
  if !isFinite x then 0 / 0
  else if units x < 1 <<< 137 then x
  else
    let (rights, angle) := reduce x
    let sine := toSingle (sineBeyond rights angle)
    if hasMinus x then -sine else sine

/-- **The cosine** of an angle in radians. -/
def cos (x : Float32) : Float32 :=
  if !isFinite x then 0 / 0
  else
    let (rights, angle) := reduce x
    toSingle (sineBeyond (rights + 1) angle)

/-- The greatest number below `root + 2 ^ bits` whose square is not above `n`, if `root` is one such. -/
def squareRootFrom (n : Nat) : (bits root : Nat) → Nat
  | 0, root => root
  | bits + 1, root =>
    let next := root + 1 <<< bits
    squareRootFrom n bits (if next * next ≤ n then next else root)

/-- The series of the arc sine that begins with `term` of the odd order `order`. -/
def arcSeries (square : Nat) : (steps term order : Nat) → Nat
  | 0, _, _ => 0
  | steps + 1, term, order =>
    if term = 0 then 0
    else
      let next := times term square * (order * order) / ((order + 1) * (order + 2))
      term + arcSeries square steps next (order + 2)

/-- The arc sine of a fraction that is at most the sine of an eighth of the circle. -/
def arcSine (sine : Nat) : Nat := arcSeries (times sine sine) 80 sine 1

/-- **The arc cosine** in radians. It is not defined beyond one. -/
def arccos (c : Float32) : Float32 :=
  let cosine := units c >>> (149 - places)
  if !isFinite c || unit < cosine then 0 / 0
  else
    -- The sine of the half angle is the root of half of what the cosine lacks to one.
    let half := squareRootFrom ((unit - cosine) / 2 * unit) places 0
    let angle := 2 * arcSine half
    toSingle (if hasMinus c then halfTurn - angle else angle)

end Planetarium.Circular
