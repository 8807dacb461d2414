/-!
# Rounding

A quotient is rounded to the nearest whole number, and to the even one of two that are equally near.
-/

namespace Planetarium.Numeral

/-- The quotient of two numbers, rounded to the nearest one and to the even one of two. -/
def roundDiv (num den : Nat) : Nat :=
  let q := num / den
  let r := num % den
  if den < 2 * r || (2 * r = den && q % 2 = 1) then q + 1 else q

end Planetarium.Numeral
