import Planetarium.Numeral.Rounding

/-!
# Single precision

How a number in single precision is made of its sign, its exponent and its digits, and the number that is
nearest to a fraction of a power of two.
-/

namespace Planetarium.Numeral.Single

/-- The eight bits of the exponent. -/
def exponentBits (x : Float32) : Nat := (x.toBits.toNat >>> 23) % 256

/-- Whether the sign bit is set. -/
def hasMinus (x : Float32) : Bool := 0x80000000 ≤ x.toBits.toNat

/-- Whether a number is neither infinite nor undefined. -/
def isFinite (x : Float32) : Bool := exponentBits x ≠ 255

/-- The magnitude of a finite number in units of `2 ^ (-149)`, of which every one is a multiple. -/
def units (x : Float32) : Nat :=
  let digits := x.toBits.toNat % 0x800000
  if exponentBits x = 0 then digits else (digits + 0x800000) <<< (exponentBits x - 1)

/-- The whole part of a finite number, which is truncated toward zero. Any other one counts as zero. -/
def wholePart (x : Float32) : Int :=
  if isFinite x then
    let magnitude : Nat := units x >>> 149
    if hasMinus x then -magnitude else magnitude
  else 0

/-- The number that is nearest to `n / 2 ^ scale`. It is zero, or it lies between `2 ^ (-126)` and
`2 ^ 127`. -/
def nearest (n scale : Nat) : Float32 :=
  if n = 0 then 0
  else
    let top := n.log2
    let digits := roundDiv (n <<< 23) (1 <<< top)
    -- Digits that round up to the next power of two carry into the exponent.
    .ofBits (.ofNat (((top + 127 - scale) <<< 23) + (digits - 0x800000)))

end Planetarium.Numeral.Single
