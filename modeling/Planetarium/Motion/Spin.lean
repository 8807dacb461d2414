import Planetarium.Geometry.Quat

/-!
# Spins

A spin turns a frame about an axis at a constant rate.
-/

namespace Planetarium

/-- A constant angular velocity: `rate` degrees per second about `axis`. -/
structure Spin where
  axis : Vec3
  rate : Float32
  deriving DecidableEq

namespace Spin

/-- A spin about the vertical axis. -/
def aboutY (rate : Float32) : Spin := ⟨.unitY, rate⟩

/-- The rotation made in `seconds`. -/
def rotationOver (s : Spin) (seconds : Float32) : Quat :=
  .aroundAxis s.axis.normalize (Angle.toRadians (s.rate * seconds))

end Spin

end Planetarium
