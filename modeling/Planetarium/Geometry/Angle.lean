import Planetarium.Geometry.Circular

/-!
# Angles

Angles are given in degrees and turned into radians where a trigonometric function needs them. All
numbers of the library are single precision, and each operation rounds once.
-/

namespace Planetarium.Angle

/-- Radians in one degree. -/
def radiansPerDegree : Float32 := 0.017453292519943295

/-- Degrees in one radian. -/
def degreesPerRadian : Float32 := 57.29577951308232

/-- An angle in degrees, measured in radians. -/
def toRadians (degrees : Float32) : Float32 := degrees * radiansPerDegree

/-- An angle in radians, measured in degrees. -/
def toDegrees (radians : Float32) : Float32 := radians * degreesPerRadian

end Planetarium.Angle
