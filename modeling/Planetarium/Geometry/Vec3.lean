/-!
# Vectors

Points, offsets and scale factors in space. Sums associate to the left, which fixes how they round.
-/

namespace Planetarium

/-- A vector of three single-precision coordinates. -/
structure Vec3 where
  x : Float32
  y : Float32
  z : Float32
  deriving DecidableEq

namespace Vec3

/-- The vector with one number in all three places. -/
def splat (a : Float32) : Vec3 := ⟨a, a, a⟩

/-- The origin. -/
def zero : Vec3 := splat 0

/-- Unit scale. -/
def one : Vec3 := splat 1

/-- The unit vector along `+X`. -/
def unitX : Vec3 := ⟨1, 0, 0⟩

/-- The unit vector along `+Y`. -/
def unitY : Vec3 := ⟨0, 1, 0⟩

/-- The unit vector along `+Z`. -/
def unitZ : Vec3 := ⟨0, 0, 1⟩

/-- The unit vector along `-X`; its other coordinates are positive zeros. -/
def negX : Vec3 := ⟨-1, 0, 0⟩

/-- The unit vector along `-Y`; its other coordinates are positive zeros. -/
def negY : Vec3 := ⟨0, -1, 0⟩

/-- The unit vector along `-Z`; its other coordinates are positive zeros. -/
def negZ : Vec3 := ⟨0, 0, -1⟩

instance : Add Vec3 := ⟨fun a b => ⟨a.x + b.x, a.y + b.y, a.z + b.z⟩⟩

instance : Sub Vec3 := ⟨fun a b => ⟨a.x - b.x, a.y - b.y, a.z - b.z⟩⟩

/-- Every coordinate multiplied by `k`. -/
def scale (v : Vec3) (k : Float32) : Vec3 := ⟨v.x * k, v.y * k, v.z * k⟩

/-- The scalar product. -/
def dot (a b : Vec3) : Float32 := (a.x * b.x + a.y * b.y) + a.z * b.z

/-- The vector product. -/
def cross (a b : Vec3) : Vec3 :=
  ⟨a.y * b.z - b.y * a.z, a.z * b.x - b.z * a.x, a.x * b.y - b.x * a.y⟩

/-- The Euclidean length. -/
def length (v : Vec3) : Float32 := (v.dot v).sqrt

/-- The distance between two points. -/
def distance (a b : Vec3) : Float32 := (a - b).length

/-- The vector scaled by the reciprocal of its length. -/
def normalize (v : Vec3) : Vec3 := v.scale (1 / v.length)

end Vec3

end Planetarium
