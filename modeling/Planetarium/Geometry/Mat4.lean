import Planetarium.Geometry.Quat

/-!
# Affine maps

A 4 by 4 matrix places an object in the space of its parent or of the whole scene. Matrices are kept
column by column and act on columns.
-/

namespace Planetarium

/-- A column of a matrix. -/
structure Vec4 where
  x : Float32
  y : Float32
  z : Float32
  w : Float32
  deriving DecidableEq

namespace Vec4

instance : Add Vec4 := ⟨fun a b => ⟨a.x + b.x, a.y + b.y, a.z + b.z, a.w + b.w⟩⟩

/-- Every coordinate multiplied by `k`. -/
def scale (v : Vec4) (k : Float32) : Vec4 := ⟨v.x * k, v.y * k, v.z * k, v.w * k⟩

end Vec4

/-- A matrix of four columns. -/
structure Mat4 where
  c0 : Vec4
  c1 : Vec4
  c2 : Vec4
  c3 : Vec4
  deriving DecidableEq

namespace Mat4

/-- The map that moves nothing. -/
def identity : Mat4 := ⟨⟨1, 0, 0, 0⟩, ⟨0, 1, 0, 0⟩, ⟨0, 0, 1, 0⟩, ⟨0, 0, 0, 1⟩⟩

/-- The image of a column. -/
def apply (m : Mat4) (v : Vec4) : Vec4 :=
  ((m.c0.scale v.x + m.c1.scale v.y) + m.c2.scale v.z) + m.c3.scale v.w

/-- `a * b` applies `b` first; its columns are the images of the columns of `b`. -/
instance : Mul Mat4 := ⟨fun a b => ⟨a.apply b.c0, a.apply b.c1, a.apply b.c2, a.apply b.c3⟩⟩

/-- The map that scales, then turns, then moves. -/
def ofScaleRotationTranslation (scale : Vec3) (rotation : Quat) (translation : Vec3) : Mat4 :=
  let q := rotation
  let x2 := q.x + q.x
  let y2 := q.y + q.y
  let z2 := q.z + q.z
  let xx := q.x * x2
  let xy := q.x * y2
  let xz := q.x * z2
  let yy := q.y * y2
  let yz := q.y * z2
  let zz := q.z * z2
  let wx := q.w * x2
  let wy := q.w * y2
  let wz := q.w * z2
  { c0 := (⟨1 - (yy + zz), xy + wz, xz - wy, 0⟩ : Vec4).scale scale.x
    c1 := (⟨xy - wz, 1 - (xx + zz), yz + wx, 0⟩ : Vec4).scale scale.y
    c2 := (⟨xz + wy, yz - wx, 1 - (xx + yy), 0⟩ : Vec4).scale scale.z
    c3 := ⟨translation.x, translation.y, translation.z, 1⟩ }

/-- **Where the origin goes.** The first three columns are multiplied by zero and added rather than left
out, so an infinite or undefined entry of any of them makes the coordinate undefined. -/
def originImage (m : Mat4) : Vec3 :=
  let r := m.c3 + (m.c2.scale 0 + (m.c1.scale 0 + m.c0.scale 0))
  ⟨r.x, r.y, r.z⟩

end Mat4

end Planetarium
