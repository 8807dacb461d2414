import Planetarium.Geometry.Angle
import Planetarium.Geometry.Vec3

/-!
# Rotations

Rotations are quaternions. They come from Euler angles or from an axis and an angle, compose by
multiplication and turn vectors.
-/

namespace Planetarium

/-- A quaternion with vector part `x`, `y`, `z` and scalar part `w`. -/
structure Quat where
  x : Float32
  y : Float32
  z : Float32
  w : Float32
  deriving DecidableEq

namespace Quat

/-- The rotation that moves nothing. -/
def identity : Quat := ⟨0, 0, 0, 1⟩

/-- The vector part. -/
def vector (q : Quat) : Vec3 := ⟨q.x, q.y, q.z⟩

/-- `l * r` turns by `r` first and by `l` after it. -/
instance : Mul Quat :=
  ⟨fun l r =>
    { x := (l.w * r.x + l.x * r.w) + (l.y * r.z + -(l.z * r.y))
      y := (l.w * r.y + -(l.x * r.z)) + (l.y * r.w + l.z * r.x)
      z := (l.w * r.z + l.x * r.y) + (-(l.y * r.x) + l.z * r.w)
      w := (l.w * r.w + -(l.x * r.x)) + (-(l.y * r.y) + -(l.z * r.z)) }⟩

/-- The length as a vector of four coordinates. -/
def length (q : Quat) : Float32 := ((q.x * q.x + q.z * q.z) + (q.y * q.y + q.w * q.w)).sqrt

/-- Every coordinate divided by the length. -/
def normalize (q : Quat) : Quat :=
  let l := q.length
  ⟨q.x / l, q.y / l, q.z / l, q.w / l⟩

/-- The vector `v` turned by `q`. -/
def apply (q : Quat) (v : Vec3) : Vec3 :=
  let b := q.vector
  (v.scale (q.w * q.w - b.dot b) + b.scale (v.dot b * 2)) + (b.cross v).scale (q.w * 2)

/-- The rotation by `radians` about `axis`, which is a unit vector. -/
def aroundAxis (axis : Vec3) (radians : Float32) : Quat :=
  let half := radians * 0.5
  let s := Circular.sin half
  ⟨axis.x * s, axis.y * s, axis.z * s, Circular.cos half⟩

/-- **Euler angles.** The rotation by pitch `angles.x`, yaw `angles.y` and roll `angles.z` in degrees:
yaw about `Y` first, then pitch about `X`, then roll about `Z`, each about the axes already turned. -/
def ofEulerDegrees (angles : Vec3) : Quat :=
  let yaw := Angle.toRadians angles.y * 0.5
  let pitch := Angle.toRadians angles.x * 0.5
  let roll := Angle.toRadians angles.z * 0.5
  let si := Circular.sin yaw
  let ci := Circular.cos yaw
  let sj := Circular.sin pitch
  let cj := Circular.cos pitch
  let sh := Circular.sin roll
  let ch := Circular.cos roll
  let cc := ci * ch
  let cs := ci * sh
  let sc := si * ch
  let ss := si * sh
  { x := cj * ss + sj * cc
    y := cj * sc - sj * cs
    z := cj * cs - sj * sc
    w := cj * cc + sj * ss }

end Quat

end Planetarium
