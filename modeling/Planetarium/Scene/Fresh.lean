import Planetarium.Scene.World

/-!
# Fresh matrices

The world matrix of an object as the transforms alone determine it, without the matrices that are kept. It
is what every read of a world matrix is measured by.
-/

namespace Planetarium.Scene

/-- The world matrix computed from the transforms of an object and of at most `height - 1` above it. -/
def freshMatrixUpTo : (height : Nat) → Scene → ObjectId → Mat4
  | 0, _, _ => .identity
  | height + 1, s, id =>
    match s.get? id with
    | none => .identity
    | some o =>
      (match o.parent with
       | none => .identity
       | some p => freshMatrixUpTo height s p) * o.transform.placement

/-- **The fresh world matrix.** That of the parent times the placement, with the identity above the top and
for an id that finds nothing. -/
def freshMatrix (s : Scene) (id : ObjectId) : Mat4 := freshMatrixUpTo s.size s id

/-- The fresh place of an object in the world. -/
def freshPosition (s : Scene) (id : ObjectId) : Vec3 := (s.freshMatrix id).originImage

end Planetarium.Scene
