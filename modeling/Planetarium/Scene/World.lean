import Planetarium.Scene.Hierarchy

/-!
# World matrices

The world matrix of an object is that of its parent times its own local one. It is computed when asked for
and kept, so each read may leave a scene with fewer stale matrices.
-/

namespace Planetarium.Scene

/-- Reads the world matrix of an object, going up at most `height` levels. -/
def worldMatrixUpTo : Nat → Scene → ObjectId → Mat4 × Scene
  | 0, s, _ => (.identity, s)
  | height + 1, s, id =>
    match s.get? id with
    | none => (Mat4.identity, s)
    | some o =>
      if o.transform.worldStale then
        -- Reading the parent first leaves all matrices on the way up fresh.
        let (above, s) :=
          match o.parent with
          | none => (Mat4.identity, s)
          | some p => worldMatrixUpTo height s p
        let fresh := o.transform.refreshLocal
        let world := above * fresh.localMatrix
        (world, s.modifyTransform id fun _ => fresh.setWorldMatrix world)
      else (o.transform.worldMatrix, s)

/-- **The world matrix of an object.** An id that finds nothing, and the place above an object at the top,
stand for the identity. -/
def worldMatrix (s : Scene) (id : ObjectId) : Mat4 × Scene := worldMatrixUpTo s.size s id

/-- The place of an object in the world. -/
def worldPosition (s : Scene) (id : ObjectId) : Vec3 × Scene :=
  let (m, s) := s.worldMatrix id
  (m.originImage, s)

end Planetarium.Scene
