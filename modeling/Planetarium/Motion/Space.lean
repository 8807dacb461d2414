import Planetarium.Motion.Frames

/-!
# Spaces

A scene together with its frames.
-/

namespace Planetarium

/-- A scene and the frames in it. -/
structure Space where
  scene : Scene := {}
  frames : Frames := {}

namespace Space

/-- Creates an object at `offset`, below a parent or at the top, and makes it a frame. -/
def addFrame (sp : Space) (name : String) (parent : Option ObjectId) (offset : Vec3)
    (spin : Option Spin) : ObjectId × Space :=
  let (id, scene) := sp.scene.createChild parent name
  (id, { scene := scene.setTranslation id offset, frames := sp.frames.register name id spin })

/-- The place of an object in the world. -/
def worldPosition (sp : Space) (id : ObjectId) : Vec3 × Space :=
  let (p, scene) := sp.scene.worldPosition id
  (p, { sp with scene })

/-- Turns every spinning frame by what its spins make in `seconds`. -/
def advance (sp : Space) (seconds : Float32) : Space :=
  { sp with scene := sp.frames.advance sp.scene seconds }

end Space

end Planetarium
