import Planetarium.Motion.Space

/-!
# Blueprints

A blueprint lists the parts of a system. Building it creates one object for each part, in the order of the
list; a part may hang below an earlier one, which it names.
-/

namespace Planetarium

/-- A part of a system. -/
structure Part where
  name : String
  /-- The part that this one hangs below. -/
  below : Option String := none
  translation : Vec3 := .zero
  rotation : Quat := .identity
  scale : Vec3 := .one
  components : List Component := []
  /-- Whether other objects may be hung below this one later on. -/
  isFrame : Bool := false
  /-- The spin of a frame that turns. -/
  spin : Option Spin := none

/-- Creates the object of a part below its parent. -/
def Space.place (sp : Space) (part : Part) (parent : Option ObjectId) : Space :=
  let (id, scene) := sp.scene.createChild parent part.name
  let scene := scene.setTransform id part.translation part.rotation part.scale
  { scene := part.components.foldl (·.attach id ·) scene
    frames := if part.isFrame then sp.frames.register part.name id part.spin else sp.frames }

/-- The parts of a system. No two of them have the same name. -/
structure Blueprint where
  parts : List Part

namespace Blueprint

/-- The place of a part in the list. -/
def position (b : Blueprint) (name : String) : Nat := b.parts.findIdx (·.name = name)

/-- The object of a part, when the blueprint is built into a scene. -/
def objectOf (b : Blueprint) (s : Scene) (name : String) : ObjectId :=
  s.idAt (s.size + b.position name)

/-- Builds all parts into a space, after what is there already. -/
def build (b : Blueprint) (sp : Space) : Space :=
  b.parts.foldl (fun built part => built.place part (part.below.map (b.objectOf sp.scene))) sp

end Blueprint

end Planetarium
