import Planetarium.Catalog.Basic
import Planetarium.Journal
import Planetarium.Message.Instruction
import Planetarium.Scene.World

/-!
# The workshop

Instructions build on a scene with a catalog of names. An instruction whose names are not all known changes
nothing.
-/

namespace Planetarium

/-- A scene and the names given to its objects. -/
structure Workshop where
  scene : Scene := {}
  catalog : Catalog := {}

namespace Workshop

/-- Creates an object with a model at the top of the scene and gives it its name. -/
def createObject (w : Workshop) (spec : ObjectSpec) (position : Vec3) :
    ObjectId × List Entry × Workshop :=
  let (id, scene) := w.scene.createChild none spec.name
  let scene := scene.setTransform id position (.ofEulerDegrees spec.rotation) spec.scale
  let scene := scene.attach id (.ofModel spec.model spec.material)
  let (previous, catalog) := w.catalog.nameNode spec.name id
  (id, (previous.map (Entry.nameReused spec.name)).toList, { scene, catalog })

/-- Creates an object at a named point. -/
def createObjectAtPoint (w : Workshop) (spec : ObjectSpec) (point : String) :
    Except NotFound (ObjectId × List Entry × Workshop) :=
  (w.catalog.point point).map (w.createObject spec)

/-- Names a point. -/
def createPoint (w : Workshop) (name : String) (position : Vec3) : Workshop :=
  { w with catalog := (w.catalog.namePoint name position).2 }

/-- Moves a named object to a named point. The object is looked for first. -/
def moveToPoint (w : Workshop) (name point : String) : Except NotFound Workshop := do
  let id ← w.catalog.node name
  let position ← w.catalog.point point
  return { w with scene := w.scene.setTranslation id position }

/-- Carries out an instruction: the entries that it reports, and the workshop after it. -/
def apply (w : Workshop) : Instruction → Except NotFound (List Entry × Workshop)
  | .createObject spec position => .ok (w.createObject spec position).2
  | .createObjectAtPoint spec point => (w.createObjectAtPoint spec point).map (·.2)
  | .createPoint name position => .ok ([], w.createPoint name position)
  | .moveToPoint name point => (w.moveToPoint name point).map ([], ·)

end Workshop

end Planetarium
