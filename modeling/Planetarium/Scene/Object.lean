import Planetarium.Scene.Component
import Planetarium.Scene.Transform

/-!
# Objects

An object of a scene has a name, a transform, components, and links to its parent and its children. The
links are ids, and an id belongs to the scene that gave it out.
-/

namespace Planetarium

/-- The id of an object: the scene it belongs to and its number there. -/
structure ObjectId where
  scene : Nat
  index : Nat
  deriving DecidableEq

/-- How messages show an id. The scene is left out. -/
def ObjectId.text (id : ObjectId) : String :=
  "Id \x7b idx: " ++ toString id.index ++ " \x7d"

/-- An object of a scene. -/
structure Object where
  name : String
  transform : Transform := .ofTranslation .zero
  components : List Component := []
  parent : Option ObjectId := none
  children : List ObjectId := []

/-- The material of the first component that has one. -/
def Object.material? (o : Object) : Option String := o.components.findSome? Component.material?

end Planetarium
