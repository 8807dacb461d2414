/-!
# Components

What an object of the scene shows: a model, a sky, a light or a camera. Models and materials are named by
their paths below two fixed folders.
-/

namespace Planetarium

/-- The path of a model. -/
def modelPath (model : String) : String := "Models/" ++ model

/-- The path of a material. -/
def materialPath (material : String) : String := "Materials/" ++ material

/-- Something attached to an object. Models and materials are given by their paths. -/
inductive Component where
  | staticModel (model material : String)
  | skybox (model material : String)
  | light (brightness : Float32)
  | camera
  deriving DecidableEq

namespace Component

/-- A model with a material, by their names. -/
def ofModel (model material : String) : Component :=
  .staticModel (modelPath model) (materialPath material)

/-- A sky with a material, by their names. -/
def ofSky (model material : String) : Component := .skybox (modelPath model) (materialPath material)

/-- The material of a component that is drawn. -/
def material? : Component → Option String
  | .staticModel _ material => some material
  | .skybox _ material => some material
  | .light _ => none
  | .camera => none

end Component

end Planetarium
