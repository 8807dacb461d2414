import Planetarium.System.Solar

/-!
# The backdrop

The sky can be hidden and shown, and the sky and the sun each have a second material.
-/

namespace Planetarium

/-- The objects of the sky and the sun, and how they are shown. -/
structure Backdrop where
  skybox : ObjectId
  sun : ObjectId
  skyShown : Bool := true
  skyAlternate : Bool := false
  sunAlternate : Bool := false
  deriving DecidableEq

namespace Backdrop

/-- The second material of the sky. -/
def alternateSkyMaterial : String := "pecheux_sky.xml"

/-- The second material of the sun. -/
def alternateSunMaterial : String := "pecheux.xml"

/-- The sky as it looks when it is shown. -/
def sky (b : Backdrop) : Component :=
  .ofSky Solar.skyModel (if b.skyAlternate then alternateSkyMaterial else Solar.skyMaterial)

/-- The sun as it looks. -/
def sunGraphic (b : Backdrop) : Component :=
  .ofModel Solar.sphereModel (if b.sunAlternate then alternateSunMaterial else Solar.sunMaterial)

/-- Makes the sky of the scene look as the backdrop says. -/
def dressSky (b : Backdrop) (s : Scene) : Scene :=
  let s := s.clearComponents b.skybox
  if b.skyShown then s.attach b.skybox b.sky else s

/-- Hides the sky, or shows it again. -/
def toggleSky (b : Backdrop) (s : Scene) : Backdrop × Scene :=
  let b := { b with skyShown := !b.skyShown }
  (b, b.dressSky s)

/-- Changes the material of the sky and shows it. -/
def toggleSkyMaterial (b : Backdrop) (s : Scene) : Backdrop × Scene :=
  let b := { b with skyAlternate := !b.skyAlternate, skyShown := true }
  (b, b.dressSky s)

/-- Changes the material of the sun. -/
def toggleSunMaterial (b : Backdrop) (s : Scene) : Backdrop × Scene :=
  let b := { b with sunAlternate := !b.sunAlternate }
  (b, (s.clearComponents b.sun).attach b.sun b.sunGraphic)

end Backdrop

end Planetarium
