import Planetarium.System.Blueprint
import Planetarium.Transfer.Mission

/-!
# The solar system

The system that is shown: the sky, the ground plane, the sun, eight planets, the moon, a rocket, the lights
of the sun, and the camera. Each planet has an orbit that spins, a position on the orbit, an inclined axis
at the position, and a body that spins about the axis.
-/

namespace Planetarium.Solar

/-- The radius of the sun as it is shown. -/
def sunRadius : Float32 := 3

/-- The unit of the radii of orbits. -/
def astronomicalUnit : Float32 := 5

/-- The angular velocity that those of the orbits are multiples of, in degrees per second. -/
def baseRate : Float32 := -50

/-- The angular velocity of a body about its own axis, in degrees per second. -/
def bodyRate : Float32 := -30

/-- The angle of the inclined axes, in degrees. -/
def axialTilt : Float32 := 23

/-- The model of the sky. -/
def skyModel : String := "Box.mdl"

/-- The model of the sun and of the other round bodies. -/
def sphereModel : String := "Sphere.mdl"

/-- The material of the sky. -/
def skyMaterial : String := "skybox_stars.xml"

/-- The material of the sun. -/
def sunMaterial : String := "sun.xml"

/-- A planet. -/
structure Planet where
  name : String
  /-- The radius of the orbit in astronomical units. -/
  radius : Float32
  /-- The angular velocity on the orbit, as a multiple of the base rate. -/
  rate : Float32
  scale : Float32
  material : String
  ringed : Bool := false
  /-- Whether a light shines on the planet. -/
  lit : Bool := false

/-- The planet that the rocket leaves from. -/
def earth : Planet :=
  { name := "Earth", radius := 1, rate := 1, scale := 0.3, material := "earthmap.xml" }

/-- The planet that the rocket goes to. -/
def mars : Planet :=
  { name := "Mars", radius := 1.5, rate := 0.55, scale := 0.25, material := "marsmap.xml" }

/-- The planets from the sun outward. -/
def planets : List Planet :=
  [ { name := "Mercury", radius := 0.4, rate := 10, scale := 0.15, material := "mercuremap.xml" },
    { name := "Venus", radius := 0.7, rate := 1.62, scale := 0.28, material := "venusmap.xml" },
    earth,
    mars,
    { name := "Jupiter", radius := 2.3, rate := 1 / 12, scale := 1, material := "jupitermap.xml",
      lit := true },
    { name := "Saturn", radius := 3.5, rate := 1 / 29, scale := 0.9, material := "saturnemap.xml",
      ringed := true, lit := true },
    { name := "Uranus", radius := 5, rate := 1 / 84, scale := 0.57, material := "uranusmap.xml",
      lit := true },
    { name := "Neptune", radius := 7.5, rate := 1 / 165, scale := 0.53, material := "neptunemap.xml",
      lit := true } ]

/-- The frame at a planet's place on its orbit. -/
def Planet.place (p : Planet) : String := p.name ++ "Pos"

/-- The spinning frame of a planet's orbit. -/
def Planet.orbit (p : Planet) : String := p.name ++ "Orbit"

/-- The frame of the sun. -/
def sunFrame : String := "SunPos"

/-- The frame of the rocket, which is the vehicle of the mission. -/
def rocketFrame : String := "RocketPos"

/-- The frame that the transfer orbit is centered on. -/
def anchorFrame : String := "TransferAnchor"

/-- The part that shows the sky. -/
def skyPart : String := "Skybox"

/-- The part that shows the sun. -/
def sunPart : String := "SunGraphic"

/-- The part that carries the camera. -/
def cameraPart : String := "Camera"

/-- The parts of one planet. -/
def Planet.parts (p : Planet) : List Part :=
  let inclined := p.name ++ "Inclined"
  [ { name := p.orbit, below := sunFrame, isFrame := true, spin := some (.aboutY (baseRate * p.rate)) },
    { name := p.place, below := p.orbit, isFrame := true,
      translation := ⟨p.radius * astronomicalUnit, 0, 0⟩ },
    { name := inclined, below := p.place, rotation := .ofEulerDegrees ⟨0, 0, axialTilt⟩ },
    { name := p.name, below := inclined, isFrame := true, spin := some (.aboutY bodyRate),
      scale := .splat p.scale, components := [.ofModel sphereModel p.material] } ] ++
  (if p.ringed then
    [ { name := p.name ++ "Ring", below := inclined, scale := ⟨1.5, 0.01, 1.5⟩,
        components := [.ofModel "Torus.mdl" "ring_saturne.xml"] } ]
   else []) ++
  (if p.lit then
    [ { name := p.name ++ "Light", below := p.place, translation := ⟨-1.5, 0, 0⟩,
        components := [.light 1] } ]
   else [])

/-- The sky, the ground plane and the sun. -/
def center : List Part :=
  [ { name := skyPart, components := [.ofSky skyModel skyMaterial] },
    { name := "Plane", scale := ⟨5, 1, 5⟩, components := [.ofModel "Disk.mdl" "GreenTransparent.xml"] },
    { name := sunFrame, isFrame := true },
    { name := sunPart, below := sunFrame, scale := .splat sunRadius,
      components := [.ofModel sphereModel sunMaterial] } ]

/-- The moon, below the place of the earth. -/
def moon : List Part :=
  [ { name := "MoonOrbit", below := earth.place, isFrame := true, spin := some (.aboutY (-100)) },
    { name := "Moon", below := "MoonOrbit", isFrame := true, spin := some (.aboutY bodyRate),
      translation := ⟨0.3, 0, 0⟩, scale := .splat 0.05,
      components := [.ofModel sphereModel "moonmap.xml"] } ]

/-- The anchor of the transfer: the middle of a circle that touches the orbit of the earth on one side and
that of Mars on the other. -/
def anchor : Part :=
  let near := earth.radius * astronomicalUnit
  let far := mars.radius * astronomicalUnit
  { name := anchorFrame, below := earth.orbit, isFrame := true,
    translation := ⟨-((near + far) / 2 - near), 0, 0⟩ }

/-- The rocket, below the place of the earth. -/
def rocket : List Part :=
  [ { name := rocketFrame, below := earth.place, isFrame := true },
    { name := "RocketInclined", below := rocketFrame, rotation := .ofEulerDegrees (.splat 90) },
    { name := "Rocket", below := "RocketInclined", scale := .splat 0.02,
      components := [.ofModel "fusee.mdl" "fusee.xml"] } ]

/-- Lights at the middle of the sun and on its surface. -/
def sunLights : List Part :=
  [ ("SunLight0", Vec3.zero), ("SunLight1", .unitX), ("SunLight2", .negX), ("SunLight3", .unitY),
    ("SunLight4", .negY), ("SunLight5", .unitZ), ("SunLight6", .negZ) ].map fun (name, direction) =>
      { name, translation := direction.scale sunRadius, components := [.light 1] }

/-- The camera, above the sun. -/
def camera : Part :=
  { name := cameraPart, translation := ⟨0, 15, 0⟩, components := [.camera] }

/-- The whole system. -/
def blueprint : Blueprint :=
  ⟨center ++ planets.flatMap Planet.parts ++ moon ++ [anchor] ++ rocket ++ sunLights ++ [camera]⟩

/-- The objects of the system that the rest of the simulation works with. -/
structure Handles where
  bodies : Bodies
  skybox : ObjectId
  sunGraphic : ObjectId
  camera : ObjectId

/-- The handles of a system that is built into a scene. -/
def handles (s : Scene) : Handles :=
  let object := blueprint.objectOf s
  { bodies :=
      { vehicle := object rocketFrame
        origin := object earth.place
        destination := object mars.place
        reference := object sunFrame
        anchor := object anchorFrame }
    skybox := object skyPart
    sunGraphic := object sunPart
    camera := object cameraPart }

/-- Builds the system into a space. -/
def build (sp : Space) : Handles × Space := (handles sp.scene, blueprint.build sp)

end Planetarium.Solar
