import Planetarium.Directory
import Planetarium.System.Solar
import Planetarium.View.Camera

/-!
# Controls

A control code is one character. The table of a show says which effect each code has; a code that is not in
the table has none.
-/

namespace Planetarium

/-- What a control code does. -/
inductive Effect where
  /-- Move the camera by a step. -/
  | move (heading : Heading)
  /-- Turn the camera by an angle in degrees. -/
  | turn (degrees : Float32)
  /-- Let the camera ride along with a frame, at an offset from it. -/
  | rideAlong (frame : String) (offset : Vec3)
  /-- Stop the orbits or let them go on. -/
  | togglePause
  /-- Hide or show the sky. -/
  | toggleSky
  /-- Change the material of the sun. -/
  | toggleSunMaterial
  /-- Change the material of the sky. -/
  | toggleSkyMaterial
  deriving DecidableEq

/-- The effects of the control codes. -/
abbrev Controls := Directory Char Effect

namespace Controls

/-- The angle of a turn, in degrees. -/
def turnStep : Float32 := 30

/-- The codes of a show, unless it is set up otherwise. -/
def standard : Controls := .ofList
  [ ('z', .move .forward),
    ('s', .move .back),
    ('q', .move .left),
    ('d', .move .right),
    ('o', .move .up),
    ('l', .move .down),
    ('k', .turn (-turnStep)),
    ('m', .turn turnStep),
    ('f', .rideAlong Solar.rocketFrame ⟨-0.2, 0.1, -1⟩),
    ('t', .rideAlong "EarthPos" ⟨-0.3, 0.1, -1⟩),
    ('S', .rideAlong Solar.sunFrame ⟨0, 5.1, -5⟩),
    ('r', .rideAlong Solar.anchorFrame ⟨0, 0, -3⟩),
    ('j', .rideAlong "JupiterPos" ⟨0, 0, -3⟩),
    ('u', .rideAlong "UranusPos" ⟨0, 0, -3⟩),
    ('p', .togglePause),
    ('b', .toggleSky),
    ('y', .toggleSunMaterial),
    ('*', .toggleSkyMaterial) ]

end Controls

end Planetarium
