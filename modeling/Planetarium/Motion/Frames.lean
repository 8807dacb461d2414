import Planetarium.Directory
import Planetarium.Motion.Spin
import Planetarium.Outcome
import Planetarium.Scene.World

/-!
# Frames

A frame is an object of the scene that others may be hung below. Frames have names; some of them spin. A
name taken again stands for the newer object, while the spin of the older one goes on.
-/

namespace Planetarium

/-- The frames by name, and the spins in the order in which they were added. -/
structure Frames where
  named : Directory String ObjectId := {}
  spins : List (ObjectId × Spin) := []

namespace Frames

/-- The frame of a name. -/
def get? (fs : Frames) (name : String) : Option ObjectId := fs.named.get? name

/-- An object that some name stands for. -/
def contains (fs : Frames) (id : ObjectId) : Bool := fs.named.values.any (· = id)

/-- Makes an object of the scene a frame. -/
def register (fs : Frames) (name : String) (id : ObjectId) (spin : Option Spin) : Frames where
  named := fs.named.insert name id
  spins := fs.spins ++ (spin.map (id, ·)).toList

/-- Turns every spinning frame by what its spins make in `seconds`. -/
def advance (fs : Frames) (s : Scene) (seconds : Float32) : Scene :=
  fs.spins.foldl (fun s e => s.rotate e.1 (e.2.rotationOver seconds)) s

/-- Hangs an object below a frame, at the frame's own place. -/
def reparent (fs : Frames) (build : Build) (s : Scene) (node frame : ObjectId) : Outcome Scene :=
  if fs.contains frame then .done ((s.setParent node (some frame)).setTranslation node .zero)
  else .violated build s (.notAFrame frame)

/-- Hangs an object below the frame of a name. -/
def reparentNamed (fs : Frames) (build : Build) (s : Scene) (node : ObjectId) (name : String) :
    Outcome Scene :=
  match fs.get? name with
  | some frame => fs.reparent build s node frame
  | none => .violated build s (.unknownFrame name)

end Frames

end Planetarium
