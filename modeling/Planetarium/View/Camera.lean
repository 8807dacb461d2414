import Planetarium.Motion.Space

/-!
# The camera

The camera looks along its pitch and yaw. It hangs at the top of the scene until it rides along with a
frame: then it hangs below a mount, which hangs below the frame.

Several displays may form a wall. The view angle of a display is its yaw within that wall.
-/

namespace Planetarium

/-- A direction relative to the camera. -/
inductive Heading where
  | forward
  | back
  | left
  | right
  | up
  | down
  deriving DecidableEq

/-- The unit vector of a direction. -/
def Heading.vector : Heading → Vec3
  | .forward => .unitZ
  | .back => .negZ
  | .left => .negX
  | .right => .unitX
  | .up => .unitY
  | .down => .negY

/-- The camera's object, the mount, where the camera looks in degrees, and the view angle. -/
structure Camera where
  node : ObjectId
  mount : ObjectId
  pitch : Float32
  yaw : Float32
  viewAngle : Float32
  deriving DecidableEq

namespace Camera

/-- The pitch at the start. -/
def initialPitch : Float32 := 60

/-- The speed of a step, and the time that a step stands for. -/
def speed : Float32 := 50

@[inherit_doc speed]
def stepTime : Float32 := 0.1

/-- The name of the mount as a frame. -/
def mountFrame : String := "CameraMount"

/-- Where the camera looks. -/
def orientation (c : Camera) : Quat := .ofEulerDegrees ⟨c.pitch, c.yaw, 0⟩

/-- Turns the camera's object to where the camera looks. -/
def settle (c : Camera) (s : Scene) : Scene := s.setRotation c.node c.orientation

/-- Makes an object the camera. The mount is created at the top. -/
def install (sp : Space) (node : ObjectId) (viewAngle : Float32) : Camera × Space :=
  let (mount, sp) := sp.addFrame mountFrame none .zero none
  let c : Camera := { node, mount, pitch := initialPitch, yaw := 0, viewAngle }
  (c, { sp with scene := c.settle sp.scene })

/-- **A step.** The object is turned to the yaw less the view angle and moved along its own axes. It stays
turned that way until the camera is settled again. -/
def step (c : Camera) (s : Scene) (h : Heading) : Scene :=
  (s.setRotation c.node (.ofEulerDegrees ⟨c.pitch, c.yaw - c.viewAngle, 0⟩)).translateLocal c.node
    ((h.vector.scale speed).scale stepTime)

/-- Turns the camera by an angle in degrees. -/
def turn (c : Camera) (s : Scene) (degrees : Float32) : Camera × Scene :=
  let c := { c with yaw := c.yaw + degrees }
  (c, c.settle s)

/-- The camera looking level, at the view angle. -/
def level (c : Camera) : Camera := { c with pitch := 0, yaw := c.viewAngle }

/-- **Riding along.** The camera looks level, the mount hangs at `offset` from the frame, and the camera
hangs below the mount. The camera looks level before the frame is looked for. In a release build the mount
gets its offset and the camera is hung below it even if there is no such frame. -/
def rideAlong (c : Camera) (build : Build) (sp : Space) (frame : String) (offset : Vec3) :
    Outcome (Camera × Scene) :=
  let c := c.level
  let riding :=
    (sp.frames.reparentNamed build sp.scene c.mount frame).andThen fun mounted =>
      sp.frames.reparent build (mounted.setTranslation c.mount offset) c.node c.mount
  riding.map (c, ·)

end Camera

end Planetarium
