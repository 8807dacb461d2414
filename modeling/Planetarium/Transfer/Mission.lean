import Planetarium.Motion.Space
import Planetarium.Outcome
import Planetarium.Transfer.Window

/-!
# Missions

A vehicle travels once from an origin to a destination. It leaves at the second window, riding on an arm
that turns about a center, and arrives when the destination is near enough.

The arm hangs below two frames that the launch creates with it: the center, where the anchor is at that
moment, and the orbit, which spins. The vehicle is always hung below the frame that it is attached to.
-/

namespace Planetarium

/-- The frames that a launch creates. -/
def transferCenter : String := "TransferCenter"

@[inherit_doc transferCenter]
def transferOrbit : String := "TransferOrbit"

@[inherit_doc transferCenter]
def transferArm : String := "TransferArm"

/-- What a mission is to do. -/
structure Plan where
  /-- The angle of a window in whole degrees, seen from the reference body. -/
  target : Int := 44
  /-- The distance from the vehicle to the destination that counts as arrival. -/
  arrivalDistance : Float32 := 0.01
  /-- The spin of the transfer orbit in degrees per second. -/
  orbitRate : Float32 := -36.5
  deriving DecidableEq

/-- How far a mission has come. -/
inductive Phase where
  | attachedOrigin
  | inTransit
  | attachedDestination
  deriving DecidableEq

/-- The objects that a mission watches and moves. -/
structure Bodies where
  vehicle : ObjectId
  origin : ObjectId
  destination : ObjectId
  reference : ObjectId
  /-- The point that the transfer orbit is centered on at the launch. -/
  anchor : ObjectId
  deriving DecidableEq

/-- All bodies, in the order in which they are looked for. -/
def Bodies.toList (b : Bodies) : List ObjectId :=
  [b.vehicle, b.origin, b.destination, b.reference, b.anchor]

/-- A mission under way. -/
structure Mission where
  bodies : Bodies
  plan : Plan
  watch : Watch
  phase : Phase
  /-- The frame that the vehicle is attached to. -/
  attached : ObjectId
  deriving DecidableEq

/-- A mission and the space it takes place in. -/
structure Flight where
  mission : Mission
  space : Space

namespace Mission

/-- A mission that has not begun: the vehicle is attached to the origin. -/
def new (bodies : Bodies) (plan : Plan) : Mission where
  bodies := bodies
  plan := plan
  watch := { target := plan.target }
  phase := .attachedOrigin
  attached := bodies.origin

end Mission

namespace Flight

/-- The flight with another scene. -/
def withScene (f : Flight) (scene : Scene) : Flight := { f with space := { f.space with scene } }

/-- The flight in another phase, with the vehicle attached to a frame. -/
def entered (f : Flight) (frame : ObjectId) (phase : Phase) : Flight :=
  { f with mission := { f.mission with attached := frame, phase } }

/-- Hangs the vehicle below a frame, where the mission enters a phase and reports an entry. -/
def attach (f : Flight) (build : Build) (frame : ObjectId) (phase : Phase) (entry : Entry) :
    Outcome Flight :=
  ((f.space.frames.reparent build f.space.scene f.mission.bodies.vehicle frame).map f.withScene).andThen
    fun f => .report (f.entered frame phase) entry

/-- **The launch.** Creates the three frames of the transfer and attaches the vehicle to the arm, which
reaches from the center to where the origin is. -/
def launch (f : Flight) (build : Build) (ticket : Nat) : Outcome Flight :=
  -- Both places are measured before anything is created or moved.
  let (center, space) := f.space.worldPosition f.mission.bodies.anchor
  let (start, space) := space.worldPosition f.mission.bodies.origin
  let (centerFrame, space) := space.addFrame transferCenter none center none
  let (orbit, space) :=
    space.addFrame transferOrbit (some centerFrame) .zero (some (.aboutY f.mission.plan.orbitRate))
  let (arm, space) := space.addFrame transferArm (some orbit) (start - center) none
  { f with space }.attach build arm .inTransit (.launched ticket)

/-- What a window leads to. Every second one is skipped, and after the launch they are of no account. -/
def atWindow (f : Flight) (build : Build) (ticket : Ticket) : Outcome Flight :=
  if !ticket.launches then .report f (.windowSkipped ticket.number)
  else if f.mission.phase ≠ .attachedOrigin then .done f
  else f.launch build ticket.number

/-- Goes on after the watch has taken a sample. -/
def afterSample (f : Flight) (build : Build) (sample : Option Ticket × Watch) : Outcome Flight :=
  let f := { f with mission := { f.mission with watch := sample.2 } }
  match sample.1 with
  | some ticket => f.atWindow build ticket
  | none => .done f

/-- **The arrival.** A vehicle in transit is attached to the destination unless it is farther away than
the distance of arrival. -/
def checkArrival (f : Flight) (build : Build) : Outcome Flight :=
  if f.mission.phase ≠ .inTransit then .done f
  else
    let (vehicle, space) := f.space.worldPosition f.mission.bodies.vehicle
    let (destination, space) := space.worldPosition f.mission.bodies.destination
    let f := { f with space }
    if f.mission.plan.arrivalDistance < vehicle.distance destination then .done f
    else f.attach build f.mission.bodies.destination .attachedDestination .arrived

/-- Takes a sample of the angle as it is given. -/
def observeAngle (f : Flight) (build : Build) (angle : Int) : Outcome Flight :=
  f.afterSample build (f.mission.watch.observe angle)

/-- Measures where the bodies are: the flight after it, and the places of origin, destination and
reference. -/
def measure (f : Flight) : Vec3 × Vec3 × Vec3 × Flight :=
  let (origin, space) := f.space.worldPosition f.mission.bodies.origin
  let (destination, space) := space.worldPosition f.mission.bodies.destination
  let (reference, space) := space.worldPosition f.mission.bodies.reference
  (origin, destination, reference, { f with space })

/-- **One step of a mission:** the watch takes a sample from the places of the bodies, and then the
arrival is checked. All bodies have to be in the scene. -/
def update (f : Flight) (build : Build) : Outcome Flight :=
  if f.mission.bodies.toList.all f.space.scene.has then
    let (origin, destination, reference, f) := f.measure
    (f.afterSample build (f.mission.watch.observePlaces origin destination reference)).andThen
      (checkArrival · build)
  else .violated build f .bodiesMissing

end Flight

end Planetarium
