import Planetarium.Show.Stage
import Planetarium.Transfer.Mission
import Planetarium.Wire.Event

/-!
# The simulation

A simulation is a stage with a mission going on in it. Messages and ticks change it, one after another;
each tick turns the frames unless the orbits are paused, settles the camera, and takes the mission a step
further.
-/

namespace Planetarium

/-- How a simulation is set up, in a program that has been built in some way. -/
structure Setup where
  viewAngle : Float32 := 0
  plan : Plan := {}
  startPaused : Bool := false
  build : Build := .debug
  deriving DecidableEq

/-- The whole state, and how the program has been built that works on it. -/
structure Simulation where
  stage : Stage
  mission : Mission
  controls : Controls := Controls.standard
  build : Build

namespace Simulation

/-- **The start.** Builds the system, installs the camera, and reports that the scene is ready. -/
def new (setup : Setup) : Simulation × Entry :=
  let (handles, space) := Solar.build {}
  let (camera, space) := Camera.install space handles.camera setup.viewAngle
  ({ stage :=
       { space
         catalog := {}
         camera
         backdrop := { skybox := handles.skybox, sun := handles.sunGraphic }
         paused := setup.startPaused }
     mission := .new handles.bodies setup.plan
     build := setup.build },
   .sceneReady space.scene.size setup.plan.target)

/-- The simulation with another stage. -/
def withStage (sim : Simulation) (stage : Stage) : Simulation := { sim with stage }

/-- The mission in its space. -/
def flight (sim : Simulation) : Flight := { mission := sim.mission, space := sim.stage.space }

/-- The simulation with the mission and the space of a flight. -/
def withFlight (sim : Simulation) (f : Flight) : Simulation :=
  { sim with stage := { sim.stage with space := f.space }, mission := f.mission }

/-- **A message.** The payload is classified and carried out. One that is turned down is reported with the
payload as it came. -/
def handle (sim : Simulation) (payload : String) : Reply Simulation :=
  match Message.ofPayload? payload with
  | none => { state := sim, answer := .ignored }
  | some message =>
    let reply := sim.stage.dispatch sim.build sim.controls message
    let entries :=
      match reply.answer with
      | .rejected cause => reply.entries ++ [.rejected payload cause]
      | _ => reply.entries
    { reply.toOutcome.map sim.withStage with entries, answer := reply.answer }

/-- The simulation after the frames have turned, unless the orbits are paused. -/
def advance (sim : Simulation) (seconds : Float32) : Simulation :=
  if sim.stage.paused then sim
  else sim.withStage { sim.stage with space := sim.stage.space.advance seconds }

/-- The simulation after the camera has been settled. -/
def settle (sim : Simulation) : Simulation :=
  sim.withStage (sim.stage.withScene (sim.stage.camera.settle sim.stage.space.scene))

/-- **A tick** of `seconds`. -/
def tick (sim : Simulation) (seconds : Float32) : Outcome Simulation :=
  let sim := (sim.advance seconds).settle
  (sim.flight.update sim.build).map sim.withFlight

/-- The place of an object in the world. -/
def worldPosition (sim : Simulation) (id : ObjectId) : Vec3 × Simulation :=
  let (p, space) := sim.stage.space.worldPosition id
  (p, sim.withStage { sim.stage with space })

end Simulation

end Planetarium
