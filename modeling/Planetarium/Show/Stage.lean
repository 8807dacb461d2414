import Planetarium.Catalog.Workshop
import Planetarium.Message.Basic
import Planetarium.Show.Controls
import Planetarium.View.Backdrop

/-!
# The stage

All that a message may change: the scene with its frames, the catalog of names, the camera, the backdrop,
and whether the orbits are paused. A message is answered by what was done with it.
-/

namespace Planetarium

/-- What messages work on. -/
structure Stage where
  space : Space
  catalog : Catalog
  camera : Camera
  backdrop : Backdrop
  paused : Bool

/-- What was done with a message. -/
inductive Answer where
  /-- There was nothing to do. -/
  | ignored
  /-- The effect of a control code has been carried out. -/
  | controlled (code : Char)
  /-- An instruction has been carried out. -/
  | authored (verb : Verb)
  /-- The message has been turned down. -/
  | rejected (cause : Rejection)
  deriving DecidableEq

/-- What a message leaves behind: the outcome, and the answer, which counts if nothing stopped it. -/
structure Reply (σ : Type) extends Outcome σ where
  answer : Answer

namespace Stage

/-- The stage with another scene. -/
def withScene (st : Stage) (scene : Scene) : Stage := { st with space := { st.space with scene } }

/-- The scene and the names that instructions work on. -/
def workshop (st : Stage) : Workshop := { scene := st.space.scene, catalog := st.catalog }

/-- The stage with another workshop. -/
def withWorkshop (st : Stage) (w : Workshop) : Stage :=
  { st.withScene w.scene with catalog := w.catalog }

/-- The stage with another camera and scene. -/
def withCamera (st : Stage) (c : Camera × Scene) : Stage := { st.withScene c.2 with camera := c.1 }

/-- The stage with another backdrop and scene. -/
def withBackdrop (st : Stage) (b : Backdrop × Scene) : Stage :=
  { st.withScene b.2 with backdrop := b.1 }

/-- Carries out the effect of a control code. -/
def apply (st : Stage) (build : Build) : Effect → Outcome Stage
  | .move h => .done (st.withScene (st.camera.step st.space.scene h))
  | .turn degrees => .done (st.withCamera (st.camera.turn st.space.scene degrees))
  | .rideAlong frame offset => (st.camera.rideAlong build st.space frame offset).map st.withCamera
  | .togglePause =>
    let st := { st with paused := !st.paused }
    .report st (if st.paused then .paused else .resumed)
  | .toggleSky => .done (st.withBackdrop (st.backdrop.toggleSky st.space.scene))
  | .toggleSunMaterial => .done (st.withBackdrop (st.backdrop.toggleSunMaterial st.space.scene))
  | .toggleSkyMaterial => .done (st.withBackdrop (st.backdrop.toggleSkyMaterial st.space.scene))

/-- Reads and carries out an instruction. -/
def author (st : Stage) (verb : Verb) (tokens : List String) :
    Except Rejection (List Entry × Stage) := do
  -- All tokens are read before any name is looked for.
  let instruction ← (Instruction.parse verb tokens).mapError .parse
  let (entries, w) ← (st.workshop.apply instruction).mapError .notFound
  return (entries, st.withWorkshop w)

/-- Does what a message asks for. -/
def dispatch (st : Stage) (build : Build) (controls : Controls) : Message → Reply Stage
  | .authoring verb tokens =>
    match st.author verb tokens with
    | .ok (entries, st) => { state := st, entries, answer := .authored verb }
    | .error cause => { state := st, answer := .rejected cause }
  | .control code =>
    match controls.get? code with
    | some effect => { st.apply build effect with answer := .controlled code }
    | none => { state := st, answer := .ignored }

end Stage

end Planetarium
