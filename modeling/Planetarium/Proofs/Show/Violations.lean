import Planetarium.Proofs.Show.Vantage

/-! # Broken contracts

    Some calls ask their caller to keep a contract: what an object is hung below
    has to be a frame, a name has to be that of a frame, and the bodies of a mission
    have to be in the scene.  A call that breaks its contract is stopped in a debug
    build.  In a release build it is reported, and the call does nothing more.

    In either build it should have changed nothing, and most calls look before they
    change anything.  A ride-along does not: it levels the camera first and looks for
    the frame afterwards, and in a release build it then goes on as if it had found
    one.

    * `Request`, `Request.run`: the calls, and what they do to a simulation.
    * `Request.Breaks`: the contracts that they break.
    * `Request.Broken`, `broken_of_breaks`: what is left behind when a contract is
      broken, in each build, and when that is the state before the call.
    * `stray_ride`: a broken contract that is not without effect. -/

namespace Planetarium

/-! ## Section 1: Calls with a contract -/

/-- The offset at which an effect lets the camera ride along. -/
def Effect.offset? : Effect → Option Vec3
  | .rideAlong _ offset => some offset
  | .move _ | .turn _ | .togglePause | .toggleSky | .toggleSunMaterial | .toggleSkyMaterial => none

/-- A call whose caller has to keep a contract. -/
inductive Request where
  | reparent (node frame : ObjectId)
  | reparentNamed (node : ObjectId) (name : String)
  | rideAlong (name : String) (offset : Vec3)
  /-- The effect of a control code, by whatever table the simulation has. -/
  | control (code : Char)
  /-- A step of the mission. -/
  | update

namespace Request

/-- What a request does to a simulation. -/
def run (sim : Simulation) : Request → Outcome Simulation
  | .reparent node frame =>
    (sim.frames.reparent sim.build sim.scene node frame).map fun scene =>
      sim.withStage (sim.stage.withScene scene)
  | .reparentNamed node name =>
    (sim.frames.reparentNamed sim.build sim.scene node name).map fun scene =>
      sim.withStage (sim.stage.withScene scene)
  | .rideAlong name offset =>
    (sim.stage.camera.rideAlong sim.build sim.stage.space name offset).map fun c =>
      sim.withStage (sim.stage.withCamera c)
  | .control code =>
    (sim.stage.dispatch sim.build sim.controls (.control code)).toOutcome.map sim.withStage
  | .update => (sim.flight.update sim.build).map sim.withFlight

/-- **The contract that a request breaks.** -/
inductive Breaks (sim : Simulation) : Request → Violation → Prop where
  | notAFrame {node frame : ObjectId} (h : sim.frames.contains frame = false) :
    Breaks sim (.reparent node frame) (.notAFrame frame)
  | unknownFrame {node : ObjectId} {name : String} (h : sim.frames.get? name = none) :
    Breaks sim (.reparentNamed node name) (.unknownFrame name)
  | unknownRide {name : String} {offset : Vec3} (h : sim.frames.get? name = none) :
    Breaks sim (.rideAlong name offset) (.unknownFrame name)
  | unknownCode {code : Char} {name : String} {offset : Vec3}
    (hcode : sim.controls.get? code = some (.rideAlong name offset))
    (h : sim.frames.get? name = none) : Breaks sim (.control code) (.unknownFrame name)
  | bodiesMissing (h : ¬ sim.flight.Complete) : Breaks sim .update .bodiesMissing

/-- The offset at which a request lets the camera ride along, if it does so. -/
def ride? (sim : Simulation) : Request → Option Vec3
  | .rideAlong _ offset => some offset
  | .control code => (sim.controls.get? code).bind Effect.offset?
  | .reparent _ _ | .reparentNamed _ _ | .update => none

end Request

/-! ## Section 2: Rides without a frame -/

namespace Camera
variable {c : Camera} {sp : Space} {name : String}

/-- **The scene after a ride along with no frame,** in a release build.  The mount hangs
    where it hung, at its new offset, and the camera below it. -/
def astray (c : Camera) (sp : Space) (offset : Vec3) : Scene :=
  let s := sp.scene.setTranslation c.mount offset
  if sp.frames.contains c.mount then s.rehang c.node c.mount else s

/-- The camera cannot be hung below a mount that is not a frame, which is reported too. -/
def astrayEntries (c : Camera) (fs : Frames) : List Entry :=
  if fs.contains c.mount then [] else [.violated (.notAFrame c.mount)]

/-- Only the pitch and the yaw can tell whether a camera has been leveled. -/
theorem level_eq_iff : c.level = c ↔ c.pitch = 0 ∧ c.yaw = c.viewAngle := by
  obtain ⟨node, mount, pitch, yaw, viewAngle⟩ := c
  simp [level, eq_comm]

/-- A debug build stops a ride-along after the camera has been leveled. -/
theorem rideAlong_debug (h : sp.frames.get? name = none) (offset : Vec3) :
    c.rideAlong .debug sp name offset = .stopped (c.level, sp.scene) (.unknownFrame name) := by
  unfold rideAlong
  simp only
  rw [Frames.reparentNamed_of_unknown .debug _ _ h]
  rfl

/-- A release build goes on. -/
theorem rideAlong_release (h : sp.frames.get? name = none) (offset : Vec3) :
    c.rideAlong .release sp name offset =
      { state := (c.level, c.astray sp offset)
        entries := .violated (.unknownFrame name) :: c.astrayEntries sp.frames } := by
  have hhung : sp.frames.reparent .release (sp.scene.setTranslation c.mount offset) c.node c.mount =
      { state := c.astray sp offset, entries := c.astrayEntries sp.frames } := by
    unfold astray astrayEntries
    by_cases hmount : sp.frames.contains c.mount = true
    · rw [Frames.reparent_of_contains _ _ _ hmount, if_pos hmount, if_pos hmount]
      rfl
    · rw [Frames.reparent_of_not_contains _ _ _ hmount, if_neg hmount, if_neg hmount]
      rfl
  unfold rideAlong
  simp only
  rw [Frames.reparentNamed_of_unknown .release _ _ h]
  -- The rest of the ride meets the scene from before: the violation has not changed it.
  show (((Outcome.violated .release sp.scene (.unknownFrame name)).andThen fun s =>
    sp.frames.reparent .release (s.setTranslation c.mount offset) c.node c.mount).map (c.level, ·)) = _
  rw [Outcome.violated_release_andThen, hhung]
  rfl

end Camera

/-! ## Section 3: What is left behind -/

namespace Simulation
variable {sim : Simulation}

/-- The simulation with a camera that looks level, at its view angle. -/
def leveled (sim : Simulation) : Simulation :=
  sim.withStage { sim.stage with camera := sim.stage.camera.level }

/-- The simulation after a ride along with no frame, in a release build. -/
def astray (sim : Simulation) (offset : Vec3) : Simulation :=
  sim.leveled.withStage
    (sim.leveled.stage.withScene (sim.stage.camera.astray sim.stage.space offset))

theorem leveled_eq_iff :
    sim.leveled = sim ↔
      sim.stage.camera.pitch = 0 ∧ sim.stage.camera.yaw = sim.stage.camera.viewAngle := by
  rw [← Camera.level_eq_iff]
  constructor
  · intro h
    exact congrArg (·.stage.camera) h
  · intro h
    unfold leveled
    rw [h]
    rfl

theorem astray_eq_iff {offset : Vec3} :
    sim.astray offset = sim ↔
      (sim.stage.camera.pitch = 0 ∧ sim.stage.camera.yaw = sim.stage.camera.viewAngle) ∧
      sim.stage.camera.astray sim.stage.space offset = sim.scene := by
  constructor
  · intro h
    have hcamera : sim.stage.camera.level = sim.stage.camera := congrArg (·.stage.camera) h
    have hscene : sim.stage.camera.astray sim.stage.space offset = sim.scene :=
      congrArg scene h
    exact ⟨Camera.level_eq_iff.mp hcamera, hscene⟩
  · intro ⟨hlevel, hscene⟩
    unfold astray
    rw [hscene]
    exact leveled_eq_iff.mpr hlevel

end Simulation

namespace Request
variable {sim : Simulation} {r : Request} {v : Violation}

/-- **What a call that breaks its contract leaves behind.** -/
structure Broken (sim : Simulation) (r : Request) (v : Violation) : Prop where
  /-- A debug build stops there.  A ride-along has leveled the camera by then. -/
  debug : sim.build = .debug →
    r.run sim = .stopped (if (r.ride? sim).isSome then sim.leveled else sim) v
  /-- A release build reports it, and what is no ride-along does nothing more. -/
  release : sim.build = .release → r.ride? sim = none →
    r.run sim = .report sim (.violated v)
  /-- A ride-along goes on in a release build. -/
  release_ride : sim.build = .release → ∀ offset, r.ride? sim = some offset →
    r.run sim =
      { state := sim.astray offset
        entries := .violated v :: sim.stage.camera.astrayEntries sim.frames }
  /-- **When a broken contract has no effect:** if it is not that of a ride-along.  One that
      is has to find the camera level, and in a release build hanging below the mount,
      which is where it is to be. -/
  unchanged_iff : (r.run sim).state = sim ↔
    ∀ offset, r.ride? sim = some offset →
      (sim.stage.camera.pitch = 0 ∧ sim.stage.camera.yaw = sim.stage.camera.viewAngle) ∧
      (sim.build = .release →
        sim.stage.camera.astray sim.stage.space offset = sim.scene)

/-- A call that does nothing of its own leaves the state before it. -/
theorem broken_of_violated (hride : r.ride? sim = none) (hrun : r.run sim = .violated sim.build sim v) :
    r.Broken sim v := by
  constructor
  · intro hbuild
    rw [hrun, hbuild, hride]
    rfl
  · intro hbuild _
    rw [hrun, hbuild]
    rfl
  · intro _ offset hoffset
    rw [hride] at hoffset
    cases hoffset
  · rw [hrun, hride, Outcome.state_violated]
    simp

/-- A ride-along, by itself or by a control code. -/
theorem broken_of_ride {name : String} {offset : Vec3} (hride : r.ride? sim = some offset)
    (hrun : r.run sim =
      (sim.stage.camera.rideAlong sim.build sim.stage.space name offset).map fun c =>
        sim.withStage (sim.stage.withCamera c))
    (h : sim.frames.get? name = none) : r.Broken sim (.unknownFrame name) := by
  have hdebug : sim.build = .debug → r.run sim = .stopped sim.leveled (.unknownFrame name) := by
    intro hbuild
    rw [hrun, hbuild, Camera.rideAlong_debug h]
    rfl
  have hrelease : sim.build = .release → r.run sim =
      { state := sim.astray offset
        entries := .violated (.unknownFrame name) ::
          sim.stage.camera.astrayEntries sim.frames } := by
    intro hbuild
    rw [hrun, hbuild, Camera.rideAlong_release h]
    rfl
  constructor
  · intro hbuild
    rw [hdebug hbuild, hride]
    rfl
  · intro _ hnone
    rw [hride] at hnone
    cases hnone
  · intro hbuild offset' hoffset
    obtain rfl := Option.some.inj (hride.symm.trans hoffset)
    exact hrelease hbuild
  · simp only [hride, Option.some.injEq, forall_eq']
    cases hbuild : sim.build with
    | debug =>
      rw [hdebug hbuild]
      exact Simulation.leveled_eq_iff.trans (by simp)
    | release =>
      rw [hrelease hbuild]
      exact Simulation.astray_eq_iff.trans (by simp)

end Request

namespace Simulation
variable {sim : Simulation}

/-- **Broken contracts.**  Whatever state a call meets, and however the program has been
    built, a call that breaks its contract says so and has no effect, unless it is a
    ride-along. -/
theorem broken_of_breaks {r : Request} {v : Violation} (h : r.Breaks sim v) : r.Broken sim v := by
  cases h with
  | @notAFrame node frame h =>
    have hframe : ¬ sim.frames.contains frame = true := by simp [h]
    apply Request.broken_of_violated rfl
    unfold Request.run
    simp only
    rw [Frames.reparent_of_not_contains sim.build _ _ hframe]
    cases sim.build <;> rfl
  | @unknownFrame node name h =>
    apply Request.broken_of_violated rfl
    unfold Request.run
    simp only
    rw [Frames.reparentNamed_of_unknown sim.build _ _ h]
    cases sim.build <;> rfl
  | unknownRide h => exact Request.broken_of_ride rfl rfl h
  | @unknownCode code name offset hcode h =>
    have hride : (Request.control code).ride? sim = some offset := by
      simp only [Request.ride?, hcode]
      rfl
    refine Request.broken_of_ride hride ?_ h
    unfold Request.run Stage.dispatch
    simp only [hcode]
    rfl
  | bodiesMissing h =>
    apply Request.broken_of_violated rfl
    unfold Request.run
    simp only
    rw [Flight.update_eq, if_neg h]
    cases sim.build <;> rfl

/-! ## Section 4: A ride that goes nowhere -/

theorem get?_start_of_unknown {name : String} (hmount : Camera.mountFrame ≠ name)
    (h : name ∉ Solar.blueprint.parts.map (·.name)) (setup : Setup) :
    (start setup).frames.get? name = none := by
  rw [frames_start, get?_openingSpace, if_neg hmount, Solar.get?_built_none h]

theorem build_start (setup : Setup) : (start setup).build = setup.build := by
  rw [start_eq]
  rfl

/-- At the start there is no such frame, and the camera looks down. -/
theorem broken_nowhere :
    (Request.rideAlong "Nowhere" .zero).Breaks (start {}) (.unknownFrame "Nowhere") ∧
    (Request.rideAlong "Nowhere" .zero).Broken (start {}) (.unknownFrame "Nowhere") ∧
    (Request.rideAlong "Nowhere" .zero).Breaks (start { build := .release })
      (.unknownFrame "Nowhere") ∧
    (Request.rideAlong "Nowhere" .zero).Broken (start { build := .release })
      (.unknownFrame "Nowhere") := by
  have hbreaks : ∀ setup : Setup, (Request.rideAlong "Nowhere" .zero).Breaks (start setup)
      (.unknownFrame "Nowhere") :=
    fun setup => .unknownRide (get?_start_of_unknown (by decide) (by decide) setup)
  exact ⟨hbreaks _, broken_of_breaks (hbreaks _), hbreaks _, broken_of_breaks (hbreaks _)⟩

/-- At the start the camera is at the top. -/
theorem parentOf?_node_start (setup : Setup) :
    (start setup).scene.parentOf? (start setup).stage.camera.node = none := by
  have hsettle : ∀ (sim : Simulation) (x : ObjectId),
      sim.settle.scene.parentOf? x = sim.scene.parentOf? x :=
    fun sim x => Scene.parentOf?_move _ _ _ _
  rw [camera_start, start_eq, hsettle]
  exact parentOf?_openingSpace_node

/-- A camera that has gone astray hangs below its mount. -/
theorem Regular.parentOf?_astray {rig : Option Nat} (h : sim.Regular rig) (offset : Vec3) :
    (sim.astray offset).scene.parentOf? sim.stage.camera.node = some sim.stage.camera.mount := by
  have hmount := Frames.contains_of_get? h.steady.mounted
  have hnode : (sim.scene.setTranslation sim.stage.camera.mount offset).has
      sim.stage.camera.node = true := by
    rw [Scene.setTranslation, Scene.has_move]
    exact h.steady.node_known
  show (sim.stage.camera.astray sim.stage.space offset).parentOf? _ = _
  unfold Camera.astray
  simp only
  rw [if_pos hmount, Scene.parentOf?_rehang _ _ hnode, if_pos rfl]

/-- **A broken contract with an effect.**  No frame has the name, and yet the camera does not
    look where it looked before.  In a release build it does not hang where it hung, either. -/
theorem stray_ride :
    ((start {}).frames.get? "Nowhere" = none ∧
      (start {}).stage.camera.pitch = 60 ∧
      ((Request.rideAlong "Nowhere" .zero).run (start {})).violation =
        some (.unknownFrame "Nowhere") ∧
      ((Request.rideAlong "Nowhere" .zero).run (start {})).state.stage.camera.pitch = 0 ∧
      ((Request.rideAlong "Nowhere" .zero).run (start {})).state ≠ start {}) ∧
    ((start { build := .release }).frames.get? "Nowhere" = none ∧
      (start { build := .release }).scene.parentOf?
        (start { build := .release }).stage.camera.node = none ∧
      ((Request.rideAlong "Nowhere" .zero).run (start { build := .release })).entries =
        [.violated (.unknownFrame "Nowhere")] ∧
      ((Request.rideAlong "Nowhere" .zero).run
        (start { build := .release })).state.stage.camera.pitch = 0 ∧
      ((Request.rideAlong "Nowhere" .zero).run
        (start { build := .release })).state.scene.parentOf?
          (start { build := .release }).stage.camera.node =
        some (start { build := .release }).stage.camera.mount) := by
  have hunknown : ∀ setup : Setup, (start setup).frames.get? "Nowhere" = none :=
    get?_start_of_unknown (by decide) (by decide)
  have hbroken : ∀ setup : Setup, (Request.rideAlong "Nowhere" .zero).Broken (start setup)
      (.unknownFrame "Nowhere") :=
    fun setup => Request.broken_of_ride rfl rfl (hunknown setup)
  constructor
  · have hpitch : (start {}).stage.camera.pitch = 60 := by
      rw [camera_start]
      rfl
    have hleveled : (start {}).leveled ≠ start {} := by
      intro h
      have hlevel := (leveled_eq_iff.mp h).1
      rw [hpitch] at hlevel
      exact absurd hlevel (by decide)
    rw [(hbroken {}).debug (build_start {})]
    exact ⟨hunknown {}, hpitch, rfl, rfl, hleveled⟩
  · have hregular := regular_start { build := .release }
    have hmount := Frames.contains_of_get? hregular.steady.mounted
    have hentries : (start { build := .release }).stage.camera.astrayEntries
        (start { build := .release }).frames = [] := if_pos hmount
    rw [(hbroken { build := .release }).release_ride (build_start _) .zero rfl, hentries]
    exact ⟨hunknown _, parentOf?_node_start _, rfl, rfl, hregular.parentOf?_astray _⟩

end Simulation

end Planetarium
