import Planetarium.Proofs.Show.Rigging
import Planetarium.Proofs.Transfer.Turns
import Planetarium.Show.History

/-! # Regular simulations

    The mission keeps its phase and the frame of the vehicle on its own, the
    frames have names, and the scene has its links.  `Simulation.Regular` says
    how these records agree, and every input keeps a simulation regular.

    * `Regular.message`: messages spare the orrery.
    * `Regular.tick`: a tick turns frames, settles the camera, and lets the
      mission launch, arrive, or both. -/

namespace Planetarium

/-- The frame that an effect lets the camera ride along with. -/
def Effect.target? : Effect → Option String
  | .rideAlong name _ => some name
  | _ => none

theorem Controls.grounded_standard : Controls.standard.Grounded := by
  intro code name offset hcode
  have hall : ∀ e ∈ Controls.standard.entries, ∀ name ∈ e.2.target?, name ≠ Camera.mountFrame := by
    decide
  exact hall _ (Directory.mem_entries_of_get? hcode) name rfl

namespace Simulation

/-- The scene of a simulation. -/
abbrev scene (sim : Simulation) : Scene := sim.stage.space.scene

/-- The frames of a simulation. -/
abbrev frames (sim : Simulation) : Frames := sim.stage.space.frames

theorem feed_message (sim : Simulation) (payload : String) :
    (sim.feed (.message payload)).state =
      match Message.ofPayload? payload with
      | none => sim
      | some message => sim.withStage (sim.stage.dispatch sim.build sim.controls message).state := by
  show (sim.handle payload).state = _
  unfold handle
  cases Message.ofPayload? payload <;> rfl

/-- Turning and settling are not about the mission. -/
theorem mission_settle_advance (sim : Simulation) (seconds : Float32) :
    (sim.advance seconds).settle.mission = sim.mission := by
  unfold Simulation.advance
  split <;> rfl

/-- So the mission still is in step when it is updated. -/
theorem inStep_settle_advance {sim : Simulation} (inStep : sim.mission.InStep)
    (seconds : Float32) : (sim.advance seconds).settle.flight.mission.InStep := by
  show (sim.advance seconds).settle.mission.InStep
  rw [mission_settle_advance]
  exact inStep

theorem build_settle_advance (sim : Simulation) (seconds : Float32) :
    (sim.advance seconds).settle.build = sim.build := by
  unfold Simulation.advance
  split <;> rfl

/-- A tick ends with an update of the mission. -/
theorem tick_eq (sim : Simulation) (seconds : Float32) :
    sim.tick seconds =
      ((sim.advance seconds).settle.flight.update sim.build).map
        (sim.advance seconds).settle.withFlight := by
  rw [← build_settle_advance sim seconds]
  rfl

theorem flight_withFlight (sim : Simulation) (f : Flight) : (sim.withFlight f).flight = f := rfl

theorem withFlight_withFlight (sim : Simulation) (f g : Flight) :
    (sim.withFlight f).withFlight g = sim.withFlight g := rfl

/-- **The records of a simulation agree.**  `rig` is the number of the first
    frame of the transfer, once there is one. -/
structure Regular (rig : Option Nat) (sim : Simulation) : Prop where
  steady : sim.stage.Steady (Orrery rig)
  controls : sim.controls = Controls.standard
  tag : sim.scene.tag = 0
  bodies : sim.mission.bodies = Solar.bodies
  attached : sim.mission.AttachedTo rig
  hung : Hung rig sim.mission.attached sim.scene
  seated : sim.scene.poseOf? Solar.bodies.vehicle = some Solar.vehiclePose
  registered : sim.frames.Registered rig
  /-- The rig is made of later objects than the system. -/
  rig_new : ∀ {n}, rig = some n → Solar.orrerySize ≤ n

namespace Regular
variable {rig : Option Nat} {sim : Simulation}

/-! ## Section 1: Messages -/

/-- A change that spares the orrery and leaves the mission as it is. -/
theorem withStage (h : sim.Regular rig) {st : Stage} (steady : st.Steady (Orrery rig))
    (spares : sim.stage.Spares (Orrery rig) st) : (sim.withStage st).Regular rig := by
  refine ⟨steady, h.controls, spares.scene.tag.trans h.tag, h.bodies, h.attached,
    h.hung.of_links spares.scene.parentOf?, ?_, ?_, h.rig_new⟩
  · exact (spares.scene.poseOf? (orrery_body (by decide))).trans h.seated
  · show st.space.frames.Registered rig
    rw [spares.frames]
    exact h.registered

/-- **A message keeps a simulation regular and spares the orrery.** -/
theorem message (h : sim.Regular rig) (payload : String) :
    (sim.feed (.message payload)).state.Regular rig ∧
    sim.stage.Spares (Orrery rig) (sim.feed (.message payload)).state.stage ∧
    (sim.feed (.message payload)).state.mission = sim.mission := by
  rw [feed_message]
  split
  · exact ⟨h, .refl _ _, rfl⟩
  · next message hmessage =>
    have hgrounded : sim.controls.Grounded := by
      rw [h.controls]
      exact Controls.grounded_standard
    obtain ⟨hsteady, hspares⟩ := h.steady.dispatch sim.build hgrounded message
    exact ⟨h.withStage hsteady hspares, hspares, rfl⟩

/-! ## Section 2: Turning and settling -/

/-- A change that hangs nothing elsewhere, and leaves the vehicle where it sits
    and the mission as it is. -/
theorem withSpace (h : sim.Regular rig) {sp : Space} (sound : sp.scene.Sound)
    (tag : sp.scene.tag = sim.scene.tag)
    (has : ∀ x, sp.scene.has x = sim.scene.has x)
    (links : ∀ x, sp.scene.parentOf? x = sim.scene.parentOf? x)
    (pose : sp.scene.poseOf? Solar.bodies.vehicle = sim.scene.poseOf? Solar.bodies.vehicle)
    (frames : sp.frames = sim.frames) :
    (sim.withStage { sim.stage with space := sp }).Regular rig := by
  have hhung : Hung rig sim.mission.attached sp.scene := h.hung.of_links fun _ => links _
  refine ⟨h.steady.withSpace sound frames (fun {x} hx => (has x).trans hx) links, h.controls,
    tag.trans h.tag, h.bodies, h.attached, hhung, pose.trans h.seated, ?_, h.rig_new⟩
  show sp.frames.Registered rig
  rw [frames]
  exact h.registered

theorem advance (h : sim.Regular rig) (seconds : Float32) : (sim.advance seconds).Regular rig := by
  unfold Simulation.advance
  split
  · exact h
  · -- The vehicle does not spin, so it keeps its pose.
    have hspares : sim.scene.Spares (· = Solar.bodies.vehicle)
        (sim.frames.advance sim.scene seconds) := by
      refine Scene.spares_advance _ ?_ _
      intro e he
      exact (h.registered.spinning e he).2
    refine h.withSpace (h.steady.sound.advance _ _) hspares.tag ?_ ?_ (hspares.poseOf? rfl) rfl
    · intro x
      exact Scene.has_advance _ _ _ _
    · intro x
      exact Scene.parentOf?_advance _ _ _ _

theorem settle (h : sim.Regular rig) : sim.settle.Regular rig :=
  h.withStage h.steady.settle.1 h.steady.settle.2

/-! ## Section 3: The mission -/

/-- What has to be shown of a flight. -/
theorem of_flight {m : Mission} {sp : Space}
    (steady : ({ sim.stage with space := sp } : Stage).Steady (Orrery rig))
    (controls : sim.controls = Controls.standard) (tag : sp.scene.tag = 0)
    (bodies : m.bodies = Solar.bodies) (attached : m.AttachedTo rig)
    (hung : Hung rig m.attached sp.scene)
    (seated : sp.scene.poseOf? Solar.bodies.vehicle = some Solar.vehiclePose)
    (registered : sp.frames.Registered rig)
    (rig_new : ∀ {n}, rig = some n → Solar.orrerySize ≤ n) :
    (sim.withFlight ⟨m, sp⟩).Regular rig :=
  ⟨steady, controls, tag, bodies, attached, hung, seated, registered, rig_new⟩

/-- Measuring. -/
theorem reread (h : sim.Regular rig) {sp : Space} (hread : sim.stage.space.Reread sp)
    (sound : sp.scene.Sound) : (sim.withFlight ⟨sim.mission, sp⟩).Regular rig := by
  have halike := hread.scene.alike
  have hspace := h.withSpace sound halike.tag halike.has halike.parentOf?
    (halike.poseOf? _) hread.frames
  exact of_flight hspace.steady h.controls hspace.tag h.bodies h.attached hspace.hung hspace.seated
    hspace.registered h.rig_new

/-- A new state of the watch. -/
theorem watching (h : sim.Regular rig) (w : Watch) :
    (sim.withFlight (sim.flight.watching w)).Regular rig :=
  of_flight h.steady h.controls h.tag h.bodies h.attached h.hung h.seated h.registered h.rig_new

theorem vehicle_known (h : sim.Regular rig) : sim.scene.has Solar.bodies.vehicle = true :=
  h.steady.known (orrery_body (by decide))

/-- The destination is a frame, so the vehicle can be hung below it. -/
theorem contains_destination (h : sim.Regular rig) :
    sim.frames.contains sim.mission.bodies.destination = true := by
  have hframe : sim.frames.get? Solar.mars.place = some sim.mission.bodies.destination := by
    rw [h.bodies]
    exact h.registered.destination
  exact Frames.contains_of_get? hframe

/-- A vehicle in transit that is not too far away arrives. -/
theorem checkArrival_of_near (h : sim.Regular rig) (build : Build)
    (htransit : sim.flight.mission.phase = .inTransit)
    (hnear : ¬ sim.flight.mission.plan.arrivalDistance < sim.flight.gap) :
    sim.flight.checkArrival build =
      .report (({ sim.flight with space := sim.flight.approached } : Flight).attachedTo
        sim.flight.mission.bodies.destination .attachedDestination) .arrived := by
  -- The destination still is a frame after the distance has been measured.
  have hread := h.reread sim.flight.reread_approached (Flight.sound_approached h.steady.sound)
  have hframe := hread.contains_destination
  rw [Flight.checkArrival_eq, if_neg (not_not.mpr htransit), if_neg hnear]
  exact Flight.attach_of_contains (f := { sim.flight with space := sim.flight.approached }) hframe
    build _ _

/-- **The arrival.** -/
theorem arrive (h : sim.Regular rig) (htransit : sim.mission.phase = .inTransit) :
    (sim.withFlight (sim.flight.attachedTo sim.mission.bodies.destination
      .attachedDestination)).Regular rig := by
  unfold Flight.attachedTo flight
  dsimp only
  rw [h.bodies]
  have hhung : Hung rig Solar.bodies.destination
      (sim.scene.rehang Solar.bodies.vehicle Solar.bodies.destination) :=
    h.hung.rehang h.vehicle_known h.rig_new _
  -- The parts before the vehicle do not hang below it.
  have houtside : ¬ sim.scene.Within Solar.bodies.destination Solar.bodies.vehicle := by
    refine Scene.not_within_of_closed (fun c p hc hp => h.hung.closed_before hc hp)
      (Solar.bodies_lt _ (by decide)) ?_
    rw [Solar.vehicle_eq]
    exact fun hlt => Nat.lt_irrefl _ hlt.2
  have hrig : ∃ n, rig = some n := h.attached.exists_rig (by simp [htransit])
  refine of_flight ?_ h.controls ?_ rfl ⟨hrig, rfl⟩ hhung (Solar.seated_rehang h.seated _)
    h.registered h.rig_new
  · exact h.steady.rehang hhung (orrery_body (by decide)) houtside
  · exact (Scene.tag_rehang _ _ _).trans h.tag

theorem rig_eq_none (h : sim.Regular rig) (horigin : sim.mission.phase = .attachedOrigin) :
    rig = none := by
  have hattached := h.attached
  unfold Mission.AttachedTo at hattached
  rw [horigin] at hattached
  exact hattached.1

/-- The last part of the orrery is in the scene. -/
theorem orrerySize_le (h : sim.Regular rig) : Solar.orrerySize ≤ sim.scene.size := by
  have hlast : Orrery rig ⟨0, Solar.orrerySize - 1⟩ := orrery_part (by decide)
  have hlt : Solar.orrerySize - 1 < sim.scene.size :=
    ((Scene.has_iff _ _).mp (h.steady.known hlast)).2
  omega

/-- First the rig is created, and then the vehicle is hung below its arm. -/
theorem depart (h : sim.Regular none) (rate : Float32) (center reach : Vec3) :
    (sim.withFlight (sim.flight.departed rate center reach)).Regular (some sim.scene.size) := by
  have hnext : Rig.next sim.flight.space.scene = Rig.ofIndex sim.scene.size := Rig.next_eq h.tag
  unfold Flight.departed Flight.attachedTo
  rw [hnext]
  unfold flight
  dsimp only
  rw [h.bodies]
  have large := h.orrerySize_le
  have rig_new : ∀ {n}, some sim.scene.size = some n → Solar.orrerySize ≤ n :=
    fun hn => Option.some.inj hn ▸ large
  have hextends := sim.stage.space.extends_withRig rate center reach
  have hsteady := h.steady.withRig h.hung h.attached.orrery h.tag large rate center reach
  have hhung := h.hung.withRig h.tag large rate center reach
  have hrehung := hhung.rehang (hextends.has h.vehicle_known) rig_new
    (Rig.ofIndex sim.scene.size).arm
  have harm : Orrery (some sim.scene.size) (Rig.ofIndex sim.scene.size).arm :=
    orrery_rig (Rig.arm_mem _)
  have hseated : (sim.stage.space.withRig rate center reach).scene.poseOf? Solar.bodies.vehicle =
      some Solar.vehiclePose := (hextends.poseOf? h.vehicle_known).trans h.seated
  refine of_flight ?_ h.controls ?_ rfl ⟨sim.scene.size, rfl, rfl⟩ ?_ ?_ ?_ rig_new
  all_goals dsimp only
  · exact hsteady.rehang hrehung harm (hhung.not_within_vehicle large)
  · exact (Scene.tag_rehang _ _ _).trans (hextends.tag.trans h.tag)
  · exact hrehung
  · exact Solar.seated_rehang hseated _
  · exact h.registered.withRig h.tag large rate center reach

/-- **The launch.**  The rig consists of the next three objects. -/
theorem takeOff (h : sim.Regular rig) (horigin : sim.mission.phase = .attachedOrigin) :
    (sim.withFlight sim.flight.takenOff).Regular (some sim.scene.size) := by
  obtain rfl := h.rig_eq_none horigin
  have hread := sim.flight.reread_surveyed
  -- Measuring creates nothing, so the number of the rig is known beforehand.
  have hsize : sim.flight.surveyed.scene.size = sim.scene.size := hread.scene.size
  have hsurveyed := h.reread hread (Flight.sound_surveyed h.steady.sound)
  have hdeparted := hsurveyed.depart sim.mission.plan.orbitRate sim.flight.centerPlace
    (sim.flight.startPlace - sim.flight.centerPlace)
  rw [flight_withFlight, withFlight_withFlight] at hdeparted
  rw [← hsize]
  exact hdeparted

/-- The arrival check reads, or it lets the vehicle arrive. -/
theorem checkArrival (h : sim.Regular rig) (build : Build) :
    (sim.withFlight (sim.flight.checkArrival build).state).Regular rig := by
  obtain ⟨sp, hread, hsound, ⟨hstate, _⟩ | ⟨htransit, harrived⟩ | ⟨_, hstray, _⟩⟩ :=
    sim.flight.checkArrival_cases build
  · rw [hstate]
    exact h.reread hread (hsound h.steady.sound)
  · rw [harrived]
    exact (h.reread hread (hsound h.steady.sound)).arrive htransit
  · exact absurd h.contains_destination hstray

/-- All bodies are in the scene, so an update never stops for one of them. -/
theorem complete (h : sim.Regular rig) : sim.flight.Complete := by
  refine List.all_eq_true.mpr ?_
  intro id hid
  replace hid : id ∈ sim.mission.bodies.toList := hid
  rw [h.bodies] at hid
  exact h.steady.known (orrery_body hid)

/-- The sample of an update may lead to the launch. -/
theorem sampled (h : sim.Regular rig) (inStep : sim.mission.InStep) :
    ∃ rig', (sim.withFlight sim.flight.sampled).Regular rig' := by
  have hmeasured := (h.reread sim.flight.reread_observed
    (Flight.sound_observed h.steady.sound)).watching sim.flight.sample.2
  rw [flight_withFlight, withFlight_withFlight] at hmeasured
  unfold Flight.sampled
  split
  · next hsecond =>
    -- Before the second ticket the vehicle has not left the origin.
    have horigin : sim.mission.phase = .attachedOrigin := by
      refine inStep.mpr ?_
      have hone : sim.mission.watch.tickets = 1 := hsecond.1
      omega
    have hlaunched := hmeasured.takeOff horigin
    rw [flight_withFlight, withFlight_withFlight] at hlaunched
    exact ⟨_, hlaunched⟩
  · exact ⟨rig, hmeasured⟩

/-- **An update of the mission.** -/
theorem update (h : sim.Regular rig) (build : Build) (inStep : sim.mission.InStep) :
    ∃ rig', (sim.withFlight (sim.flight.update build).state).Regular rig' := by
  rw [Flight.state_update build inStep h.complete]
  obtain ⟨rig', hsampled⟩ := h.sampled inStep
  exact ⟨rig', hsampled.checkArrival build⟩

/-- **A tick keeps a simulation regular.** -/
theorem tick (h : sim.Regular rig) (inStep : sim.mission.InStep) (seconds : Float32) :
    ∃ rig', (sim.tick seconds).state.Regular rig' :=
  (h.advance seconds).settle.update _ (inStep_settle_advance inStep seconds)

end Regular

end Simulation

end Planetarium
