import Planetarium.Proofs.Show.Regular

/-! # The course of a show

    A show starts regular, so every state that it reaches is regular, whatever
    messages and ticks it takes.

    * `regular_after`: the state after any history is regular.
    * `invariant_after`: so are all states on the way, which further invariants
      build on.
    * `transfer_agrees_after`: the links of the scene, the names of the frames
      and the phase of the mission never drift apart. -/

namespace Planetarium

namespace Simulation

/-! ## Section 1: The start -/

section start
variable (setup : Setup)

/-- The space at the start before the camera has been settled. -/
def openingSpace : Space := (Solar.built.addFrame Camera.mountFrame none .zero none).2

/-- The camera at the start.  It and its mount come after the orrery. -/
def openingCamera : Camera where
  node := ⟨0, Solar.orrerySize⟩
  mount := ⟨0, Solar.orrerySize + 1⟩
  pitch := Camera.initialPitch
  yaw := 0
  viewAngle := setup.viewAngle

theorem idAt_built : Solar.built.scene.idAt Solar.built.scene.size = ⟨0, Solar.orrerySize + 1⟩ := by
  rw [Scene.idAt, Solar.tag_built, Solar.size_built]

/-- The simulation at the start before the camera has been settled. -/
def opening : Simulation where
  stage :=
    { space := openingSpace
      catalog := {}
      camera := openingCamera setup
      backdrop := { skybox := (Solar.handles {}).skybox, sun := (Solar.handles {}).sunGraphic }
      paused := setup.startPaused }
  mission := .new Solar.bodies setup.plan
  build := setup.build

theorem start_eq : start setup = (opening setup).settle := by
  have hmount : (Solar.built.addFrame Camera.mountFrame none .zero none).1 =
      ⟨0, Solar.orrerySize + 1⟩ := by rw [Space.addFrame_fst, idAt_built]
  have hcamera : (Solar.handles {}).camera = ⟨0, Solar.orrerySize⟩ := by decide
  unfold start new Solar.build Camera.install opening openingSpace openingCamera
  unfold Solar.built at hmount ⊢
  simp only [hmount, hcamera, Solar.handles_bodies]
  rfl

theorem sound_openingSpace : openingSpace.scene.Sound :=
  Solar.sound_built.addFrame _ (by simp) _ _

/-- Nothing but the mount has been added to the system. -/
theorem parentOf?_openingSpace (x : ObjectId) :
    openingSpace.scene.parentOf? x =
      if x = ⟨0, Solar.orrerySize + 1⟩ then none else Solar.built.scene.parentOf? x := by
  unfold openingSpace
  rw [Space.parentOf?_addFrame, idAt_built]

/-- The camera is at the top as well. -/
theorem parentOf?_openingSpace_node :
    openingSpace.scene.parentOf? ⟨0, Solar.orrerySize⟩ = none := by
  have htop : Solar.above Solar.orrerySize = none := by decide
  rw [parentOf?_openingSpace, if_neg (by decide), Solar.parentOf?_built (Nat.le_refl _), htop]

theorem hung_openingSpace : Hung none Solar.bodies.origin openingSpace.scene := by
  constructor
  · intro k hk _
    rw [parentOf?_openingSpace, if_neg]
    · exact Solar.parentOf?_built (Nat.le_of_lt hk)
    · intro heq
      have : k = Solar.orrerySize + 1 := congrArg ObjectId.index heq
      omega
  · rw [parentOf?_openingSpace, if_neg (by decide), Solar.vehicle_eq,
      Solar.parentOf?_built (by decide)]
    decide
  · intro n hn
    cases hn
  · intro n hn
    cases hn
  · intro n hn
    cases hn

theorem seated_openingSpace :
    openingSpace.scene.poseOf? Solar.bodies.vehicle = some Solar.vehiclePose := by
  obtain ⟨part, hpart, _, hpose⟩ := Solar.vehicle_part
  unfold openingSpace
  rw [Space.poseOf?_addFrame, idAt_built, if_neg (by decide), Solar.vehicle_eq,
    Solar.poseOf?_built hpart, hpose]

theorem get?_openingSpace (name : String) :
    openingSpace.frames.get? name =
      if Camera.mountFrame = name then some ⟨0, Solar.orrerySize + 1⟩
      else Solar.built.frames.get? name := by
  unfold openingSpace
  rw [Space.frames_addFrame, Frames.get?_register, idAt_built]

theorem registered_openingSpace : openingSpace.frames.Registered none := by
  constructor
  · intro e he
    unfold openingSpace at he
    rw [Space.frames_addFrame] at he
    rcases Frames.mem_spins_register.mp he with he | ⟨hspin, _⟩
    · obtain ⟨hscene, hlt, hne⟩ := Solar.spins_built he
      refine ⟨⟨hscene, .inl hlt⟩, ?_⟩
      rw [Solar.vehicle_eq]
      intro heq
      exact hne (congrArg ObjectId.index heq)
    · cases hspin
  · rw [get?_openingSpace, if_neg (by decide)]
    exact Solar.get?_built_destination
  · rw [get?_openingSpace, if_neg (by decide), Solar.get?_built_none (by decide)]
    rfl
  · rw [get?_openingSpace, if_neg (by decide), Solar.get?_built_none (by decide)]
    rfl
  · rw [get?_openingSpace, if_neg (by decide), Solar.get?_built_none (by decide)]
    rfl

theorem size_openingSpace : openingSpace.scene.size = Solar.orrerySize + 2 := by
  unfold openingSpace
  rw [Space.size_addFrame, Solar.size_built]

theorem has_openingSpace {k : Nat} (hk : k < Solar.orrerySize + 2) :
    openingSpace.scene.has ⟨0, k⟩ = true := by
  rw [Scene.has_iff, size_openingSpace]
  unfold openingSpace
  rw [Space.tag_addFrame, Solar.tag_built]
  exact ⟨rfl, hk⟩

theorem steady_opening : (opening setup).stage.Steady (Orrery none) := by
  have hnode : ¬ Orrery none ⟨0, Solar.orrerySize⟩ := by
    intro ⟨_, hindex⟩
    simp at hindex
  have hmount : ¬ Orrery none ⟨0, Solar.orrerySize + 1⟩ := by
    intro ⟨_, hindex⟩
    simp only [reduceCtorEq, false_and, exists_const, or_false] at hindex
    omega
  constructor
  · exact sound_openingSpace
  · intro x ⟨hscene, hindex⟩
    obtain ⟨scene, k⟩ := x
    simp only [reduceCtorEq, false_and, exists_const, or_false] at hscene hindex
    subst hscene
    exact has_openingSpace (by omega)
  · exact fun hc hp => hung_openingSpace.closed (orrery_body (by decide)) hc hp
  · -- The frames: the mount, and those of the system.
    intro name frame hframe hname
    replace hframe : openingSpace.frames.get? name = some frame := hframe
    rw [get?_openingSpace, if_neg hname.symm] at hframe
    obtain ⟨hscene, hlt⟩ := Solar.get?_built_lt hframe
    exact ⟨hscene, .inl hlt⟩
  · show openingSpace.frames.get? Camera.mountFrame = _
    rw [get?_openingSpace, if_pos rfl]
    rfl
  · -- The camera and its mount are two objects after the orrery, and both are at the top.
    exact has_openingSpace (by omega)
  · exact has_openingSpace (by omega)
  · exact hnode
  · exact hmount
  · intro heq
    have : Solar.orrerySize = Solar.orrerySize + 1 := congrArg ObjectId.index heq
    omega
  · intro p hp
    replace hp : openingSpace.scene.parentOf? ⟨0, Solar.orrerySize⟩ = some p := hp
    rw [parentOf?_openingSpace_node] at hp
    cases hp
  · intro p hp
    replace hp : openingSpace.scene.parentOf? ⟨0, Solar.orrerySize + 1⟩ = some p := hp
    rw [parentOf?_openingSpace, if_pos rfl] at hp
    cases hp
  · -- No object has been named yet.
    intro name id hid
    cases hid

/-- **The start is regular.** -/
theorem regular_start : (start setup).Regular none := by
  have hopening : (opening setup).Regular none := by
    refine ⟨steady_opening setup, rfl, ?_, rfl, ⟨rfl, rfl⟩, hung_openingSpace,
      seated_openingSpace, registered_openingSpace, ?_⟩
    · show openingSpace.scene.tag = 0
      unfold openingSpace
      rw [Space.tag_addFrame, Solar.tag_built]
    · intro n hn
      cases hn
  rw [start_eq]
  exact hopening.settle

end start

/-! ## Section 2: Histories -/

/-- A tick calls the mission once. -/
theorem mission_tick (sim : Simulation) (seconds : Float32) :
    (sim.tick seconds).state.mission =
      (sim.mission.take sim.build
        ⟨(sim.advance seconds).settle.stage.space, .update⟩).state.mission := by
  rw [tick_eq]
  show (Flight.update ⟨(sim.advance seconds).settle.mission, _⟩ sim.build).state.mission = _
  rw [mission_settle_advance]
  rfl

/-- **Every input keeps a simulation regular,** and its mission in step. -/
theorem Regular.feed {rig : Option Nat} {sim : Simulation} (h : sim.Regular rig)
    (inStep : sim.mission.InStep) (input : Input) :
    ∃ rig', (sim.feed input).state.Regular rig' ∧ (sim.feed input).state.mission.InStep := by
  cases input with
  | message payload =>
    obtain ⟨hregular, _, hmission⟩ := h.message payload
    exact ⟨rig, hregular, hmission ▸ inStep⟩
  | tick seconds =>
    obtain ⟨rig', hregular⟩ := h.tick inStep seconds
    refine ⟨rig', hregular, ?_⟩
    show (sim.tick seconds).state.mission.InStep
    rw [mission_tick]
    exact inStep.take _ _

/-- **The state after a history is regular.** -/
theorem regular_after (setup : Setup) (h : History) :
    ∃ rig, ((start setup).after h).Regular rig ∧ ((start setup).after h).mission.InStep := by
  -- Induction on the history; the rig may come at any tick.
  have hrun : ∀ (h : History) {sim : Simulation} {rig : Option Nat}, sim.Regular rig →
      sim.mission.InStep → ∃ rig', (sim.after h).Regular rig' ∧ (sim.after h).mission.InStep := by
    intro h
    induction h with
    | nil => exact fun {sim rig} hregular inStep => ⟨rig, hregular, inStep⟩
    | cons input h ih =>
      intro sim rig hregular inStep
      obtain ⟨rig', hnext, hstep⟩ := hregular.feed inStep input
      exact ih hnext hstep
  refine hrun h (regular_start setup) ?_
  rw [start_eq]
  exact Mission.inStep_new Solar.bodies setup.plan

/-- **Invariants of a show.**  What holds at the start and is kept by every
    input to a regular simulation holds after every history. -/
theorem invariant_after (setup : Setup) {P : Simulation → Prop} (hstart : P (start setup))
    (hfeed : ∀ {rig : Option Nat} {sim : Simulation}, sim.Regular rig → sim.mission.InStep →
      P sim → ∀ input, P (sim.feed input).state) (h : History) :
    P ((start setup).after h) := by
  -- The last input meets a state that is known to be regular.
  induction h using List.reverseRecOn with
  | nil => exact hstart
  | append_singleton h input ih =>
    obtain ⟨rig, hregular, inStep⟩ := regular_after setup h
    have hlast : (start setup).after (h ++ [input]) =
        (((start setup).after h).feed input).state := by
      unfold after
      rw [List.foldl_append]
      rfl
    rw [hlast]
    exact hfeed hregular inStep ih input

/-! ## Section 3: The transfer -/

/-- **The records of the transfer agree.** -/
structure TransferAgrees (setup : Setup) (sim : Simulation) : Prop where
  bodies : sim.mission.bodies = (start setup).mission.bodies
  /-- The vehicle hangs below the frame that the mission has noted, and is listed there. -/
  vehicle_parent : sim.scene.parentOf? sim.mission.bodies.vehicle = some sim.mission.attached
  vehicle_listed : sim.mission.bodies.vehicle ∈ sim.scene.childrenOf sim.mission.attached
  /-- The vehicle is at the place of that frame, turned and scaled as it was built. -/
  vehicle_pose : ∃ part ∈ Solar.blueprint.parts, part.name = Solar.rocketFrame ∧
    sim.scene.poseOf? sim.mission.bodies.vehicle = some ⟨.zero, part.rotation, part.scale⟩
  origin : sim.mission.phase = .attachedOrigin →
    sim.mission.attached = sim.mission.bodies.origin ∧
    sim.frames.get? transferCenter = none ∧ sim.frames.get? transferOrbit = none ∧
    sim.frames.get? transferArm = none
  transit : sim.mission.phase = .inTransit →
    sim.frames.get? transferArm = some sim.mission.attached
  destination : sim.mission.phase = .attachedDestination →
    sim.mission.attached = sim.mission.bodies.destination
  /-- From the launch on, the three frames are there and hang below one another. -/
  rigged : sim.mission.phase ≠ .attachedOrigin → ∃ center orbit arm,
    sim.frames.get? transferCenter = some center ∧ sim.frames.get? transferOrbit = some orbit ∧
    sim.frames.get? transferArm = some arm ∧ sim.scene.has center = true ∧
    sim.scene.parentOf? center = none ∧
    (sim.scene.parentOf? orbit = some center ∧ orbit ∈ sim.scene.childrenOf center) ∧
    (sim.scene.parentOf? arm = some orbit ∧ arm ∈ sim.scene.childrenOf orbit)

theorem Regular.transferAgrees {rig : Option Nat} {sim : Simulation} (h : sim.Regular rig)
    (setup : Setup) : sim.TransferAgrees setup := by
  have hparent : sim.scene.parentOf? sim.mission.bodies.vehicle = some sim.mission.attached := by
    rw [h.bodies]
    exact h.hung.vehicle
  have hattached := h.attached
  unfold Mission.AttachedTo at hattached
  constructor
  · rw [h.bodies, start_eq]
    rfl
  · exact hparent
  · have hknown := h.steady.known h.attached.orrery
    exact (h.steady.sound.linked.mem_childrenOf_iff hknown _).mpr hparent
  · obtain ⟨part, hpart, hname, hpose⟩ := Solar.vehicle_part
    refine ⟨part, List.mem_of_getElem? hpart, hname, ?_⟩
    have hzero : part.pose = ⟨.zero, part.rotation, part.scale⟩ := by
      have htranslation : part.translation = .zero := congrArg Pose.translation hpose
      rw [← htranslation]
      rfl
    rw [h.bodies, h.seated, ← hpose, hzero]
  · -- Without a rig none of its names is taken.
    intro hphase
    rw [hphase] at hattached
    obtain ⟨hrig, heq⟩ := hattached
    rw [h.registered.center, h.registered.orbit, h.registered.arm, hrig, h.bodies]
    exact ⟨heq, rfl, rfl, rfl⟩
  · intro hphase
    rw [hphase] at hattached
    obtain ⟨n, hrig, heq⟩ := hattached
    rw [h.registered.arm, hrig, heq]
    rfl
  · intro hphase
    rw [hphase] at hattached
    rw [h.bodies]
    exact hattached.2
  · intro hphase
    obtain ⟨n, hn⟩ := h.attached.exists_rig hphase
    -- The frames are in the scene, so the lists of children agree with the parents.
    have hknown : ∀ id ∈ (Rig.ofIndex n).toList, sim.scene.has id = true :=
      fun id hid => h.steady.known (hn ▸ orrery_rig hid)
    have hlisted := fun {p} (hp : p ∈ (Rig.ofIndex n).toList) =>
      h.steady.sound.linked.mem_childrenOf_iff (hknown p hp)
    refine ⟨(Rig.ofIndex n).center, (Rig.ofIndex n).orbit, (Rig.ofIndex n).arm, ?_, ?_, ?_, ?_,
      h.hung.center hn, ⟨h.hung.orbit hn, ?_⟩, ⟨h.hung.arm hn, ?_⟩⟩
    · rw [h.registered.center, hn]
      rfl
    · rw [h.registered.orbit, hn]
      rfl
    · rw [h.registered.arm, hn]
      rfl
    · exact hknown _ (Rig.center_mem _)
    · exact (hlisted (Rig.center_mem _) _).mpr (h.hung.orbit hn)
    · exact (hlisted (Rig.orbit_mem _) _).mpr (h.hung.arm hn)

/-- **Vehicle and transfer never drift apart,** whatever messages and ticks a
    show has taken. -/
theorem transfer_agrees_after (setup : Setup) (h : History) :
    ((start setup).after h).TransferAgrees setup := by
  obtain ⟨rig, hregular, _⟩ := regular_after setup h
  exact hregular.transferAgrees setup

end Simulation

end Planetarium
