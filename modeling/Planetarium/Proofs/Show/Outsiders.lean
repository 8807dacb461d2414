import Planetarium.Proofs.Scene.Portraits
import Planetarium.Proofs.Show.Course

/-! # Outsiders

    What controllers build stands outside: it belongs neither to the system nor
    to the camera.  Frames turn, the camera moves, and a launch adds objects to
    the same scene, but no outsider is disturbed by any of it.

    * `Stage.Outside A`: the objects outside of a system `A` and of the camera.
    * `Stage.Steady.undisturbed`: control codes change no portrait outside.
    * `Simulation.Undisturbed`: what a step leaves alone, with the number of
      objects that it adds.
    * `Regular.undisturbed_tick`: ticks are such steps. -/

namespace Planetarium

namespace Stage

/-- **The object stands outside:** it is in the scene, and belongs neither to the
    system nor to the camera. -/
structure Outside (A : ObjectId → Prop) (st : Stage) (x : ObjectId) : Prop where
  known : st.space.scene.has x = true
  apart : ¬ A x
  ne_node : x ≠ st.camera.node
  ne_mount : x ≠ st.camera.mount

/-- The objects that the backdrop changes belong to the system. -/
structure Dressed (A : ObjectId → Prop) (st : Stage) : Prop where
  skybox : A st.backdrop.skybox
  sun : A st.backdrop.sun

section outside
variable {A : ObjectId → Prop} {st : Stage} {x : ObjectId}

theorem not_outside_of_mem (h : A x) : ¬ st.Outside A x := fun hx => hx.apart h

theorem not_outside_node : ¬ st.Outside A st.camera.node := fun hx => hx.ne_node rfl

theorem not_outside_mount : ¬ st.Outside A st.camera.mount := fun hx => hx.ne_mount rfl

end outside

/-! ## Section 1: Control codes -/

/-- **What a control code leaves alone:** the portraits outside, the names, and
    the number of objects. -/
structure Keeps (A : ObjectId → Prop) (st st' : Stage) : Prop where
  leaves : st.space.scene.Leaves (st.Outside A) st'.space.scene
  size : st'.space.scene.size = st.space.scene.size
  catalog : st'.catalog = st.catalog
  skybox : st'.backdrop.skybox = st.backdrop.skybox
  sun : st'.backdrop.sun = st.backdrop.sun

namespace Steady
variable {A : ObjectId → Prop} {st : Stage}

theorem keeps_step (st : Stage) (heading : Heading) :
    st.Keeps A (st.withScene (st.camera.step st.space.scene heading)) := by
  refine ⟨?_, ?_, rfl, rfl, rfl⟩
  · exact (Scene.leaves_move not_outside_node _).trans (Scene.leaves_move not_outside_node _)
  · show (st.camera.step st.space.scene heading).size = _
    simp [Camera.step, Scene.translateLocal, Scene.setRotation]

theorem keeps_turn (st : Stage) (degrees : Float32) :
    st.Keeps A (st.withCamera (st.camera.turn st.space.scene degrees)) :=
  ⟨Scene.leaves_move not_outside_node _, Scene.size_move _ _ _, rfl, rfl, rfl⟩

/-- Riding along is about the camera, its mount, and frames of the system. -/
theorem keeps_rideAlong (h : st.Steady A) (build : Build) {name : String}
    (hname : name ≠ Camera.mountFrame) (offset : Vec3) :
    st.Keeps A (st.withCamera (st.camera.rideAlong build st.space name offset).state) := by
  have hkept := st.camera.rideAlong_keeps build st.space name offset
    (P := fun s => st.space.scene.Leaves (st.Outside A) s ∧ s.size = st.space.scene.size ∧
      s.has st.camera.node = true ∧
      ∀ p, s.parentOf? st.camera.node = some p → p = st.camera.mount)
    ⟨.refl _ _, rfl, h.node_known, fun _ => h.node_above⟩ ?_ ?_ ?_
  · exact ⟨hkept.1, hkept.2.1, rfl, rfl, rfl⟩
  · intro frame hframe
    rw [Scene.has_rehang, Scene.size_rehang]
    refine ⟨Scene.leaves_rehang not_outside_mount ?_ ?_, rfl, h.node_known, ?_⟩
    · exact not_outside_of_mem (h.framed hframe hname)
    · exact fun p hp => not_outside_of_mem (h.mount_above hp)
    · -- The camera hangs where it hung before the mount was moved.
      intro p hp
      rw [Scene.parentOf?_rehang _ _ h.mount_known, if_neg h.node_ne_mount] at hp
      exact h.node_above hp
  · intro s hs
    obtain ⟨hleaves, hsize, hnode, habove⟩ := hs
    rw [Scene.setTranslation, Scene.has_move, Scene.size_move, Scene.parentOf?_move]
    exact ⟨hleaves.trans (Scene.leaves_move not_outside_mount _), hsize, hnode, habove⟩
  · intro s hs
    obtain ⟨hleaves, hsize, hnode, habove⟩ := hs
    rw [Scene.has_rehang, Scene.size_rehang, Scene.parentOf?_rehang _ _ hnode, if_pos rfl]
    have hbelow : s.Leaves (st.Outside A) (s.rehang st.camera.node st.camera.mount) := by
      refine Scene.leaves_rehang not_outside_node not_outside_mount ?_
      intro p hp
      rw [habove p hp]
      exact not_outside_mount
    exact ⟨hleaves.trans hbelow, hsize, hnode, fun p hp => (Option.some.inj hp).symm⟩

theorem leaves_dressSky (hsky : A st.backdrop.skybox) {b : Backdrop}
    (hb : b.skybox = st.backdrop.skybox) :
    st.space.scene.Leaves (st.Outside A) (b.dressSky st.space.scene) := by
  have hskybox : ¬ st.Outside A b.skybox := by
    rw [hb]
    exact not_outside_of_mem hsky
  unfold Backdrop.dressSky
  split
  · exact (Scene.leaves_modify hskybox _).trans (Scene.leaves_modify hskybox _)
  · exact Scene.leaves_modify hskybox _

/-- **A control code keeps all that is outside,** as long as it does not let the
    camera ride along with its mount. -/
theorem keeps_apply (h : st.Steady A) (build : Build) (dressed : st.Dressed A) {effect : Effect}
    (hride : ∀ name offset, effect = .rideAlong name offset → name ≠ Camera.mountFrame) :
    st.Keeps A (st.apply build effect).state := by
  cases effect with
  | move heading => exact keeps_step st heading
  | turn degrees => exact keeps_turn st degrees
  | rideAlong name offset => exact h.keeps_rideAlong build (hride name offset rfl) offset
  | togglePause => exact ⟨.refl _ _, rfl, rfl, rfl, rfl⟩
  | toggleSky =>
    exact ⟨leaves_dressSky dressed.skybox rfl, (Scene.alike_dressSky _ _).size, rfl, rfl, rfl⟩
  | toggleSunMaterial =>
    have hsun : ¬ st.Outside A st.backdrop.sun := not_outside_of_mem dressed.sun
    refine ⟨(Scene.leaves_modify hsun _).trans (Scene.leaves_modify hsun _), ?_, rfl, rfl, rfl⟩
    exact ((Scene.alike_clearComponents _ _).trans (Scene.alike_attach _ _ _)).size
  | toggleSkyMaterial =>
    exact ⟨leaves_dressSky dressed.skybox rfl, (Scene.alike_dressSky _ _).size, rfl, rfl, rfl⟩

end Steady

end Stage

/-- The frames of a transfer leave all that is there alone. -/
theorem Space.leaves_withRig {K : ObjectId → Prop} {sp : Space}
    (known : ∀ x, K x → sp.scene.has x = true) (rate : Float32) (center reach : Vec3) :
    sp.scene.Leaves K (sp.withRig rate center reach).scene := by
  -- No frame of the rig is there before it is created.
  have hnew : ∀ {sp : Space}, (∀ x, K x → sp.scene.has x = true) →
      ¬ K (sp.scene.idAt sp.scene.size) :=
    fun known hK => Scene.not_has_idAt_size _ (known _ hK)
  have hcenter : sp.scene.Leaves K (sp.addFrame transferCenter none center none).2.scene :=
    Scene.leaves_addFrame (hnew known) (by simp) _ _ _
  have hfirst : ¬ K (sp.addFrame transferCenter none center none).1 := by
    rw [addFrame_fst]
    exact hnew known
  unfold withRig
  generalize sp.addFrame transferCenter none center none = first at hcenter hfirst ⊢
  have known' : ∀ x, K x → first.2.scene.has x = true :=
    fun x hx => (hcenter.has hx).trans (known x hx)
  have horbit : first.2.scene.Leaves K
      (first.2.addFrame transferOrbit (some first.1) .zero (some (.aboutY rate))).2.scene := by
    refine Scene.leaves_addFrame (hnew known') ?_ _ _ _
    exact fun p hp => Option.some.inj hp ▸ hfirst
  have hsecond :
      ¬ K (first.2.addFrame transferOrbit (some first.1) .zero (some (.aboutY rate))).1 := by
    rw [addFrame_fst]
    exact hnew known'
  simp only
  generalize first.2.addFrame transferOrbit (some first.1) .zero (some (.aboutY rate)) = second
    at horbit hsecond ⊢
  have known'' : ∀ x, K x → second.2.scene.has x = true :=
    fun x hx => (horbit.has hx).trans (known' x hx)
  have harm : second.2.scene.Leaves K
      (second.2.addFrame transferArm (some second.1) reach none).2.scene := by
    refine Scene.leaves_addFrame (hnew known'') ?_ _ _ _
    exact fun p hp => Option.some.inj hp ▸ hsecond
  exact hcenter.trans (horbit.trans harm)

namespace Simulation

/-! ## Section 2: Steps that disturb no outsider -/

/-- The number of objects in a rig. -/
def rigSize : Option Nat → Nat
  | none => 0
  | some _ => 3

/-- **A step that disturbs no outsider.**  `rig` and `rig'` are the rigs before
    and after it. -/
structure Undisturbed (rig rig' : Option Nat) (sim sim' : Simulation) : Prop where
  leaves : sim.scene.Leaves (sim.stage.Outside (Orrery rig)) sim'.scene
  /-- Who is outside stays outside. -/
  outside : ∀ {x}, sim.stage.Outside (Orrery rig) x → sim'.stage.Outside (Orrery rig') x
  catalog : sim'.stage.catalog = sim.stage.catalog
  skybox : sim'.stage.backdrop.skybox = sim.stage.backdrop.skybox
  sun : sim'.stage.backdrop.sun = sim.stage.backdrop.sun
  /-- Only the rig is added. -/
  size : sim'.scene.size + rigSize rig = sim.scene.size + rigSize rig'

namespace Undisturbed
variable {rig rig' rig'' : Option Nat} {sim sim' sim'' : Simulation}

theorem refl (rig : Option Nat) (sim : Simulation) : Undisturbed rig rig sim sim :=
  ⟨.refl _ _, fun hx => hx, rfl, rfl, rfl, rfl⟩

theorem trans (h : Undisturbed rig rig' sim sim') (h' : Undisturbed rig' rig'' sim' sim'') :
    Undisturbed rig rig'' sim sim'' := by
  refine ⟨?_, fun hx => h'.outside (h.outside hx), h'.catalog.trans h.catalog,
    h'.skybox.trans h.skybox, h'.sun.trans h.sun, ?_⟩
  · intro x hx
    exact (h'.leaves x (h.outside hx)).trans (h.leaves x hx)
  · have := h.size
    have := h'.size
    omega

/-- Steps that change the stage within the same system. -/
theorem of_keeps (h : sim.stage.Keeps (Orrery rig) sim'.stage)
    (node : sim'.stage.camera.node = sim.stage.camera.node)
    (mount : sim'.stage.camera.mount = sim.stage.camera.mount) :
    Undisturbed rig rig sim sim' := by
  refine ⟨h.leaves, ?_, h.catalog, h.skybox, h.sun, ?_⟩
  · intro x hx
    refine ⟨(h.leaves.has hx).trans hx.known, hx.apart, ?_, ?_⟩
    · rw [node]
      exact hx.ne_node
    · rw [mount]
      exact hx.ne_mount
  · exact congrArg (· + rigSize rig) h.size

/-- Steps that change the mission and the space. -/
theorem of_space {m : Mission} {sp : Space}
    (leaves : sim.scene.Leaves (sim.stage.Outside (Orrery rig)) sp.scene)
    (size : sp.scene.size = sim.scene.size) :
    Undisturbed rig rig sim (sim.withFlight ⟨m, sp⟩) :=
  of_keeps ⟨leaves, size, rfl, rfl, rfl⟩ rfl rfl

/-- Measuring, with whatever becomes of the mission. -/
theorem of_reread {m : Mission} {sp : Space} (h : sim.stage.space.Reread sp) :
    Undisturbed rig rig sim (sim.withFlight ⟨m, sp⟩) :=
  of_space (.of_reread h.scene) h.scene.size

end Undisturbed

namespace Regular
variable {rig : Option Nat} {sim : Simulation}

/-- **A control code disturbs no outsider.** -/
theorem undisturbed_apply (h : sim.Regular rig) (dressed : sim.stage.Dressed (Orrery rig))
    {code : Char} {effect : Effect} (hcode : sim.controls.get? code = some effect) :
    Undisturbed rig rig sim (sim.withStage (sim.stage.apply sim.build effect).state) := by
  have hride : ∀ name offset, effect = .rideAlong name offset → name ≠ Camera.mountFrame := by
    intro name offset heffect
    rw [h.controls, heffect] at hcode
    exact Controls.grounded_standard code name offset hcode
  have hspares := (h.steady.apply sim.build hride).2
  exact .of_keeps (h.steady.keeps_apply sim.build dressed hride) hspares.node hspares.mount

/-! ## Section 3: Ticks -/

theorem undisturbed_advance (h : sim.Regular rig) (seconds : Float32) :
    Undisturbed rig rig sim (sim.advance seconds) := by
  unfold Simulation.advance
  split
  · exact .refl rig sim
  · refine .of_keeps ⟨?_, ?_, rfl, rfl, rfl⟩ rfl rfl
    · refine Scene.leaves_advance _ ?_ seconds
      intro e he
      exact Stage.not_outside_of_mem (h.registered.spinning e he).1
    · exact foldl_keeps Scene.size (fun _ _ => Scene.size_move _ _ _) sim.frames.spins sim.scene

theorem undisturbed_settle (sim : Simulation) : Undisturbed rig rig sim sim.settle :=
  .of_keeps ⟨Scene.leaves_move Stage.not_outside_node _, Scene.size_move _ _ _, rfl, rfl, rfl⟩
    rfl rfl

/-- The vehicle and the frames that it hangs below belong to the orrery. -/
theorem leaves_attachedTo (h : sim.Regular rig) {frame : ObjectId}
    (hframe : ¬ sim.stage.Outside (Orrery rig) frame) :
    sim.scene.Leaves (sim.stage.Outside (Orrery rig))
      (sim.scene.rehang Solar.bodies.vehicle frame) := by
  refine Scene.leaves_rehang ?_ hframe ?_
  · exact Stage.not_outside_of_mem (orrery_body (by decide))
  · intro p hp
    rw [h.hung.vehicle] at hp
    exact Stage.not_outside_of_mem (Option.some.inj hp ▸ h.attached.orrery)

theorem undisturbed_arrive (h : sim.Regular rig) :
    Undisturbed rig rig sim (sim.withFlight (sim.flight.attachedTo sim.mission.bodies.destination
      .attachedDestination)) := by
  unfold Flight.attachedTo flight
  dsimp only
  rw [h.bodies]
  refine .of_space (h.leaves_attachedTo ?_) ?_
  · exact Stage.not_outside_of_mem (orrery_body (by decide))
  · exact Scene.size_rehang _ _ _

/-- **A launch adds the rig and disturbs no outsider.** -/
theorem undisturbed_depart (h : sim.Regular none) (rate : Float32) (center reach : Vec3) :
    Undisturbed none (some sim.scene.size) sim
      (sim.withFlight (sim.flight.departed rate center reach)) := by
  -- What is outside is there already, so it is no part of the rig.
  have known : ∀ x, sim.stage.Outside (Orrery none) x → sim.scene.has x = true :=
    fun x hx => hx.known
  have hindex : ∀ {x}, sim.stage.Outside (Orrery none) x → x.index < sim.scene.size :=
    fun hx => ((Scene.has_iff _ _).mp hx.known).2
  have hextends := sim.stage.space.extends_withRig rate center reach
  have hrig : sim.scene.Leaves (sim.stage.Outside (Orrery none))
      (sim.stage.space.withRig rate center reach).scene := Space.leaves_withRig known _ _ _
  have hleaves : sim.scene.Leaves (sim.stage.Outside (Orrery none))
      (sim.flight.departed rate center reach).space.scene := by
    unfold Flight.departed Flight.attachedTo flight
    dsimp only
    rw [h.bodies]
    refine hrig.trans (Scene.leaves_rehang ?_ ?_ ?_)
    · exact Stage.not_outside_of_mem (orrery_body (by decide))
    · -- The arm is one of the three new objects.
      intro hx
      have hlt := hindex hx
      rw [Rig.next_eq h.tag] at hlt
      exact absurd hlt (by simp [Rig.ofIndex])
    · intro p hp
      rw [hextends.parentOf? h.vehicle_known, h.hung.vehicle] at hp
      exact Stage.not_outside_of_mem (Option.some.inj hp ▸ h.attached.orrery)
  refine ⟨hleaves, ?_, rfl, rfl, rfl, ?_⟩
  · intro x hx
    refine ⟨(hleaves.has hx).trans hx.known, ?_, hx.ne_node, hx.ne_mount⟩
    intro hinside
    obtain ⟨hscene, hin⟩ := hinside
    have hlt := hindex hx
    rcases hin with hin | ⟨n, hn, hle, _⟩
    · exact hx.apart ⟨hscene, .inl hin⟩
    · obtain rfl := Option.some.inj hn
      omega
  · exact Flight.size_departed _ _ _ _

theorem undisturbed_takeOff (h : sim.Regular rig)
    (horigin : sim.mission.phase = .attachedOrigin) :
    Undisturbed rig (some sim.scene.size) sim (sim.withFlight sim.flight.takenOff) := by
  obtain rfl := h.rig_eq_none horigin
  have hread := sim.flight.reread_surveyed
  have hsize : sim.flight.surveyed.scene.size = sim.scene.size := hread.scene.size
  have hsurveyed := h.reread hread (Flight.sound_surveyed h.steady.sound)
  have hdeparted := hsurveyed.undisturbed_depart sim.mission.plan.orbitRate sim.flight.centerPlace
    (sim.flight.startPlace - sim.flight.centerPlace)
  rw [flight_withFlight, withFlight_withFlight] at hdeparted
  rw [← hsize]
  exact (Undisturbed.of_reread hread).trans hdeparted

theorem undisturbed_checkArrival (h : sim.Regular rig) (build : Build) :
    Undisturbed rig rig sim (sim.withFlight (sim.flight.checkArrival build).state) := by
  obtain ⟨sp, hread, hsound, ⟨hstate, _⟩ | ⟨_, harrived⟩ | ⟨_, hstray, _⟩⟩ :=
    sim.flight.checkArrival_cases build
  · rw [hstate]
    exact .of_reread hread
  · rw [harrived]
    have hregular := h.reread hread (hsound h.steady.sound)
    exact (Undisturbed.of_reread hread).trans hregular.undisturbed_arrive
  · exact absurd h.contains_destination hstray

/-- The sample of an update may lead to the launch. -/
theorem undisturbed_sampled (h : sim.Regular rig) (inStep : sim.mission.InStep) :
    ∃ rig', (sim.withFlight sim.flight.sampled).Regular rig' ∧
      Undisturbed rig rig' sim (sim.withFlight sim.flight.sampled) := by
  have hread := sim.flight.reread_observed
  have hmeasured := (h.reread hread
    (Flight.sound_observed h.steady.sound)).watching sim.flight.sample.2
  rw [flight_withFlight, withFlight_withFlight] at hmeasured
  have hobserved : Undisturbed rig rig sim (sim.withFlight
      (({ sim.flight with space := sim.flight.observed } : Flight).watching
        sim.flight.sample.2)) := .of_reread hread
  unfold Flight.sampled
  split
  · next hsecond =>
    have horigin : sim.mission.phase = .attachedOrigin := by
      refine inStep.mpr ?_
      have hone : sim.mission.watch.tickets = 1 := hsecond.1
      omega
    have hregular := hmeasured.takeOff horigin
    have hlaunched := hmeasured.undisturbed_takeOff horigin
    rw [flight_withFlight, withFlight_withFlight] at hregular hlaunched
    exact ⟨_, hregular, hobserved.trans hlaunched⟩
  · exact ⟨rig, hmeasured, hobserved⟩

/-- **A tick disturbs no outsider.** -/
theorem undisturbed_tick (h : sim.Regular rig) (inStep : sim.mission.InStep)
    (seconds : Float32) :
    ∃ rig', (sim.tick seconds).state.Regular rig' ∧
      Undisturbed rig rig' sim (sim.tick seconds).state := by
  have hturned := (h.advance seconds).settle
  have inStep' := inStep_settle_advance inStep seconds
  have hready : Undisturbed rig rig sim (sim.advance seconds).settle :=
    (h.undisturbed_advance seconds).trans (undisturbed_settle _)
  rw [tick_eq, Outcome.state_map]
  generalize (sim.advance seconds).settle = ready at hturned inStep' hready ⊢
  rw [Flight.state_update sim.build inStep' hturned.complete]
  obtain ⟨rig', hregular, hsampled⟩ := hturned.undisturbed_sampled inStep'
  exact ⟨rig', hregular.checkArrival sim.build,
    hready.trans (hsampled.trans (hregular.undisturbed_checkArrival sim.build))⟩

end Regular

end Simulation

end Planetarium
