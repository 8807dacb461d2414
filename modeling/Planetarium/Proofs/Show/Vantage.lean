import Planetarium.Proofs.Show.Contracts
import Planetarium.Proofs.Show.Frozen

/-! # Where the camera is

    The vantage of a show is where the camera hangs and where it looks.  Control
    codes are all that changes it, and what they make of it does not depend on
    anything else.  A ride-along makes the same of every vantage.

    * `Vantage.take`: what an effect makes of a vantage.
    * `Regular.vantage_feed`: an input takes its effect, if it has one, and nothing
      else becomes of the vantage.
    * `vantage_after`: so a history takes its effects, one after another.
    * `ride_forgets_past`: what comes before the last ride-along is forgotten, and
      every tick turns the camera to where it looks. -/

namespace Planetarium

/-! ## Section 1: Vantages -/

/-- **Where the camera is and where it looks.** -/
structure Vantage where
  camera : Camera
  /-- What the camera hangs below, and where. -/
  parent : Option ObjectId
  place : Option Vec3
  /-- What the mount hangs below, and where. -/
  mountParent : Option ObjectId
  mountPlace : Option Vec3

namespace Vantage

/-- The vantage of a camera that rides along with a frame. -/
def riding (c : Camera) (frame : ObjectId) (offset : Vec3) : Vantage where
  camera := c.level
  parent := some c.mount
  place := some .zero
  mountParent := some frame
  mountPlace := some offset

/-- **What an effect makes of a vantage,** if the frames have the names in `fs`.  A
    frame without a name is not ridden along with; the camera is leveled. -/
def take (fs : Frames) (v : Vantage) : Effect → Vantage
  | .move heading =>
    let rotation := Quat.ofEulerDegrees ⟨v.camera.pitch, v.camera.yaw - v.camera.viewAngle, 0⟩
    let way := (heading.vector.scale Camera.speed).scale Camera.stepTime
    { v with place := v.place.map (· + rotation.apply way) }
  | .turn degrees => { v with camera := { v.camera with yaw := v.camera.yaw + degrees } }
  | .rideAlong name offset =>
    match fs.get? name with
    | some frame => riding v.camera frame offset
    | none => { v with camera := v.camera.level }
  | .togglePause | .toggleSky | .toggleSunMaterial | .toggleSkyMaterial => v

section take
variable {fs : Frames} {name : String} {frame : ObjectId}

theorem take_rideAlong (h : fs.get? name = some frame) (v : Vantage) (offset : Vec3) :
    v.take fs (.rideAlong name offset) = riding v.camera frame offset := by
  simp only [take, h]

theorem take_rideAlong_of_unknown (h : fs.get? name = none) (v : Vantage) (offset : Vec3) :
    v.take fs (.rideAlong name offset) = { v with camera := v.camera.level } := by
  simp only [take, h]

end take

end Vantage

/-- What is turned stays at its place. -/
theorem Scene.translation_setRotation (s : Scene) (id x : ObjectId) (q : Quat) :
    ((s.setRotation id q).poseOf? x).map Pose.translation =
      (s.poseOf? x).map Pose.translation := by
  rw [poseOf?_setRotation]
  split <;> simp [Function.comp_def]

/-- The objects that a camera consists of. -/
def Camera.Has (c : Camera) (x : ObjectId) : Prop := x = c.node ∨ x = c.mount

namespace Stage

/-- The vantage of a stage. -/
def vantage (st : Stage) : Vantage where
  camera := st.camera
  parent := st.space.scene.parentOf? st.camera.node
  place := (st.space.scene.poseOf? st.camera.node).map Pose.translation
  mountParent := st.space.scene.parentOf? st.camera.mount
  mountPlace := (st.space.scene.poseOf? st.camera.mount).map Pose.translation

/-- What leaves the camera alone leaves the vantage as it is. -/
theorem vantage_of_spares {st st' : Stage} (camera : st'.camera = st.camera)
    (h : st.space.scene.Spares st.camera.Has st'.space.scene) : st'.vantage = st.vantage := by
  have hnode : st.camera.Has st.camera.node := .inl rfl
  have hmount : st.camera.Has st.camera.mount := .inr rfl
  unfold vantage
  rw [camera, h.parentOf? hnode, h.parentOf? hmount, h.poseOf? hnode, h.poseOf? hmount]

/-- Where the camera has been turned to is not to be seen from its vantage. -/
theorem vantage_withCamera (st : Stage) (c : Camera) (q : Quat) (node : c.node = st.camera.node)
    (mount : c.mount = st.camera.mount) :
    (st.withCamera (c, st.space.scene.setRotation st.camera.node q)).vantage =
      { st.vantage with camera := c } := by
  unfold vantage withCamera withScene
  dsimp only
  rw [node, mount, Scene.parentOf?_setRotation, Scene.parentOf?_setRotation,
    Scene.translation_setRotation, Scene.translation_setRotation]

theorem vantage_settle (st : Stage) :
    (st.withScene (st.camera.settle st.space.scene)).vantage = st.vantage :=
  st.vantage_withCamera st.camera st.camera.orientation rfl rfl

theorem vantage_turn (st : Stage) (fs : Frames) (degrees : Float32) :
    (st.withCamera (st.camera.turn st.space.scene degrees)).vantage =
      st.vantage.take fs (.turn degrees) :=
  st.vantage_withCamera { st.camera with yaw := st.camera.yaw + degrees } _ rfl rfl

/-- Materials are components. -/
theorem vantage_withBackdrop {st : Stage} {b : Backdrop} {s : Scene}
    (halike : st.space.scene.Alike s) : (st.withBackdrop (b, s)).vantage = st.vantage :=
  vantage_of_spares rfl (.of_alike halike)

/-! ## Section 2: Messages -/

namespace Steady
variable {A : ObjectId → Prop} {st : Stage}

/-- A step is made along the axes that the object is turned to first. -/
theorem vantage_step (h : st.Steady A) (fs : Frames) (heading : Heading) :
    (st.withScene (st.camera.step st.space.scene heading)).vantage =
      st.vantage.take fs (.move heading) := by
  have hmount := h.node_ne_mount.symm
  unfold vantage Vantage.take Camera.step withScene
  simp [Scene.poseOf?_translateLocal, Scene.poseOf?_setRotation, Scene.parentOf?_translateLocal,
    Scene.parentOf?_setRotation, hmount, Function.comp_def]

theorem parentOf?_riding (h : st.Steady A) (frame : ObjectId) (offset : Vec3) (x : ObjectId) :
    (st.camera.riding st.space.scene frame offset).parentOf? x =
      if x = st.camera.node then some st.camera.mount
      else if x = st.camera.mount then some frame
      else st.space.scene.parentOf? x := by
  have hnode : (st.camera.placed st.space.scene frame offset).has st.camera.node = true := by
    simp [Camera.placed, Scene.setTranslation, h.node_known]
  rw [Camera.riding, Scene.parentOf?_rehang _ _ hnode, Camera.placed,
    Scene.parentOf?_setTranslation, Scene.parentOf?_rehang _ _ h.mount_known]

theorem translation_riding (st : Stage) (frame : ObjectId) (offset : Vec3) (x : ObjectId) :
    ((st.camera.riding st.space.scene frame offset).poseOf? x).map Pose.translation =
      (st.space.scene.poseOf? x).map fun p =>
        if x = st.camera.node then .zero
        else if x = st.camera.mount then offset
        else p.translation := by
  rw [Camera.riding, Scene.poseOf?_rehang, Camera.placed, Scene.poseOf?_setTranslation,
    Scene.poseOf?_rehang]
  split_ifs <;> simp [Function.comp_def]

/-- The camera hangs at the place of the mount, and the mount at its offset from the frame. -/
theorem vantage_riding (h : st.Steady A) (frame : ObjectId) (offset : Vec3) :
    (st.withCamera (st.camera.level, st.camera.riding st.space.scene frame offset)).vantage =
      .riding st.camera frame offset := by
  have hmount := h.node_ne_mount.symm
  obtain ⟨p, hp⟩ := Option.isSome_iff_exists.mp
    ((Scene.isSome_poseOf? _ _).trans h.node_known)
  obtain ⟨q, hq⟩ := Option.isSome_iff_exists.mp
    ((Scene.isSome_poseOf? _ _).trans h.mount_known)
  unfold vantage Vantage.riding withCamera withScene Camera.level
  simp [h.parentOf?_riding, translation_riding, hmount, hp, hq]

/-- **An effect makes of the vantage what it makes of any,** as long as the frame that
    it rides along with has a name. -/
theorem vantage_apply (h : st.Steady A) (build : Build) {effect : Effect}
    (hride : ∀ name offset, effect = .rideAlong name offset →
      (st.space.frames.get? name).isSome = true) :
    (st.apply build effect).state.vantage = st.vantage.take st.space.frames effect := by
  cases effect with
  | move heading => exact h.vantage_step _ heading
  | turn degrees => exact st.vantage_turn _ degrees
  | rideAlong name offset =>
    obtain ⟨frame, hframe⟩ := Option.isSome_iff_exists.mp (hride name offset rfl)
    show (st.withCamera (st.camera.rideAlong build st.space name offset).state).vantage = _
    rw [h.rideAlong_eq build hframe, Vantage.take_rideAlong hframe]
    exact h.vantage_riding frame offset
  | togglePause => rfl
  | toggleSky => exact vantage_withBackdrop (Scene.alike_dressSky _ _)
  | toggleSunMaterial =>
    exact vantage_withBackdrop
      ((Scene.alike_clearComponents _ _).trans (Scene.alike_attach _ _ _))
  | toggleSkyMaterial => exact vantage_withBackdrop (Scene.alike_dressSky _ _)

/-- What is built is new, and what is moved has a name, so neither is the camera. -/
theorem vantage_author (h : st.Steady A) {verb : Verb} {tokens : List String}
    {entries : List Entry} {st' : Stage} (hst : st.author verb tokens = .ok (entries, st')) :
    st'.vantage = st.vantage := by
  obtain ⟨instruction, w, _, happly, rfl⟩ := author_eq_ok hst
  rcases st.workshop.apply_cases happly with
    ⟨spec, position, hresult⟩ | ⟨name, position, hresult⟩ | ⟨name, id, position, hnode, hresult⟩
  · obtain rfl := congrArg (·.2) hresult
    obtain ⟨_, hnode, hmount⟩ := h.ne_idAt_size
    have hnew : ¬ st.camera.Has (st.space.scene.idAt st.space.scene.size) := by
      simp [Camera.Has, hnode, hmount]
    exact vantage_of_spares rfl (((Scene.spares_createChild hnew none spec.name).trans
      (Scene.spares_setTransform hnew _ _ _)).trans (.of_alike (Scene.alike_attach _ _ _)))
  · obtain rfl := congrArg (·.2) hresult
    exact vantage_of_spares rfl (.refl _ _)
  · obtain rfl := congrArg (·.2) hresult
    obtain ⟨_, _, hnode, hmount⟩ := h.named hnode
    have hnamed : ¬ st.camera.Has id := by
      simp [Camera.Has, hnode, hmount]
    exact vantage_of_spares rfl (Scene.spares_setTranslation hnamed position)

theorem vantage_authoring (h : st.Steady A) (build : Build) (controls : Controls) (verb : Verb)
    (tokens : List String) :
    (st.dispatch build controls (.authoring verb tokens)).state.vantage = st.vantage := by
  unfold Stage.dispatch
  dsimp only
  split
  · next hauthor => exact h.vantage_author hauthor
  · rfl

theorem vantage_control (h : st.Steady A) (build : Build) {controls : Controls}
    (serves : st.Serves controls) (code : Char) :
    (st.dispatch build controls (.control code)).state.vantage =
      (controls.get? code).toList.foldl (Vantage.take st.space.frames) st.vantage := by
  unfold Stage.dispatch
  dsimp only
  cases heffect : controls.get? code with
  | some effect =>
    apply h.vantage_apply build
    intro name offset hride
    exact serves code name offset (hride ▸ heffect)
  | none => rfl

end Steady

end Stage

/-- Only a control code has an effect. -/
theorem Input.code?_message (payload : String) :
    Input.code? (.message payload) =
      match Message.ofPayload? payload with
      | some (.control code) => some code
      | _ => none := rfl

/-- The effect of an input. -/
def Input.effect? (input : Input) : Option Effect := input.code?.bind Controls.standard.get?

namespace Simulation

namespace Regular
variable {rig : Option Nat} {sim : Simulation}

/-- **Control codes are all that changes the vantage.** -/
theorem vantage_message (h : sim.Regular rig) (serves : sim.stage.Serves sim.controls)
    (payload : String) :
    (sim.feed (.message payload)).state.stage.vantage =
      (Input.effect? (.message payload)).toList.foldl (Vantage.take sim.frames)
        sim.stage.vantage := by
  rw [feed_message]
  unfold Input.effect?
  rw [Input.code?_message]
  cases Message.ofPayload? payload with
  | none => simp
  | some message =>
    cases message with
    | authoring verb tokens => exact h.steady.vantage_authoring _ _ verb tokens
    | control code =>
      have hcontrol := h.steady.vantage_control sim.build serves code
      rw [h.controls] at hcontrol ⊢
      exact hcontrol

/-! ## Section 3: Ticks -/

/-- The camera is no part of the orrery. -/
theorem not_has_of_orrery (h : sim.Regular rig) {x : ObjectId} (hx : Orrery rig x) :
    ¬ sim.stage.camera.Has x := by
  intro hcamera
  rcases hcamera with rfl | rfl
  · exact h.steady.node_apart hx
  · exact h.steady.mount_apart hx

theorem vantage_advance (h : sim.Regular rig) (seconds : Float32) :
    (sim.advance seconds).stage.vantage = sim.stage.vantage := by
  unfold Simulation.advance
  split
  · rfl
  · -- What spins is a part of the orrery.
    refine Stage.vantage_of_spares rfl (Scene.spares_advance _ ?_ _)
    intro e he
    exact h.not_has_of_orrery (h.registered.spinning e he).1

theorem spares_update (h : sim.Regular rig) (build : Build) (inStep : sim.mission.InStep) :
    sim.scene.Spares sim.stage.camera.Has (sim.flight.update build).state.space.scene := by
  have hvehicle : ¬ sim.stage.camera.Has Solar.bodies.vehicle :=
    h.not_has_of_orrery (orrery_body (by decide))
  have hknown : ∀ x, sim.stage.camera.Has x → sim.scene.has x = true := by
    intro x hx
    obtain rfl | rfl := hx
    · exact h.steady.node_known
    · exact h.steady.mount_known
  obtain ⟨rig', hsampled⟩ := h.sampled inStep
  -- A launch and an arrival move the vehicle, and a launch adds new objects.
  have hbodies : sim.flight.sampled.mission.bodies = Solar.bodies := hsampled.bodies
  have hbefore : sim.flight.mission.bodies = Solar.bodies := h.bodies
  rw [Flight.state_update build inStep h.complete]
  exact (Flight.spares_sampled (hbefore ▸ hvehicle) hknown).trans
    (Flight.spares_checkArrival (hbodies ▸ hvehicle) build)

/-- What an update leaves alone is what has been settled before. -/
theorem vantage_tick (h : sim.Regular rig) (inStep : sim.mission.InStep) (seconds : Float32) :
    (sim.tick seconds).state.stage.vantage = sim.stage.vantage := by
  have hadvance := h.advance seconds
  have hinStep := inStep_settle_advance inStep seconds
  calc (sim.tick seconds).state.stage.vantage
      = (sim.advance seconds).settle.stage.vantage :=
        Stage.vantage_of_spares rfl (hadvance.settle.spares_update _ hinStep)
    _ = (sim.advance seconds).stage.vantage := Stage.vantage_settle _
    _ = sim.stage.vantage := h.vantage_advance seconds

/-- **A tick turns the camera to where it looks.** -/
theorem rotation_tick (h : sim.Regular rig) (inStep : sim.mission.InStep) (seconds : Float32) :
    ((sim.tick seconds).state.scene.poseOf? sim.stage.camera.node).map Pose.rotation =
      some sim.stage.camera.orientation := by
  have hadvance := h.advance seconds
  have hcamera : (sim.advance seconds).stage.camera = sim.stage.camera := by
    unfold Simulation.advance
    split <;> rfl
  have hspares := hadvance.settle.spares_update sim.build (inStep_settle_advance inStep seconds)
  have hnode : (sim.advance seconds).settle.stage.camera.Has sim.stage.camera.node :=
    .inl (congrArg Camera.node hcamera).symm
  obtain ⟨p, hp⟩ := Option.isSome_iff_exists.mp
    ((Scene.isSome_poseOf? _ _).trans hadvance.steady.node_known)
  have hupdated : (sim.tick seconds).state.scene.poseOf? sim.stage.camera.node =
      (sim.advance seconds).settle.scene.poseOf? sim.stage.camera.node := by
    rw [tick_eq]
    exact hspares.poseOf? hnode
  have hsettled : (sim.advance seconds).settle.scene.poseOf? sim.stage.camera.node =
      some { p with rotation := sim.stage.camera.orientation } := by
    -- Moves may have turned the object elsewhere; settling does not look at that.
    show ((sim.advance seconds).scene.setRotation (sim.advance seconds).stage.camera.node
      (sim.advance seconds).stage.camera.orientation).poseOf? _ = _
    rw [hcamera] at hp ⊢
    rw [Scene.poseOf?_setRotation, if_pos rfl, hp]
    rfl
  rw [hupdated, hsettled]
  rfl

/-- **An input takes its effect,** if it has one, and nothing else becomes of the vantage. -/
theorem vantage_feed (h : sim.Regular rig) (inStep : sim.mission.InStep)
    (serves : sim.stage.Serves sim.controls) (input : Input) :
    (sim.feed input).state.stage.vantage =
      input.effect?.toList.foldl (Vantage.take sim.frames) sim.stage.vantage := by
  cases input with
  | message payload => exact h.vantage_message serves payload
  | tick seconds => exact h.vantage_tick inStep seconds

end Regular

end Simulation

/-! ## Section 4: Histories -/

namespace Effect

/-- Whether an effect lets the camera ride along. -/
def rides (e : Effect) : Bool := e.target?.isSome

/-- Whether an effect moves or turns the camera. -/
def steers : Effect → Bool
  | .move _ | .turn _ => true
  | _ => false

/-- The angle of a turn. -/
def degrees? : Effect → Option Float32
  | .turn degrees => some degrees
  | _ => none

end Effect

namespace History

/-- The effects of a history, in order. -/
def effects (h : History) : List Effect := h.filterMap Input.effect?

/-- Whether a control code lets the camera ride along. -/
def codeRides (code : Char) : Bool := (Controls.standard.get? code).any Effect.rides

/-- Whether a control code moves or turns the camera. -/
def codeSteers (code : Char) : Bool := (Controls.standard.get? code).any Effect.steers

/-- **The last ride-along of a history,** and the moves and turns after it. -/
def RidesLast (h : History) (code : Char) (steering : List Char) : Prop :=
  ∃ before later, h.codes = before ++ code :: later ∧ codeRides code = true ∧
    (∀ c ∈ later, codeRides c = false) ∧ steering = later.filter codeSteers

theorem RidesLast.codeRides {h : History} {code : Char} {steering : List Char}
    (hlast : h.RidesLast code steering) : History.codeRides code = true := by
  obtain ⟨_, _, _, hcode, _, _⟩ := hlast
  exact hcode

theorem RidesLast.not_codeRides {h : History} {code : Char} {steering : List Char}
    (hlast : h.RidesLast code steering) : ∀ c ∈ steering, History.codeRides c = false := by
  obtain ⟨_, later, _, _, hlater, rfl⟩ := hlast
  exact fun c hc => hlater c (List.mem_filter.mp hc).1

theorem effects_concat (h : History) (input : Input) :
    effects (h ++ [input]) = effects h ++ input.effect?.toList := by
  unfold effects
  rw [List.filterMap_append]
  cases heffect : input.effect? <;> simp [heffect]

theorem exists_of_codeRides {code : Char} (h : codeRides code = true) :
    ∃ e, Controls.standard.get? code = some e ∧ e.rides = true := by
  unfold codeRides at h
  cases heffect : Controls.standard.get? code with
  | none =>
    rw [heffect] at h
    cases h
  | some e =>
    rw [heffect] at h
    exact ⟨e, rfl, h⟩

theorem effects_eq (h : History) : h.effects = h.codes.filterMap Controls.standard.get? := by
  unfold effects codes Input.effect?
  rw [List.filterMap_filterMap]

end History

namespace Vantage
variable {fs fs' : Frames} {v v' : Vantage}

/-- Nothing changes what the camera consists of, nor its view angle. -/
theorem level_take (fs : Frames) (v : Vantage) (e : Effect) :
    (v.take fs e).camera.level = v.camera.level := by
  cases e with
  | rideAlong name offset =>
    cases hframe : fs.get? name with
    | none =>
      rw [take_rideAlong_of_unknown hframe]
      rfl
    | some frame =>
      rw [take_rideAlong hframe]
      rfl
  | _ => rfl

theorem level_foldl (fs : Frames) (v : Vantage) (es : List Effect) :
    (es.foldl (take fs) v).camera.level = v.camera.level := by
  induction es generalizing v with
  | nil => rfl
  | cons e es ih => rw [List.foldl_cons, ih, level_take]

theorem camera_take_of_rides {e : Effect} (hrides : e.rides = true)
    (hknown : ∀ name ∈ e.target?, (fs.get? name).isSome = true) (v : Vantage) :
    (v.take fs e).camera = v.camera.level := by
  cases e with
  | rideAlong name offset =>
    obtain ⟨frame, hframe⟩ := Option.isSome_iff_exists.mp (hknown name rfl)
    rw [take_rideAlong hframe]
    rfl
  | _ => cases hrides

/-- **A ride-along makes the same of every vantage.** -/
theorem take_congr_of_rides {e : Effect} (hrides : e.rides = true)
    (hknown : ∀ name ∈ e.target?, (fs.get? name).isSome = true)
    (hlevel : v.camera.level = v'.camera.level) : v.take fs e = v'.take fs e := by
  cases e with
  | rideAlong name offset =>
    obtain ⟨frame, hframe⟩ := Option.isSome_iff_exists.mp (hknown name rfl)
    have hmount : v.camera.mount = v'.camera.mount := by
      show v.camera.level.mount = v'.camera.level.mount
      rw [hlevel]
    rw [take_rideAlong hframe, take_rideAlong hframe, riding, riding, hlevel, hmount]
  | _ => cases hrides

/-- Only the names of frames count that are ridden along with. -/
theorem take_congr {e : Effect} (h : ∀ name ∈ e.target?, fs.get? name = fs'.get? name)
    (v : Vantage) : v.take fs e = v.take fs' e := by
  cases e with
  | rideAlong name offset =>
    simp only [take, h name rfl]
  | _ => rfl

/-- What neither rides nor steers leaves the vantage as it is. -/
theorem take_eq_self {e : Effect} (hrides : e.rides = false) (hsteers : e.steers = false)
    (fs : Frames) (v : Vantage) : v.take fs e = v := by
  cases e with
  | move heading => cases hsteers
  | turn degrees => cases hsteers
  | rideAlong name offset => cases hrides
  | _ => rfl

/-- Between two ride-alongs it is the steering that counts. -/
theorem foldl_filter_steers {codes : List Char} (h : ∀ c ∈ codes, History.codeRides c = false)
    (fs : Frames) (v : Vantage) :
    (codes.filterMap Controls.standard.get?).foldl (take fs) v =
      ((codes.filter History.codeSteers).filterMap Controls.standard.get?).foldl (take fs) v := by
  -- Induction on the codes: the filter drops unknown codes and toggles, which change nothing.
  induction codes generalizing v with
  | nil => rfl
  | cons c codes ih =>
    have hcodes := ih fun d hd => h d (by simp [hd])
    have hrides : History.codeRides c = false := h c (by simp)
    unfold History.codeRides at hrides
    cases heffect : Controls.standard.get? c with
    | none =>
      have hsteers : History.codeSteers c = false := by simp [History.codeSteers, heffect]
      simp [heffect, hsteers, hcodes]
    | some e =>
      rw [heffect] at hrides
      cases he : e.steers with
      | true =>
        have hsteers : History.codeSteers c = true := by simp [History.codeSteers, heffect, he]
        simp [heffect, hsteers, hcodes]
      | false =>
        have hsteers : History.codeSteers c = false := by simp [History.codeSteers, heffect, he]
        simp [heffect, hsteers, hcodes, take_eq_self hrides he]

/-- Turns add up, in their order, and nothing else changes where the camera looks. -/
theorem camera_foldl {es : List Effect} (h : ∀ e ∈ es, e.rides = false) (fs : Frames)
    (v : Vantage) :
    (es.foldl (take fs) v).camera.pitch = v.camera.pitch ∧
    (es.foldl (take fs) v).camera.yaw =
      (es.filterMap Effect.degrees?).foldl (· + ·) v.camera.yaw := by
  induction es generalizing v with
  | nil => exact ⟨rfl, rfl⟩
  | cons e es ih =>
    obtain ⟨hpitch, hyaw⟩ := ih (fun d hd => h d (by simp [hd])) (v.take fs e)
    have hrides : e.rides = false := h e (by simp)
    rw [List.foldl_cons, hpitch, hyaw]
    cases e with
    | rideAlong name offset => cases hrides
    | _ => exact ⟨rfl, rfl⟩

end Vantage

namespace Simulation

/-- The names that control codes ride along with are none of a transfer. -/
theorem not_transfer_of_target {code : Char} {e : Effect}
    (h : Controls.standard.get? code = some e) :
    ∀ name ∈ e.target?, name ∉ [transferCenter, transferOrbit, transferArm] := by
  have hall : ∀ e ∈ Controls.standard.entries, ∀ name ∈ e.2.target?,
      name ∉ [transferCenter, transferOrbit, transferArm] := by decide
  exact hall _ (Directory.mem_entries_of_get? h)

theorem frames_start (setup : Setup) : (start setup).frames = openingSpace.frames := by
  rw [start_eq, frames_settle]
  rfl

theorem isSome_get?_of_target {code : Char} {e : Effect}
    (h : Controls.standard.get? code = some e) :
    ∀ name ∈ e.target?, (openingSpace.frames.get? name).isSome = true := by
  intro name hname
  cases e with
  | rideAlong n offset =>
    obtain rfl := Option.some.inj hname
    have hcontrols : (start {}).controls = Controls.standard := (regular_start {}).controls
    rw [← frames_start {}]
    exact serves_start {} code n offset (hcontrols ▸ h)
  | _ => cases hname

/-- Frames come, but none of those at the start loses its name. -/
theorem grows_after (setup : Setup) (h : History) :
    openingSpace.frames.Grows ((start setup).after h).frames := by
  refine invariant_after setup (P := fun sim => openingSpace.frames.Grows sim.frames) ?_ ?_ h
  · exact .of_eq (frames_start setup)
  · intro rig sim hregular inStep hgrows input
    exact hgrows.trans (hregular.grows_feed inStep input)

/-- **A history takes its effects,** one after another. -/
theorem vantage_after (setup : Setup) (h : History) :
    ((start setup).after h).stage.vantage =
      h.effects.foldl (Vantage.take openingSpace.frames) (start setup).stage.vantage := by
  -- Induction on the history from its end: the last input meets a regular state.
  induction h using List.reverseRecOn with
  | nil => rfl
  | append_singleton h input ih =>
    obtain ⟨rig, hregular, inStep⟩ := regular_after setup h
    have hlast : (start setup).after (h ++ [input]) =
        (((start setup).after h).feed input).state := List.foldl_append
    rw [hlast, hregular.vantage_feed inStep (serves_after setup h), ih, History.effects_concat, List.foldl_append]
    cases heffect : input.effect? with
    | none => simp only [Option.toList_none, List.foldl_nil]
    | some e =>
      obtain ⟨code, _, hcode⟩ := Option.bind_eq_some_iff.mp heffect
      -- The frames that are ridden along with have had their names from the start.
      have hnames : ∀ name ∈ e.target?,
          ((start setup).after h).frames.get? name = openingSpace.frames.get? name :=
        fun name hname =>
          (grows_after setup h).get?_eq (not_transfer_of_target hcode name hname)
      simp only [Option.toList_some, List.foldl_cons, List.foldl_nil]
      exact Vantage.take_congr hnames _

/-! ## Section 5: Riding along -/

theorem camera_start (setup : Setup) : (start setup).stage.camera = openingCamera setup := by
  rw [start_eq]
  rfl

/-- **What comes before the last ride-along does not count,** nor does anything after it but
    the steering. -/
theorem vantage_of_ridesLast (setup : Setup) {h : History} {code : Char} {steering : List Char}
    {e : Effect} (heffect : Controls.standard.get? code = some e)
    (hlast : h.RidesLast code steering) :
    ((start setup).after h).stage.vantage =
      (steering.filterMap Controls.standard.get?).foldl (Vantage.take openingSpace.frames)
        ((start setup).stage.vantage.take openingSpace.frames e) := by
  obtain ⟨before, later, hcodes, hcode, hlater, rfl⟩ := hlast
  have hrides : e.rides = true := by simpa [History.codeRides, heffect] using hcode
  -- Whatever comes before, the camera is the one of the start once it is leveled.
  have hlevel := Vantage.level_foldl openingSpace.frames (start setup).stage.vantage
    (before.filterMap Controls.standard.get?)
  rw [vantage_after, History.effects_eq, hcodes, List.filterMap_append, List.foldl_append,
    List.filterMap_cons_some heffect, List.foldl_cons,
    Vantage.take_congr_of_rides hrides (isSome_get?_of_target heffect) hlevel,
    Vantage.foldl_filter_steers hlater]

/-- The camera is leveled by the ride-along, and turned by the turns after it. -/
theorem camera_of_ridesLast (setup : Setup) {h : History} {code : Char} {steering : List Char}
    (hlast : h.RidesLast code steering) :
    ((start setup).after h).stage.camera.pitch = 0 ∧
    ((start setup).after h).stage.camera.yaw =
      (steering.filterMap fun c => (Controls.standard.get? c).bind Effect.degrees?).foldl (· + ·)
        setup.viewAngle := by
  obtain ⟨e, heffect, hrides⟩ := History.exists_of_codeRides hlast.codeRides
  have hcamera := congrArg Vantage.camera (vantage_of_ridesLast setup heffect hlast)
  have hsteering : ∀ d ∈ steering.filterMap Controls.standard.get?, d.rides = false := by
    intro d hd
    obtain ⟨c, hc, hdc⟩ := List.mem_filterMap.mp hd
    simpa [History.codeRides, hdc] using hlast.not_codeRides c hc
  have hlevel : ((start setup).stage.vantage.take openingSpace.frames e).camera =
      (openingCamera setup).level := by
    rw [← camera_start]
    exact Vantage.camera_take_of_rides hrides (isSome_get?_of_target heffect) _
  obtain ⟨hpitch, hyaw⟩ := Vantage.camera_foldl hsteering openingSpace.frames
    ((start setup).stage.vantage.take openingSpace.frames e)
  rw [← hcamera, hlevel] at hpitch hyaw
  refine ⟨hpitch, hyaw.trans ?_⟩
  rw [List.filterMap_filterMap]
  rfl

/-- Two shows with the same view angle start with the same camera. -/
theorem camera_start_congr {setup setup' : Setup} (h : setup.viewAngle = setup'.viewAngle) :
    (start setup).stage.camera = (start setup').stage.camera := by
  rw [camera_start, camera_start, openingCamera, openingCamera, h]

/-- **A ride-along forgets the past of the camera,** and every tick turns the camera to where
    it looks. -/
theorem ride_forgets_past :
    (∀ (setup setup' : Setup) (h h' : History) (code : Char) (steering : List Char),
      setup.viewAngle = setup'.viewAngle → h.RidesLast code steering →
      h'.RidesLast code steering →
      ((start setup).after h).stage.vantage = ((start setup').after h').stage.vantage ∧
      ((start setup).after h).stage.camera.pitch = 0 ∧
      ((start setup).after h).stage.camera.yaw =
        (steering.filterMap fun c => (Controls.standard.get? c).bind Effect.degrees?).foldl (· + ·)
          setup.viewAngle) ∧
    ∀ (setup : Setup) (h : History) (seconds : Float32),
      let sim := (start setup).after (h ++ [.tick seconds])
      (sim.scene.poseOf? sim.stage.camera.node).map Pose.rotation =
        some (.ofEulerDegrees ⟨sim.stage.camera.pitch, sim.stage.camera.yaw, 0⟩) := by
  constructor
  · intro setup setup' h h' code steering hangle hride hride'
    obtain ⟨e, heffect, hrides⟩ := History.exists_of_codeRides hride.codeRides
    have hstart : (start setup).stage.vantage.take openingSpace.frames e =
        (start setup').stage.vantage.take openingSpace.frames e :=
      Vantage.take_congr_of_rides hrides (isSome_get?_of_target heffect)
        (congrArg Camera.level (camera_start_congr hangle))
    refine ⟨?_, camera_of_ridesLast setup hride⟩
    rw [vantage_of_ridesLast setup heffect hride, vantage_of_ridesLast setup' heffect hride',
      hstart]
  · intro setup h seconds
    obtain ⟨rig, hregular, inStep⟩ := regular_after setup h
    have hlast : (start setup).after (h ++ [.tick seconds]) =
        (((start setup).after h).tick seconds).state := List.foldl_append
    have hcamera : (((start setup).after h).tick seconds).state.stage.camera =
        ((start setup).after h).stage.camera :=
      congrArg Vantage.camera (hregular.vantage_tick inStep seconds)
    rw [hlast]
    dsimp only
    rw [hcamera]
    exact hregular.rotation_tick inStep seconds

/-- Two shows that ride along with the vehicle.  One of them has been elsewhere before and is
    paused on the way, and both are moved and turned once. -/
theorem ride_forgets_detour :
    History.RidesLast [.message "f", .message "z", .tick 1, .message "m"] 'f' ['z', 'm'] ∧
    History.RidesLast [.tick 2, .message "t", .message "k", .message "f", .message "p",
      .message "z", .message "m"] 'f' ['z', 'm'] ∧
    ((start { viewAngle := 30 }).after
      [.message "f", .message "z", .tick 1, .message "m"]).stage.vantage =
    ((start { viewAngle := 30, startPaused := true }).after
      [.tick 2, .message "t", .message "k", .message "f", .message "p", .message "z",
        .message "m"]).stage.vantage := by
  have hsteering : ∀ c ∈ ['z', 'm'], History.codeRides c = false :=
    List.forall_mem_cons.mpr ⟨rfl, List.forall_mem_singleton.mpr rfl⟩
  have hride : History.RidesLast [.message "f", .message "z", .tick 1, .message "m"] 'f'
      ['z', 'm'] := ⟨[], ['z', 'm'], by decide, rfl, hsteering, rfl⟩
  have hdetour : History.RidesLast [.tick 2, .message "t", .message "k", .message "f",
      .message "p", .message "z", .message "m"] 'f' ['z', 'm'] :=
    ⟨['t', 'k'], ['p', 'z', 'm'], by decide, rfl, List.forall_mem_cons.mpr ⟨rfl, hsteering⟩, rfl⟩
  exact ⟨hride, hdetour, (ride_forgets_past.1 { viewAngle := 30 }
    { viewAngle := 30, startPaused := true } _ _ 'f' ['z', 'm'] rfl hride hdetour).1⟩

end Simulation

end Planetarium
