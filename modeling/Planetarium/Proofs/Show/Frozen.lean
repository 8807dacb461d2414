import Planetarium.Proofs.Show.Arrival
import Planetarium.Proofs.Show.Outsiders
import Planetarium.Proofs.Show.Timing

/-! # The pause

    A tick goes on watching and checking while the orbits are paused.  Nothing
    comes of it, because the tick before it has seen the same places: the watch
    has taken that angle, and a vehicle that still is in transit is out of range.

    * `Watch.observePlaces_again`: a watch takes nothing from the same places twice.
    * `Flight.AtRest`: the next update finds nothing to do.  Messages keep a
      mission at rest, and every tick leaves it at rest (`atRest_after`).
    * `Frozen`: the camera turns to where it looks, and nothing else changes.
    * `frozen_tick_after`: what a tick does while the orbits are paused. -/

namespace Planetarium

/-! ## Section 1: Places that stay -/

/-- **Who is left alone with all above it stays at its place.** -/
theorem Scene.Spares.freshPosition {K : ObjectId → Prop} {s t : Scene} (h : s.Spares K t)
    (hs : s.Sound) (ht : t.Sound) (closed : ∀ c p, K c → s.parentOf? c = some p → K p)
    {x : ObjectId} (hx : K x) : t.freshPosition x = s.freshPosition x :=
  congrArg Mat4.originImage (freshMatrix_congr hs.acyclic ht.acyclic closed
    (fun _ hc => h.parentOf? hc) (fun _ hc => h.poseOf? hc) hx)

/-- The objects that come before the vehicle. -/
def BeforeVehicle (x : ObjectId) : Prop := x.scene = 0 ∧ x.index < Solar.vehicleIndex

theorem not_beforeVehicle : ¬ BeforeVehicle Solar.bodies.vehicle := by
  rw [Solar.vehicle_eq]
  exact fun h => Nat.lt_irrefl _ h.2

namespace Flight
variable {K : ObjectId → Prop} {f : Flight}

/-- A launch adds the rig and moves the vehicle. -/
theorem spares_takenOff (hvehicle : ¬ K f.mission.bodies.vehicle)
    (known : ∀ x, K x → f.space.scene.has x = true) :
    f.space.scene.Spares K f.takenOff.space.scene := by
  have hread := f.reread_surveyed.scene.alike
  have hrig := f.surveyed.extends_withRig f.mission.plan.orbitRate f.centerPlace
    (f.startPlace - f.centerPlace)
  refine (Scene.Spares.of_alike hread).trans ((hrig.mono ?_).trans (Scene.spares_rehang hvehicle))
  intro x hx
  rw [hread.has]
  exact known x hx

theorem spares_sampled (hvehicle : ¬ K f.mission.bodies.vehicle)
    (known : ∀ x, K x → f.space.scene.has x = true) :
    f.space.scene.Spares K f.sampled.space.scene := by
  have hread := f.reread_observed.scene.alike
  have hobserved : f.space.scene.Spares K f.observed.scene := .of_alike hread
  unfold sampled
  dsimp only
  split
  · refine hobserved.trans
      (spares_takenOff (f := ({ f with space := f.observed } : Flight).watching f.sample.2)
        hvehicle ?_)
    intro x hx
    exact (hread.has x).trans (known x hx)
  · exact hobserved

theorem spares_checkArrival (hvehicle : ¬ K f.mission.bodies.vehicle) (build : Build) :
    f.space.scene.Spares K (f.checkArrival build).state.space.scene := by
  obtain ⟨sp, hread, hspace | hspace⟩ := f.space_checkArrival build
  · rw [hspace]
    exact .of_alike hread.scene.alike
  · rw [hspace]
    exact (Scene.Spares.of_alike hread.scene.alike).trans (Scene.spares_rehang hvehicle)

end Flight

/-! ## Section 2: Missions at rest -/

/-- **A watch takes nothing from the same places twice.** -/
theorem Watch.observePlaces_again (w : Watch) (origin destination reference : Vec3) :
    (w.observePlaces origin destination reference).2.observePlaces origin destination reference =
      (none, (w.observePlaces origin destination reference).2) := by
  unfold observePlaces
  cases Window.angle? origin destination reference with
  | none => rfl
  | some angle =>
    show (w.observe angle).2.observe angle = (none, (w.observe angle).2)
    unfold observe
    by_cases honto : angle = w.target
    · -- On the target the watch is not armed afterwards, whether it has fired or not.
      by_cases harmed : w.armed = true <;> simp [honto, harmed]
    · simp [honto]

namespace Flight

/-- The sample that a watch takes of the places where the bodies are. -/
def glance (f : Flight) : Option Ticket × Watch :=
  f.mission.watch.observePlaces (f.space.scene.freshPosition f.mission.bodies.origin)
    (f.space.scene.freshPosition f.mission.bodies.destination)
    (f.space.scene.freshPosition f.mission.bodies.reference)

/-- **A mission at rest.**  The watch has taken the angle under which the bodies are
    seen, and a vehicle in transit is out of range. -/
structure AtRest (f : Flight) : Prop where
  watch : f.glance = (none, f.mission.watch)
  range : f.mission.phase = .inTransit → f.mission.plan.arrivalDistance < f.apart

namespace AtRest
variable {f g : Flight}

/-- Only the places of the bodies count. -/
theorem of_places (h : f.AtRest) (mission : g.mission = f.mission)
    (places : ∀ id ∈ f.mission.bodies.toList,
      g.space.scene.freshPosition id = f.space.scene.freshPosition id) : g.AtRest := by
  constructor
  · have hwatch := h.watch
    unfold glance at hwatch ⊢
    rw [mission, places _ (by simp [Bodies.toList]), places _ (by simp [Bodies.toList]),
      places _ (by simp [Bodies.toList])]
    exact hwatch
  · have hrange := h.range
    unfold apart at hrange ⊢
    rw [mission, places _ (by simp [Bodies.toList]), places _ (by simp [Bodies.toList])]
    exact hrange

theorem checkArrival (h : f.AtRest) (build : Build) (sound : f.space.scene.Sound) :
    ∃ sp, f.space.Reread sp ∧ sp.scene.Sound ∧ f.checkArrival build = .done ⟨f.mission, sp⟩ := by
  by_cases htransit : f.mission.phase = .inTransit
  · refine ⟨f.approached, f.reread_approached, sound_approached sound, ?_⟩
    have hfar : f.mission.plan.arrivalDistance < f.gap := by
      rw [gap_eq sound]
      exact h.range htransit
    rw [checkArrival_eq, if_neg (not_not.mpr htransit), if_pos hfar]
  · exact ⟨f.space, .refl f.space, sound, if_pos htransit⟩

/-- **An update of a mission at rest** only measures where the bodies are. -/
theorem update (h : f.AtRest) (build : Build) (complete : f.Complete)
    (sound : f.space.scene.Sound) :
    ∃ sp, f.space.Reread sp ∧ sp.scene.Sound ∧ f.update build = .done ⟨f.mission, sp⟩ := by
  have hread := f.reread_observed
  have hsample : f.sample = (none, f.mission.watch) := (sample_eq sound).trans h.watch
  have hafter : ({ f with space := f.observed } : Flight).afterSample build f.sample =
      .done { f with space := f.observed } := by
    rw [hsample]
    rfl
  -- The places are the same after they have been measured.
  have hrest : ({ f with space := f.observed } : Flight).AtRest :=
    h.of_places rfl fun id _ => hread.freshPosition sound id
  obtain ⟨sp, hagain, hsound, hdone⟩ :=
    hrest.checkArrival build (sound_observed sound)
  refine ⟨sp, hread.trans hagain, hsound, ?_⟩
  rw [update_eq, if_pos complete, hafter, Outcome.done_andThen, hdone]

end AtRest

end Flight

namespace Simulation

namespace Regular
variable {rig rig' : Option Nat} {sim sim' : Simulation}

/-! ## Section 3: Rest is kept -/

/-- What spares the orrery and the mission leaves the mission at rest. -/
theorem atRest_of_spares (h : sim.Regular rig) (h' : sim'.Regular rig')
    (rest : sim.flight.AtRest) (mission : sim'.mission = sim.mission)
    (spares : sim.scene.Spares (Orrery rig) sim'.scene) : sim'.flight.AtRest := by
  refine rest.of_places mission ?_
  intro id hid
  replace hid : id ∈ sim.mission.bodies.toList := hid
  rw [h.bodies] at hid
  exact spares.freshPosition h.steady.sound h'.steady.sound (fun _ _ => h.steady.closed)
    (orrery_body hid)

theorem atRest_message (h : sim.Regular rig) (rest : sim.flight.AtRest) (payload : String) :
    (sim.feed (.message payload)).state.flight.AtRest := by
  obtain ⟨hregular, hspares, hmission⟩ := h.message payload
  exact h.atRest_of_spares hregular rest hmission hspares.scene

theorem atRest_settle (h : sim.Regular rig) (rest : sim.flight.AtRest) :
    sim.settle.flight.AtRest :=
  h.atRest_of_spares h.settle rest rfl h.steady.settle.2.scene

/-! ## Section 4: Every tick leaves a mission at rest -/

/-- A vehicle that is in transit after the arrival has been checked is out of range. -/
theorem range_checkArrival (h : sim.Regular rig) (build : Build)
    (htransit : (sim.flight.checkArrival build).state.mission.phase = .inTransit) :
    (sim.flight.checkArrival build).state.mission.plan.arrivalDistance <
      (sim.flight.checkArrival build).state.apart := by
  have hsound : sim.flight.space.scene.Sound := h.steady.sound
  by_cases hphase : sim.flight.mission.phase = .inTransit
  · by_cases hfar : sim.flight.mission.plan.arrivalDistance < sim.flight.gap
    · have hstate : (sim.flight.checkArrival build).state =
          { sim.flight with space := sim.flight.approached } := by
        rw [Flight.checkArrival_eq, if_neg (not_not.mpr hphase), if_pos hfar]
        rfl
      have hplaces := sim.flight.reread_approached.freshPosition hsound
      rw [hstate]
      unfold Flight.apart
      rw [hplaces, hplaces, ← Flight.gap_eq hsound]
      exact hfar
    · rw [h.checkArrival_of_near build hphase hfar] at htransit
      cases htransit
  · rw [Flight.checkArrival_eq, if_pos hphase] at htransit
    exact absurd htransit hphase

/-- The bodies that are watched stay where they are while the sample is taken and the
    arrival is checked: neither a launch nor an arrival moves what comes before the
    vehicle. -/
theorem places_update (h : sim.Regular rig) {build : Build} (inStep : sim.mission.InStep)
    (h' : (sim.withFlight (sim.flight.update build).state).Regular rig') {id : ObjectId}
    (hid : id ∈ [Solar.bodies.origin, Solar.bodies.destination, Solar.bodies.reference,
      Solar.bodies.anchor]) :
    (sim.flight.update build).state.space.scene.freshPosition id = sim.scene.freshPosition id := by
  have hvehicle : ¬ BeforeVehicle sim.flight.mission.bodies.vehicle := by
    show ¬ BeforeVehicle sim.mission.bodies.vehicle
    rw [h.bodies]
    exact not_beforeVehicle
  have hknown : ∀ x, BeforeVehicle x → sim.scene.has x = true := by
    rintro ⟨scene, k⟩ ⟨rfl, hk⟩
    have hle : Solar.vehicleIndex < Solar.orrerySize := by decide
    exact h.steady.known (orrery_part (Nat.lt_trans hk hle))
  obtain ⟨rig₂, hsampled⟩ := h.sampled inStep
  have hvehicle' : ¬ BeforeVehicle sim.flight.sampled.mission.bodies.vehicle := by
    have hbodies : sim.flight.sampled.mission.bodies = Solar.bodies := hsampled.bodies
    rw [hbodies]
    exact not_beforeVehicle
  have hspares : sim.scene.Spares BeforeVehicle (sim.flight.update build).state.space.scene := by
    rw [Flight.state_update build inStep h.complete]
    exact (Flight.spares_sampled hvehicle hknown).trans
      (Flight.spares_checkArrival hvehicle' build)
  exact hspares.freshPosition h.steady.sound h'.steady.sound
    (fun _ _ hc hp => h.hung.closed_before hc hp) (Solar.bodies_lt id hid)

theorem atRest_update (h : sim.Regular rig) (build : Build) (inStep : sim.mission.InStep) :
    (sim.flight.update build).state.AtRest := by
  obtain ⟨rig', hupdated⟩ := h.update build inStep
  obtain ⟨rig₂, hsampled⟩ := h.sampled inStep
  have hstate := Flight.state_update build inStep h.complete
  constructor
  · -- The watch has just taken a sample of these places.
    have hwatch : (sim.flight.update build).state.mission.watch = sim.flight.sample.2 := by
      rw [hstate, (Flight.sameCourse_checkArrival _ build).watch]
      unfold Flight.sampled
      dsimp only
      split
      · rfl
      · rfl
    have hbodies : (sim.flight.update build).state.mission.bodies = Solar.bodies := hupdated.bodies
    have hplaces := fun {x} (hx : x ∈ _) => h.places_update inStep hupdated hx
    have hsample := Flight.sample_eq (f := sim.flight) h.steady.sound
    replace hsample : sim.flight.sample = sim.mission.watch.observePlaces
        (sim.scene.freshPosition sim.mission.bodies.origin)
        (sim.scene.freshPosition sim.mission.bodies.destination)
        (sim.scene.freshPosition sim.mission.bodies.reference) := hsample
    rw [h.bodies] at hsample
    unfold Flight.glance
    rw [hbodies, hwatch, hplaces (by simp), hplaces (by simp), hplaces (by simp), hsample]
    exact Watch.observePlaces_again _ _ _ _
  · rw [hstate]
    exact hsampled.range_checkArrival build

/-- **Every tick leaves the mission at rest.** -/
theorem atRest_tick (h : sim.Regular rig) (inStep : sim.mission.InStep) (seconds : Float32) :
    (sim.tick seconds).state.flight.AtRest :=
  (h.advance seconds).settle.atRest_update _ (inStep_settle_advance inStep seconds)

end Regular

/-- **After its first tick a show is at rest** between any two inputs. -/
theorem atRest_after (setup : Setup) {h : History} (ticked : h.hasTick = true) :
    ((start setup).after h).flight.AtRest := by
  -- Induction on the history from its end: messages keep what the last tick has left.
  induction h using List.reverseRecOn with
  | nil => cases ticked
  | append_singleton h input ih =>
    obtain ⟨rig, hregular, inStep⟩ := regular_after setup h
    have hlast : (start setup).after (h ++ [input]) =
        (((start setup).after h).feed input).state := List.foldl_append
    rw [hlast]
    cases input with
    | message payload =>
      have hbefore : History.hasTick h = true := by simpa [History.hasTick] using ticked
      exact hregular.atRest_message (ih hbefore) payload
    | tick seconds => exact hregular.atRest_tick inStep seconds

/-! ## Section 5: Ticks while the orbits are paused -/

/-- **Nothing but the camera has turned.** -/
structure Frozen (sim sim' : Simulation) : Prop where
  /-- The watch, the phase and all else that the mission consists of. -/
  mission : sim'.mission = sim.mission
  frames : sim'.frames = sim.frames
  catalog : sim'.stage.catalog = sim.stage.catalog
  camera : sim'.stage.camera = sim.stage.camera
  backdrop : sim'.stage.backdrop = sim.stage.backdrop
  paused : sim'.stage.paused = sim.stage.paused
  controls : sim'.controls = sim.controls
  build : sim'.build = sim.build
  tag : sim'.scene.tag = sim.scene.tag
  size : sim'.scene.size = sim.scene.size
  /-- Names, poses, components and links. -/
  portrait : ∀ x, x ≠ sim.stage.camera.node → sim'.scene.portrait? x = sim.scene.portrait? x
  /-- The camera is turned to where it looks, and nothing else becomes of it. -/
  node : ∃ p, sim.scene.portrait? sim.stage.camera.node = some p ∧
    sim'.scene.portrait? sim.stage.camera.node =
      some { p with pose := { p.pose with rotation := sim.stage.camera.orientation } }
  /-- What is not below the camera keeps its place in the world, as it is read. -/
  worldMatrix : ∀ x, ¬ sim.scene.Within x sim.stage.camera.node →
    (sim'.scene.worldMatrix x).1 = (sim.scene.worldMatrix x).1

namespace Regular
variable {rig : Option Nat} {sim : Simulation}

/-- Settling turns the camera and nothing else. -/
theorem frozen_settle (h : sim.Regular rig) : Frozen sim sim.settle := by
  have hsound := h.steady.sound
  have hsettled : sim.settle.scene.Sound := h.settle.steady.sound
  have hlinks : ∀ x, sim.settle.scene.parentOf? x = sim.scene.parentOf? x :=
    fun x => Scene.parentOf?_move _ _ _ _
  have hportrait : ∀ x, sim.settle.scene.portrait? x =
      if x = sim.stage.camera.node then
        (sim.scene.portrait? x).map fun p =>
          { p with pose := { p.pose with rotation := sim.stage.camera.orientation } }
      else sim.scene.portrait? x :=
    fun x => Scene.portrait?_move _ _ _
      (g := ({ · with rotation := sim.stage.camera.orientation })) fun _ => rfl
  refine ⟨rfl, rfl, rfl, rfl, rfl, rfl, rfl, rfl, Scene.tag_move _ _ _, Scene.size_move _ _ _, ?_,
    ?_, ?_⟩
  · intro x hx
    rw [hportrait, if_neg hx]
  · have hsome : (sim.scene.portrait? sim.stage.camera.node).isSome := by
      rw [Scene.isSome_portrait?]
      exact h.steady.node_known
    obtain ⟨p, hp⟩ := Option.isSome_iff_exists.mp hsome
    refine ⟨p, hp, ?_⟩
    rw [hportrait, if_pos rfl, hp]
    rfl
  · intro x hx
    rw [hsound.worldMatrix_fst, hsettled.worldMatrix_fst]
    -- Who is not below the camera does not hang below anyone who is.
    refine Scene.freshMatrix_congr hsound.acyclic hsettled.acyclic
      (U := fun x => ¬ sim.scene.Within x sim.stage.camera.node) ?_ (fun x _ => hlinks x) ?_ hx
    · exact fun c p hc hp hwithin => hc (.of_parent hp hwithin)
    · intro y hy
      have hne : y ≠ sim.stage.camera.node := fun heq => hy (.inl heq)
      exact (Scene.poseOf?_setRotation _ _ _ _).trans (if_neg hne)

/-- Measuring is not to be seen. -/
theorem frozen_reread {sim' : Simulation} (h : Frozen sim sim') (sound : sim'.scene.Sound)
    {sp : Space} (hread : sim'.stage.space.Reread sp) (hsound : sp.scene.Sound) :
    Frozen sim (sim'.withFlight ⟨sim'.mission, sp⟩) := by
  have hportrait : ∀ x, sp.scene.portrait? x = sim'.scene.portrait? x := hread.scene.portrait?
  refine ⟨h.mission, hread.frames.trans h.frames, h.catalog, h.camera, h.backdrop, h.paused,
    h.controls, h.build, hread.scene.tag.trans h.tag, hread.scene.size.trans h.size, ?_, ?_, ?_⟩
  · exact fun x hx => (hportrait x).trans (h.portrait x hx)
  · obtain ⟨p, hp, hp'⟩ := h.node
    exact ⟨p, hp, (hportrait _).trans hp'⟩
  · intro x hx
    have hfresh := hread.scene.alike.freshMatrix sound.acyclic x
    have hbefore := h.worldMatrix x hx
    rw [sound.worldMatrix_fst] at hbefore
    show (sp.scene.worldMatrix x).1 = _
    rw [hsound.worldMatrix_fst, hfresh, hbefore]

/-- **A tick at rest while the orbits are paused.** -/
theorem frozen_tick (h : sim.Regular rig) (rest : sim.flight.AtRest)
    (paused : sim.stage.paused = true) (seconds : Float32) :
    ∃ sim', sim.tick seconds = .done sim' ∧ Frozen sim sim' := by
  have hadvance : sim.advance seconds = sim := if_pos paused
  have hsettled := h.settle
  obtain ⟨sp, hread, hsound, hupdate⟩ :=
    (h.atRest_settle rest).update sim.build hsettled.complete hsettled.steady.sound
  refine ⟨sim.settle.withFlight ⟨sim.settle.mission, sp⟩, ?_,
    frozen_reread h.frozen_settle hsettled.steady.sound hread hsound⟩
  rw [tick_eq, hadvance, hupdate]
  rfl

end Regular

/-- **A show stands still while its orbits are paused.**  Once it has ticked, a tick of
    whatever length reports nothing, is not stopped, and only turns the camera to where
    it looks.  No window opens or is counted, and the vehicle stays where it is. -/
theorem frozen_tick_after (setup : Setup) (h : History) (ticked : h.hasTick = true)
    (paused : ((start setup).after h).stage.paused = true) (seconds : Float32) :
    ∃ sim', ((start setup).after h).tick seconds = .done sim' ∧
      Frozen ((start setup).after h) sim' := by
  obtain ⟨rig, hregular, _⟩ := regular_after setup h
  exact hregular.frozen_tick (atRest_after setup ticked) paused seconds

/-- A show that starts paused stands still from its second tick on. -/
theorem frozen_tick_startPaused :
    ∃ sim', ((start { startPaused := true }).after [.tick 0]).tick 1 = .done sim' ∧
      Frozen ((start { startPaused := true }).after [.tick 0]) sim' := by
  have hpaused : ((start { startPaused := true }).after [.tick 0]).stage.paused = true :=
    paused_tick (start { startPaused := true }) 0
  exact frozen_tick_after { startPaused := true } [.tick 0] rfl hpaused 1

end Simulation

end Planetarium
