import Planetarium.Proofs.Show.Matching
import Planetarium.Proofs.Show.Regular

/-! # Two shows in time with each other

    `Simulation.InTime` relates two shows whose orbits cannot be told apart:
    the missions agree, the same things spin in the same order, and matching
    objects are in the same pose.  The rest of the two scenes may differ.

    * `InTime.freshPosition`: matching objects are at the same place.
    * `InTime.message`: a message on one side alone changes nothing of this.
    * `InTime.tick`: a tick on both sides keeps the shows in time, also when it
      launches the vehicle or lets it arrive. -/

namespace Planetarium

namespace Simulation

/-- **Two shows in time with each other.** -/
structure InTime (rig rig' : Option Nat) (l r : Simulation) : Prop where
  left : l.Regular rig
  right : r.Regular rig'
  watch : l.mission.watch = r.mission.watch
  phase : l.mission.phase = r.mission.phase
  plan : l.mission.plan = r.mission.plan
  spins : List.Forall₂ (fun e e' => Matches rig rig' e.1 e'.1 ∧ e.2 = e'.2) l.frames.spins
    r.frames.spins
  pose : ∀ {a b}, Matches rig rig' a b → l.scene.poseOf? a = r.scene.poseOf? b

namespace InTime
variable {rig rig' : Option Nat} {l r : Simulation}

/-- A show is in time with itself. -/
theorem refl {sim : Simulation} (h : sim.Regular rig) : InTime rig rig sim sim := by
  refine ⟨h, h, rfl, rfl, rfl, ?_, fun hab => by rw [hab.eq]⟩
  refine List.forall₂_same.mpr ?_
  intro e he
  exact ⟨.refl (h.registered.spinning e he).1, rfl⟩

theorem symm (h : InTime rig rig' l r) : InTime rig' rig r l := by
  refine ⟨h.right, h.left, h.watch.symm, h.phase.symm, h.plan.symm, ?_, fun hab =>
    (h.pose hab.symm).symm⟩
  exact h.spins.flip.imp fun _ _ he => ⟨he.1.symm, he.2.symm⟩

/-! ## Section 1: Places -/

/-- The vehicles are attached to matching frames. -/
theorem attached (h : InTime rig rig' l r) :
    Matches rig rig' l.mission.attached r.mission.attached := by
  have hl := h.left.attached
  have hr := h.right.attached
  unfold Mission.AttachedTo at hl hr
  rw [h.phase] at hl
  cases hphase : r.mission.phase with
  | attachedOrigin =>
    rw [hphase] at hl hr
    rw [hl.2, hr.2]
    exact .body (by decide)
  | inTransit =>
    rw [hphase] at hl hr
    obtain ⟨n, rfl, hl⟩ := hl
    obtain ⟨n', rfl, hr⟩ := hr
    rw [hl, hr]
    exact .arm n n'
  | attachedDestination =>
    rw [hphase] at hl hr
    rw [hl.2, hr.2]
    exact .body (by decide)

theorem mirrors (h : InTime rig rig' l r) : Scene.Mirrors (Matches rig rig') l.scene r.scene :=
  ⟨h.pose, fun hab => h.left.hung.parentOf?_matches h.right.hung h.attached hab⟩

/-- **Matching objects are at the same place in the world.** -/
theorem freshPosition (h : InTime rig rig' l r) {a b : ObjectId} (hab : Matches rig rig' a b) :
    l.scene.freshPosition a = r.scene.freshPosition b :=
  congrArg Mat4.originImage
    (h.mirrors.freshMatrix h.left.steady.sound.acyclic h.right.steady.sound.acyclic hab)

/-- The bodies of both missions are the same parts, so they are at the same place. -/
theorem bodyPosition (h : InTime rig rig' l r) (body : Bodies → ObjectId)
    (hbody : body Solar.bodies ∈ Solar.bodies.toList) :
    l.scene.freshPosition (body l.mission.bodies) =
      r.scene.freshPosition (body r.mission.bodies) := by
  rw [h.left.bodies, h.right.bodies]
  exact h.freshPosition (.body hbody)

/-- The vehicle is in the same pose in any two regular shows, so only the other
    objects have to be looked at. -/
theorem pose_of_ne {sim sim' : Simulation} (hl : sim.Regular rig) (hr : sim'.Regular rig')
    (hother : ∀ {a b}, Matches rig rig' a b → a ≠ Solar.bodies.vehicle →
      b ≠ Solar.bodies.vehicle → sim.scene.poseOf? a = sim'.scene.poseOf? b) {a b : ObjectId}
    (hab : Matches rig rig' a b) : sim.scene.poseOf? a = sim'.scene.poseOf? b := by
  -- The vehicle matches nothing but itself.
  have hiff := hab.eq_iff hl.rig_new hr.rig_new
    (Matches.body (a := Solar.bodies.vehicle) (by decide))
  by_cases ha : a = Solar.bodies.vehicle
  · rw [ha, hiff.mp ha, hl.seated, hr.seated]
  · exact hother hab ha fun hb => ha (hiff.mpr hb)

/-- Both shows have a rig, or neither has. -/
theorem rigs (h : InTime rig rig' l r) :
    (rig = none ∧ rig' = none) ∨ ∃ n n', rig = some n ∧ rig' = some n' := by
  by_cases horigin : l.mission.phase = .attachedOrigin
  · have horigin' : r.mission.phase = .attachedOrigin := h.phase.symm.trans horigin
    exact .inl ⟨h.left.rig_eq_none horigin, h.right.rig_eq_none horigin'⟩
  · have hgone : r.mission.phase ≠ .attachedOrigin := by
      rw [← h.phase]
      exact horigin
    obtain ⟨n, hn⟩ := h.left.attached.exists_rig horigin
    obtain ⟨n', hn'⟩ := h.right.attached.exists_rig hgone
    exact .inr ⟨n, n', hn, hn'⟩

/-! ## Section 2: Messages, turning and settling -/

/-- **A message on one side alone.** -/
theorem message (h : InTime rig rig' l r) (payload : String) :
    InTime rig rig' (l.feed (.message payload)).state r := by
  obtain ⟨hregular, hspares, hmission⟩ := h.left.message payload
  refine ⟨hregular, h.right, ?_, ?_, ?_, ?_, ?_⟩
  · rw [hmission]
    exact h.watch
  · rw [hmission]
    exact h.phase
  · rw [hmission]
    exact h.plan
  · show List.Forall₂ _ (l.feed (.message payload)).state.stage.space.frames.spins _
    rw [hspares.frames]
    exact h.spins
  · intro a b hab
    exact (hspares.scene.poseOf? hab.left).trans (h.pose hab)

theorem advance (h : InTime rig rig' l r) (paused : l.stage.paused = r.stage.paused)
    (seconds : Float32) : InTime rig rig' (l.advance seconds) (r.advance seconds) := by
  have hleft := h.left.advance seconds
  have hright := h.right.advance seconds
  unfold Simulation.advance at hleft hright ⊢
  rw [← paused] at hright ⊢
  split
  · exact h
  · next hrunning =>
    rw [if_neg hrunning] at hleft hright
    refine ⟨hleft, hright, h.watch, h.phase, h.plan, h.spins, ?_⟩
    intro a b hab
    exact Scene.poseOf?_advance_eq
      (fun hab hcd => hab.eq_iff h.left.rig_new h.right.rig_new hcd) h.spins h.pose seconds hab

theorem settle (h : InTime rig rig' l r) : InTime rig rig' l.settle r.settle := by
  have hl := h.left.steady.settle.2
  have hr := h.right.steady.settle.2
  refine ⟨h.left.settle, h.right.settle, h.watch, h.phase, h.plan, h.spins, ?_⟩
  intro a b hab
  exact ((hl.scene.poseOf? hab.left).trans (h.pose hab)).trans (hr.scene.poseOf? hab.right).symm

/-! ## Section 3: The mission -/

/-- What has to be shown of two flights: the vehicles are in the same pose
    anyway. -/
theorem of_flights {f g : Flight} (left : (l.withFlight f).Regular rig)
    (right : (r.withFlight g).Regular rig') (watch : f.mission.watch = g.mission.watch)
    (phase : f.mission.phase = g.mission.phase) (plan : f.mission.plan = g.mission.plan)
    (spins : List.Forall₂ (fun e e' => Matches rig rig' e.1 e'.1 ∧ e.2 = e'.2)
      f.space.frames.spins g.space.frames.spins)
    (pose : ∀ {a b}, Matches rig rig' a b → a ≠ Solar.bodies.vehicle → b ≠ Solar.bodies.vehicle →
      f.space.scene.poseOf? a = g.space.scene.poseOf? b) :
    InTime rig rig' (l.withFlight f) (r.withFlight g) :=
  ⟨left, right, watch, phase, plan, spins, fun hab => pose_of_ne left right pose hab⟩

/-- Measuring on both sides. -/
theorem reread (h : InTime rig rig' l r) {sp sp' : Space} (hl : l.stage.space.Reread sp)
    (hr : r.stage.space.Reread sp') (soundl : sp.scene.Sound) (soundr : sp'.scene.Sound) :
    InTime rig rig' (l.withFlight ⟨l.mission, sp⟩) (r.withFlight ⟨r.mission, sp'⟩) := by
  refine of_flights (h.left.reread hl soundl) (h.right.reread hr soundr) h.watch h.phase h.plan
    ?_ ?_
  · show List.Forall₂ _ sp.frames.spins sp'.frames.spins
    rw [hl.frames, hr.frames]
    exact h.spins
  · intro a b hab _ _
    exact ((hl.scene.alike.poseOf? a).trans (h.pose hab)).trans (hr.scene.alike.poseOf? b).symm

/-- The same new state of both watches. -/
theorem watching (h : InTime rig rig' l r) (w : Watch) :
    InTime rig rig' (l.withFlight (l.flight.watching w)) (r.withFlight (r.flight.watching w)) :=
  of_flights (h.left.watching w) (h.right.watching w) rfl h.phase h.plan h.spins
    fun hab _ _ => h.pose hab

/-- **Both vehicles arrive.** -/
theorem arrive (h : InTime rig rig' l r) (htransit : l.mission.phase = .inTransit) :
    InTime rig rig'
      (l.withFlight (l.flight.attachedTo l.mission.bodies.destination .attachedDestination))
      (r.withFlight (r.flight.attachedTo r.mission.bodies.destination .attachedDestination)) := by
  have hright : r.mission.phase = .inTransit := h.phase.symm.trans htransit
  refine of_flights (h.left.arrive htransit) (h.right.arrive hright) h.watch rfl h.plan h.spins ?_
  intro a b hab ha hb
  rw [← h.left.bodies] at ha
  rw [← h.right.bodies] at hb
  have hl : (l.scene.rehang l.mission.bodies.vehicle l.mission.bodies.destination).poseOf? a =
      l.scene.poseOf? a := by rw [Scene.poseOf?_rehang, if_neg ha]
  have hr : (r.scene.rehang r.mission.bodies.vehicle r.mission.bodies.destination).poseOf? b =
      r.scene.poseOf? b := by rw [Scene.poseOf?_rehang, if_neg hb]
  exact hl.trans ((h.pose hab).trans hr.symm)

/-- The arrival checks measure the same distance, so both vehicles arrive or
    neither does. -/
theorem checkArrival (h : InTime rig rig' l r) (build build' : Build) :
    InTime rig rig' (l.withFlight (l.flight.checkArrival build).state)
      (r.withFlight (r.flight.checkArrival build').state) := by
  have hgap : l.flight.gap = r.flight.gap := by
    rw [Flight.gap_eq h.left.steady.sound, Flight.gap_eq h.right.steady.sound]
    exact congrArg₂ Vec3.distance (h.bodyPosition Bodies.vehicle (by decide))
      (h.bodyPosition Bodies.destination (by decide))
  have hphase : l.flight.mission.phase = r.flight.mission.phase := h.phase
  have hplan : l.flight.mission.plan = r.flight.mission.plan := h.plan
  by_cases htransit : r.flight.mission.phase = .inTransit
  · have htransit' : l.flight.mission.phase = .inTransit := hphase.trans htransit
    have hread := h.reread l.flight.reread_approached r.flight.reread_approached
      (Flight.sound_approached h.left.steady.sound) (Flight.sound_approached h.right.steady.sound)
    by_cases hfar : r.flight.mission.plan.arrivalDistance < r.flight.gap
    · have hfar' : l.flight.mission.plan.arrivalDistance < l.flight.gap := by
        rw [hplan, hgap]
        exact hfar
      rw [Flight.checkArrival_eq, if_neg (not_not.mpr htransit'), if_pos hfar',
        Flight.checkArrival_eq, if_neg (not_not.mpr htransit), if_pos hfar]
      exact hread
    · have hnear' : ¬ l.flight.mission.plan.arrivalDistance < l.flight.gap := by
        rw [hplan, hgap]
        exact hfar
      have harrive := hread.arrive htransit'
      rw [withFlight_withFlight, withFlight_withFlight] at harrive
      rw [h.left.checkArrival_of_near build htransit' hnear',
        h.right.checkArrival_of_near build' htransit hfar]
      exact harrive
  · rw [Flight.checkArrival_eq, Flight.checkArrival_eq, hphase, if_pos htransit, if_pos htransit]
    exact h

/-- The rigs are in the same pose, and so is what was there before them. -/
theorem pose_withRig (h : InTime none none l r) (rate : Float32) (center reach : Vec3)
    {a b : ObjectId} (hab : Matches (some l.scene.size) (some r.scene.size) a b) :
    (l.stage.space.withRig rate center reach).scene.poseOf? a =
      (r.stage.space.withRig rate center reach).scene.poseOf? b := by
  obtain ⟨hlcenter, hlorbit, hlarm⟩ := l.stage.space.poses_withRig rate center reach
  obtain ⟨hrcenter, hrorbit, hrarm⟩ := r.stage.space.poses_withRig rate center reach
  rw [Rig.next_eq h.left.tag] at hlcenter hlorbit hlarm
  rw [Rig.next_eq h.right.tag] at hrcenter hrorbit hrarm
  rcases hab.cases_some with ⟨rfl, hpart⟩ | ⟨rfl, rfl⟩ | ⟨rfl, rfl⟩ | ⟨rfl, rfl⟩
  · have hl := l.stage.space.extends_withRig rate center reach
    have hr := r.stage.space.extends_withRig rate center reach
    rw [hl.poseOf? (h.left.steady.known hpart), hr.poseOf? (h.right.steady.known hpart)]
    exact h.pose (.part hpart)
  · exact hlcenter.trans hrcenter.symm
  · exact hlorbit.trans hrorbit.symm
  · exact hlarm.trans hrarm.symm

/-- Rigs of the same measures come to both orreries. -/
theorem depart (h : InTime none none l r) (rate : Float32) (center reach : Vec3) :
    InTime (some l.scene.size) (some r.scene.size)
      (l.withFlight (l.flight.departed rate center reach))
      (r.withFlight (r.flight.departed rate center reach)) := by
  refine of_flights (h.left.depart rate center reach) (h.right.depart rate center reach) h.watch rfl
    h.plan ?_ ?_
  · show List.Forall₂ _ (l.stage.space.withRig rate center reach).frames.spins
      (r.stage.space.withRig rate center reach).frames.spins
    rw [Space.spins_withRig, Space.spins_withRig, Rig.next_eq h.left.tag, Rig.next_eq h.right.tag]
    -- The transfer orbits come last in both lists.
    refine List.rel_append ?_ (.cons ⟨.orbit _ _, rfl⟩ .nil)
    exact h.spins.imp fun _ _ he => ⟨he.1.of_none, he.2⟩
  · intro a b hab ha hb
    rw [← h.left.bodies] at ha
    rw [← h.right.bodies] at hb
    show (Scene.rehang _ l.mission.bodies.vehicle _).poseOf? a =
      (Scene.rehang _ r.mission.bodies.vehicle _).poseOf? b
    rw [Scene.poseOf?_rehang, if_neg ha, Scene.poseOf?_rehang, if_neg hb]
    exact h.pose_withRig rate center reach hab

/-- **Both vehicles leave.**  The rigs may have different ids. -/
theorem takeOff (h : InTime rig rig' l r) (horigin : l.mission.phase = .attachedOrigin) :
    InTime (some l.scene.size) (some r.scene.size) (l.withFlight l.flight.takenOff)
      (r.withFlight r.flight.takenOff) := by
  obtain rfl := h.left.rig_eq_none horigin
  obtain rfl := h.right.rig_eq_none (h.phase.symm.trans horigin)
  have hl := l.flight.reread_surveyed
  have hr := r.flight.reread_surveyed
  have hcenter : l.flight.centerPlace = r.flight.centerPlace := by
    rw [Flight.centerPlace_eq h.left.steady.sound, Flight.centerPlace_eq h.right.steady.sound]
    exact h.bodyPosition Bodies.anchor (by decide)
  have hstart : l.flight.startPlace = r.flight.startPlace := by
    rw [Flight.startPlace_eq h.left.steady.sound, Flight.startPlace_eq h.right.steady.sound]
    exact h.bodyPosition Bodies.origin (by decide)
  have hplan : l.flight.mission.plan = r.flight.mission.plan := h.plan
  have hsurveyed := h.reread hl hr (Flight.sound_surveyed h.left.steady.sound)
    (Flight.sound_surveyed h.right.steady.sound)
  have hdeparted := hsurveyed.depart r.flight.mission.plan.orbitRate r.flight.centerPlace
    (r.flight.startPlace - r.flight.centerPlace)
  rw [flight_withFlight, withFlight_withFlight, flight_withFlight, withFlight_withFlight]
    at hdeparted
  have hlsize : l.flight.surveyed.scene.size = l.scene.size := hl.scene.size
  have hrsize : r.flight.surveyed.scene.size = r.scene.size := hr.scene.size
  unfold Flight.takenOff
  rw [hcenter, hstart, hplan, ← hlsize, ← hrsize]
  exact hdeparted

/-- The watches see the bodies at the same places, so both vehicles leave or
    neither does. -/
theorem sampled (h : InTime rig rig' l r) (inStep : l.mission.InStep) :
    ∃ rig rig', InTime rig rig' (l.withFlight l.flight.sampled)
      (r.withFlight r.flight.sampled) := by
  have hsample : l.flight.sample = r.flight.sample := by
    have horigin := h.bodyPosition Bodies.origin (by decide)
    have hdestination := h.bodyPosition Bodies.destination (by decide)
    have hreference := h.bodyPosition Bodies.reference (by decide)
    calc l.flight.sample
        = l.mission.watch.observePlaces (l.scene.freshPosition l.mission.bodies.origin)
            (l.scene.freshPosition l.mission.bodies.destination)
            (l.scene.freshPosition l.mission.bodies.reference) :=
          Flight.sample_eq h.left.steady.sound
      _ = r.mission.watch.observePlaces (r.scene.freshPosition r.mission.bodies.origin)
            (r.scene.freshPosition r.mission.bodies.destination)
            (r.scene.freshPosition r.mission.bodies.reference) := by
          rw [horigin, hdestination, hreference, h.watch]
      _ = r.flight.sample := (Flight.sample_eq (f := r.flight) h.right.steady.sound).symm
  have hwatch : l.flight.mission.watch = r.flight.mission.watch := h.watch
  have hmeasured := (h.reread l.flight.reread_observed r.flight.reread_observed
    (Flight.sound_observed h.left.steady.sound)
    (Flight.sound_observed h.right.steady.sound)).watching r.flight.sample.2
  rw [flight_withFlight, withFlight_withFlight, flight_withFlight, withFlight_withFlight]
    at hmeasured
  unfold Flight.sampled
  rw [hsample, hwatch]
  -- From here on both sides take the same branch.
  split
  · next hsecond =>
    have horigin : l.mission.phase = .attachedOrigin := by
      refine inStep.mpr ?_
      have hone : r.flight.mission.watch.tickets = 1 := hsecond.1
      rw [h.watch]
      show r.flight.mission.watch.tickets ≤ 1
      omega
    have hlaunched := hmeasured.takeOff horigin
    rw [flight_withFlight, withFlight_withFlight, flight_withFlight, withFlight_withFlight]
      at hlaunched
    exact ⟨_, _, hlaunched⟩
  · exact ⟨rig, rig', hmeasured⟩

/-- **An update on both sides.** -/
theorem update (h : InTime rig rig' l r) (build build' : Build) (inStep : l.mission.InStep)
    (inStep' : r.mission.InStep) :
    ∃ rig rig', InTime rig rig' (l.withFlight (l.flight.update build).state)
      (r.withFlight (r.flight.update build').state) := by
  obtain ⟨rig₂, rig₂', hsampled⟩ := h.sampled inStep
  have hchecked := hsampled.checkArrival build build'
  rw [flight_withFlight, withFlight_withFlight, flight_withFlight, withFlight_withFlight]
    at hchecked
  rw [Flight.state_update build inStep h.left.complete,
    Flight.state_update build' inStep' h.right.complete]
  exact ⟨rig₂, rig₂', hchecked⟩

/-- **A tick of the same length on both sides.** -/
theorem tick (h : InTime rig rig' l r) (inStep : l.mission.InStep)
    (paused : l.stage.paused = r.stage.paused) (seconds : Float32) :
    ∃ rig rig', InTime rig rig' (l.tick seconds).state (r.tick seconds).state := by
  have hinStep' : r.mission.InStep := by
    unfold Mission.InStep
    rw [← h.phase, ← h.watch]
    exact inStep
  refine (h.advance paused seconds).settle.update _ _ ?_ ?_
  · rw [mission_settle_advance]
    exact inStep
  · rw [mission_settle_advance]
    exact hinStep'

end InTime

end Simulation

end Planetarium
