import Planetarium.Proofs.Motion.Spaces
import Planetarium.Transfer.Mission

/-! # The steps of a mission

    What each part of a mission does to a flight.

    * `Rig`, `Space.withRig`: the three frames of a transfer, and a space in
      which they have been created.
    * `launch_eq`: a launch never breaks a contract, because the arm has a
      name by the time the vehicle is hung below it.  So it is the same in
      every build.
    * `afterSample_cases`: a sample leads to the launch if it is the second
      ticket, and otherwise to nothing but a new state of the watch.
    * `checkArrival_cases`: an arrival check reads, and it may attach the
      vehicle to the destination.
    * `state_update`: an update samples, and then it checks the arrival. -/

namespace Planetarium

/-! ## Section 1: The frames of a transfer -/

/-- The three frames of a transfer. -/
structure Rig where
  center : ObjectId
  orbit : ObjectId
  arm : ObjectId
  deriving DecidableEq

/-- The frames that a transfer would create in a scene. -/
def Rig.next (s : Scene) : Rig := ⟨s.idAt s.size, s.idAt (s.size + 1), s.idAt (s.size + 2)⟩

/-- The ids do not depend on what has been read. -/
theorem Rig.next_of_reread {s t : Scene} (h : s.Reread t) : next t = next s := by
  unfold next Scene.idAt
  rw [h.tag, h.size]

/-- All three, from the top down. -/
def Rig.toList (r : Rig) : List ObjectId := [r.center, r.orbit, r.arm]

namespace Rig
variable (r : Rig)

@[simp] theorem center_mem : r.center ∈ r.toList := by simp [toList]

@[simp] theorem orbit_mem : r.orbit ∈ r.toList := by simp [toList]

@[simp] theorem arm_mem : r.arm ∈ r.toList := by simp [toList]

end Rig

/-- The space with the frames of a transfer: the orbit turns at `rate` about
    `center`, and the arm extends by `reach`. -/
def Space.withRig (sp : Space) (rate : Float32) (center reach : Vec3) : Space :=
  let (centerFrame, sp) := sp.addFrame transferCenter none center none
  let (orbit, sp) := sp.addFrame transferOrbit (some centerFrame) .zero (some (.aboutY rate))
  (sp.addFrame transferArm (some orbit) reach none).2

namespace Space

section withRig
variable (sp : Space) (rate : Float32) (center reach : Vec3) (x : ObjectId)

@[simp] theorem tag_withRig : (sp.withRig rate center reach).scene.tag = sp.scene.tag := by
  simp [withRig]

@[simp] theorem size_withRig :
    (sp.withRig rate center reach).scene.size = sp.scene.size + 3 := by
  simp [withRig]

theorem frames_withRig :
    (sp.withRig rate center reach).frames =
      (((sp.frames.register transferCenter (Rig.next sp.scene).center none).register transferOrbit
        (Rig.next sp.scene).orbit (some (.aboutY rate))).register transferArm
        (Rig.next sp.scene).arm none) := by
  simp [withRig, Rig.next, Scene.idAt]

theorem get?_withRig (name : String) :
    (sp.withRig rate center reach).frames.get? name =
      if transferArm = name then some (Rig.next sp.scene).arm
      else if transferOrbit = name then some (Rig.next sp.scene).orbit
      else if transferCenter = name then some (Rig.next sp.scene).center
      else sp.frames.get? name := by
  rw [frames_withRig, Frames.get?_register, Frames.get?_register, Frames.get?_register]

theorem spins_withRig :
    (sp.withRig rate center reach).frames.spins =
      sp.frames.spins ++ [((Rig.next sp.scene).orbit, .aboutY rate)] := by
  rw [frames_withRig]
  simp [Frames.register]

theorem has_withRig :
    (sp.withRig rate center reach).scene.has x = true ↔
      sp.scene.has x = true ∨ x ∈ (Rig.next sp.scene).toList := by
  unfold withRig
  simp [has_addFrame, Rig.next, Rig.toList, Scene.idAt, or_assoc]

theorem parentOf?_withRig :
    (sp.withRig rate center reach).scene.parentOf? x =
      if x = (Rig.next sp.scene).arm then some (Rig.next sp.scene).orbit
      else if x = (Rig.next sp.scene).orbit then some (Rig.next sp.scene).center
      else if x = (Rig.next sp.scene).center then none
      else sp.scene.parentOf? x := by
  unfold withRig
  simp only [parentOf?_addFrame, addFrame_fst, tag_addFrame, size_addFrame, Rig.next, Scene.idAt]
  rfl

theorem poseOf?_withRig :
    (sp.withRig rate center reach).scene.poseOf? x =
      if x = (Rig.next sp.scene).arm then some ⟨reach, .identity, .one⟩
      else if x = (Rig.next sp.scene).orbit then some ⟨.zero, .identity, .one⟩
      else if x = (Rig.next sp.scene).center then some ⟨center, .identity, .one⟩
      else sp.scene.poseOf? x := by
  unfold withRig
  simp only [poseOf?_addFrame, addFrame_fst, tag_addFrame, size_addFrame, Rig.next, Scene.idAt]
  rfl

/-- Where the frames of the rig are. -/
theorem poses_withRig :
    (sp.withRig rate center reach).scene.poseOf? (Rig.next sp.scene).center =
      some ⟨center, .identity, .one⟩ ∧
    (sp.withRig rate center reach).scene.poseOf? (Rig.next sp.scene).orbit =
      some ⟨.zero, .identity, .one⟩ ∧
    (sp.withRig rate center reach).scene.poseOf? (Rig.next sp.scene).arm =
      some ⟨reach, .identity, .one⟩ := by
  simp [poseOf?_withRig, Rig.next, Scene.idAt]

/-- What is there already stays as it is. -/
theorem extends_withRig : sp.scene.Extends (sp.withRig rate center reach).scene := by
  have hcenter := sp.extends_addFrame transferCenter none center none
  unfold withRig
  generalize sp.addFrame transferCenter none center none = first at hcenter ⊢
  have horbit := first.2.extends_addFrame transferOrbit (some first.1) .zero (some (.aboutY rate))
  simp only
  generalize first.2.addFrame transferOrbit (some first.1) .zero (some (.aboutY rate)) = second
    at horbit ⊢
  have harm := second.2.extends_addFrame transferArm (some second.1) reach none
  exact hcenter.trans (horbit.trans harm)

end withRig

/-- Each frame hangs below the one before it. -/
theorem sound_withRig {sp : Space} (sound : sp.scene.Sound) (rate : Float32) (center reach : Vec3) :
    (sp.withRig rate center reach).scene.Sound := by
  have hcenter : (sp.addFrame transferCenter none center none).2.scene.Sound := by
    refine sound.addFrame _ ?_ _ _
    intro p hp
    cases hp
  unfold withRig
  generalize hfirst : sp.addFrame transferCenter none center none = first at hcenter ⊢
  have hfirstKnown : first.2.scene.has first.1 = true := hfirst ▸ has_addFrame_fst ..
  have horbit : (first.2.addFrame transferOrbit (some first.1) .zero
      (some (.aboutY rate))).2.scene.Sound := by
    refine hcenter.addFrame _ ?_ _ _
    intro p hp
    exact Option.some.inj hp ▸ hfirstKnown
  generalize hsecond : first.2.addFrame transferOrbit (some first.1) .zero
    (some (.aboutY rate)) = second at horbit
  have hsecondKnown : second.2.scene.has second.1 = true := hsecond ▸ has_addFrame_fst ..
  simp only [hsecond]
  refine horbit.addFrame _ ?_ _ _
  intro p hp
  exact Option.some.inj hp ▸ hsecondKnown

end Space

namespace Flight

/-! ## Section 2: The launch -/

/-- The flight with another state of the watch. -/
def watching (f : Flight) (w : Watch) : Flight :=
  { f with mission := { f.mission with watch := w } }

/-- The space of a flight after a launch has measured anchor and origin. -/
def surveyed (f : Flight) : Space :=
  ((f.space.worldPosition f.mission.bodies.anchor).2.worldPosition f.mission.bodies.origin).2

/-- Where the center of the transfer is. -/
def centerPlace (f : Flight) : Vec3 := (f.space.worldPosition f.mission.bodies.anchor).1

/-- Where the vehicle starts. -/
def startPlace (f : Flight) : Vec3 :=
  ((f.space.worldPosition f.mission.bodies.anchor).2.worldPosition f.mission.bodies.origin).1

theorem reread_surveyed (f : Flight) : f.space.Reread f.surveyed :=
  (Space.reread_worldPosition _ _).trans (Space.reread_worldPosition _ _)

theorem sound_surveyed {f : Flight} (sound : f.space.scene.Sound) : f.surveyed.scene.Sound :=
  Space.sound_worldPosition (Space.sound_worldPosition sound _) _

/-- Both places are fresh: that they are read one after the other does not matter. -/
theorem centerPlace_eq {f : Flight} (sound : f.space.scene.Sound) :
    f.centerPlace = f.space.scene.freshPosition f.mission.bodies.anchor :=
  Space.worldPosition_fst sound _

theorem startPlace_eq {f : Flight} (sound : f.space.scene.Sound) :
    f.startPlace = f.space.scene.freshPosition f.mission.bodies.origin :=
  (Space.worldPosition_fst (Space.sound_worldPosition sound _) _).trans
    ((Space.reread_worldPosition _ _).freshPosition sound _)

/-- The flight with the vehicle attached to a frame. -/
def attachedTo (f : Flight) (frame : ObjectId) (phase : Phase) : Flight where
  mission := { f.mission with attached := frame, phase }
  space := { f.space with scene := f.space.scene.rehang f.mission.bodies.vehicle frame }

theorem attach_of_contains {f : Flight} {frame : ObjectId}
    (h : f.space.frames.contains frame = true) (build : Build) (phase : Phase) (entry : Entry) :
    f.attach build frame phase entry = .report (f.attachedTo frame phase) entry := by
  unfold attach
  rw [Frames.reparent_of_contains build _ _ h]
  rfl

/-- **A named frame can be attached to.** -/
theorem attach_of_get? {f : Flight} {name : String} {frame : ObjectId}
    (h : f.space.frames.get? name = some frame) (build : Build) (phase : Phase) (entry : Entry) :
    f.attach build frame phase entry = .report (f.attachedTo frame phase) entry :=
  attach_of_contains (Frames.contains_of_get? h) build phase entry

/-- The flight after the rig of the transfer has been created and the vehicle
    has been attached to its arm. -/
def departed (f : Flight) (rate : Float32) (center reach : Vec3) : Flight :=
  ({ f with space := f.space.withRig rate center reach } : Flight).attachedTo
    (Rig.next f.space.scene).arm .inTransit

theorem frames_departed (f : Flight) (rate : Float32) (center reach : Vec3) :
    (f.departed rate center reach).space.frames = (f.space.withRig rate center reach).frames := rfl

theorem size_departed (f : Flight) (rate : Float32) (center reach : Vec3) :
    (f.departed rate center reach).space.scene.size = f.space.scene.size + 3 := by
  unfold departed attachedTo
  simp

/-- The flight after a launch: the transfer is centered on the anchor, and the
    arm reaches to the origin. -/
def takenOff (f : Flight) : Flight :=
  ({ f with space := f.surveyed } : Flight).departed f.mission.plan.orbitRate f.centerPlace
    (f.startPlace - f.centerPlace)

/-- **The launch.**  It always succeeds: the arm has just been given a name. -/
theorem launch_eq (f : Flight) (build : Build) (ticket : Nat) :
    f.launch build ticket = .report f.takenOff (.launched ticket) := by
  let g : Flight :=
    { f with
      space :=
        f.surveyed.withRig f.mission.plan.orbitRate f.centerPlace (f.startPlace - f.centerPlace) }
  -- The three frames are those of the rig, in the order in which it lists them.
  have hattach : f.launch build ticket =
      g.attach build (Rig.next f.surveyed.scene).arm .inTransit (.launched ticket) := by
    unfold g launch Space.withRig surveyed centerPlace startPlace
    simp [Rig.next, Scene.idAt]
  have harm : g.space.frames.get? transferArm = some (Rig.next f.surveyed.scene).arm := by
    rw [Space.get?_withRig, if_pos rfl]
  rw [hattach, attach_of_get? harm]
  rfl

end Flight

/-! ## Section 3: Samples -/

/-- What a watch does with a sample: it fires the next ticket, or none. -/
inductive Watch.Sampled (w : Watch) : Option Ticket × Watch → Prop where
  | silent {w' : Watch} (h : w'.tickets = w.tickets) : Sampled w (none, w')
  | fired {w' : Watch} (h : w'.tickets = w.tickets + 1) : Sampled w (some ⟨w.tickets + 1⟩, w')

theorem Watch.sampled_observe (w : Watch) (angle : Int) : w.Sampled (w.observe angle) := by
  unfold observe
  split
  · exact .silent rfl
  · split
    · exact .fired rfl
    · exact .silent rfl

theorem Watch.sampled_observePlaces (w : Watch) (origin destination reference : Vec3) :
    w.Sampled (w.observePlaces origin destination reference) := by
  unfold observePlaces
  split
  · exact w.sampled_observe _
  · exact .silent rfl

/-- **The phase agrees with the tickets.**  The vehicle has not left the origin
    as long as at most one window has been seen. -/
def Mission.InStep (m : Mission) : Prop := m.phase = .attachedOrigin ↔ m.watch.tickets ≤ 1

/-- A sample fires the second ticket. -/
def Watch.FiresSecond (w : Watch) (sample : Option Ticket × Watch) : Prop :=
  w.tickets = 1 ∧ sample.2.tickets = 2

instance (w : Watch) (sample : Option Ticket × Watch) : Decidable (w.FiresSecond sample) :=
  inferInstanceAs (Decidable (_ ∧ _))

namespace Flight

/-- **A sample leads to the launch exactly if it fires the second ticket.**  Any
    other one changes the watch and nothing else. -/
theorem afterSample_cases (f : Flight) (build : Build) (inStep : f.mission.InStep)
    {sample : Option Ticket × Watch} (h : f.mission.watch.Sampled sample) :
    (f.mission.watch.FiresSecond sample ∧
      f.afterSample build sample = .report (f.watching sample.2).takenOff (.launched 2)) ∨
    (¬ f.mission.watch.FiresSecond sample ∧
      (f.afterSample build sample = .done (f.watching sample.2) ∨
        f.afterSample build sample =
          .report (f.watching sample.2) (.windowSkipped (f.mission.watch.tickets + 1)))) := by
  unfold Watch.FiresSecond
  cases h with
  | @silent w' h =>
    refine .inr ⟨?_, .inl rfl⟩
    simp only
    omega
  | @fired w' h =>
    have hsample : f.afterSample build (some ⟨f.mission.watch.tickets + 1⟩, w') =
        (f.watching w').atWindow build ⟨f.mission.watch.tickets + 1⟩ := rfl
    rw [hsample]
    unfold atWindow Ticket.launches
    simp only
    by_cases hone : f.mission.watch.tickets = 1
    · have horigin : (f.watching w').mission.phase = .attachedOrigin := inStep.mpr (by omega)
      refine .inl ⟨⟨hone, by omega⟩, ?_⟩
      simp [hone, horigin, launch_eq]
    · refine .inr ⟨fun hsecond => hone hsecond.1, ?_⟩
      by_cases heven : (f.mission.watch.tickets + 1) % 2 = 0
      · -- An even number other than two comes after the launch.
        have hlate : (f.watching w').mission.phase ≠ .attachedOrigin := by
          intro horigin
          have := inStep.mp horigin
          omega
        left
        simp [heven, hlate]
      · right
        simp [heven]

/-! ## Section 4: The arrival -/

/-- The space of a flight after vehicle and destination have been measured. -/
def approached (f : Flight) : Space :=
  ((f.space.worldPosition f.mission.bodies.vehicle).2.worldPosition
    f.mission.bodies.destination).2

/-- How far the vehicle is from the destination. -/
def gap (f : Flight) : Float32 :=
  (f.space.worldPosition f.mission.bodies.vehicle).1.distance
    ((f.space.worldPosition f.mission.bodies.vehicle).2.worldPosition
      f.mission.bodies.destination).1

theorem checkArrival_eq (f : Flight) (build : Build) :
    f.checkArrival build =
      if f.mission.phase ≠ .inTransit then .done f
      else if f.mission.plan.arrivalDistance < f.gap then .done { f with space := f.approached }
      else
        ({ f with space := f.approached } : Flight).attach build f.mission.bodies.destination
          .attachedDestination .arrived := rfl

theorem reread_approached (f : Flight) : f.space.Reread f.approached :=
  (Space.reread_worldPosition _ _).trans (Space.reread_worldPosition _ _)

theorem gap_eq {f : Flight} (sound : f.space.scene.Sound) :
    f.gap = (f.space.scene.freshPosition f.mission.bodies.vehicle).distance
      (f.space.scene.freshPosition f.mission.bodies.destination) := by
  have hfirst := Space.worldPosition_fst sound f.mission.bodies.vehicle
  have hsecond := (Space.worldPosition_fst
    (Space.sound_worldPosition sound f.mission.bodies.vehicle) f.mission.bodies.destination).trans
    ((Space.reread_worldPosition _ _).freshPosition sound _)
  unfold gap
  rw [hfirst, hsecond]

theorem sound_approached {f : Flight} (sound : f.space.scene.Sound) : f.approached.scene.Sound :=
  Space.sound_worldPosition (Space.sound_worldPosition sound _) _

/-- A vehicle cannot be hung below what is not a frame.  A debug build stops
    there; in a release build the mission goes on as if it had been. -/
theorem attach_of_not_contains {f : Flight} {frame : ObjectId}
    (h : ¬ f.space.frames.contains frame = true) (phase : Phase) (entry : Entry) :
    f.attach .debug frame phase entry = .stopped f (.notAFrame frame) ∧
    f.attach .release frame phase entry =
      { state := f.entered frame phase, entries := [.violated (.notAFrame frame), entry] } := by
  unfold attach
  rw [Frames.reparent_of_not_contains .debug _ _ h, Frames.reparent_of_not_contains .release _ _ h]
  exact ⟨rfl, rfl⟩

/-- **An arrival check reads, and it may attach the vehicle to the destination.**
    It creates nothing.  The destination has to be a frame, or else the vehicle
    hangs where it did, whatever the mission makes of it. -/
theorem checkArrival_cases (f : Flight) (build : Build) :
    ∃ sp, f.space.Reread sp ∧ (f.space.scene.Sound → sp.scene.Sound) ∧
      (((f.checkArrival build).state = { f with space := sp } ∧
        (f.checkArrival build).entries = []) ∨
      (f.mission.phase = .inTransit ∧
        f.checkArrival build = .report
          (({ f with space := sp } : Flight).attachedTo f.mission.bodies.destination
            .attachedDestination) .arrived) ∨
      (f.mission.phase = .inTransit ∧
        ¬ f.space.frames.contains f.mission.bodies.destination = true ∧
        f.checkArrival build =
          { state := ({ f with space := sp } : Flight).entered f.mission.bodies.destination
              .attachedDestination
            entries := [.violated (.notAFrame f.mission.bodies.destination), .arrived] })) := by
  rw [checkArrival_eq]
  split
  · exact ⟨f.space, .refl f.space, id, .inl ⟨rfl, rfl⟩⟩
  · next htransit =>
    have htransit' : f.mission.phase = .inTransit := not_not.mp htransit
    refine ⟨f.approached, f.reread_approached, sound_approached, ?_⟩
    split
    · exact .inl ⟨rfl, rfl⟩
    · -- Near enough: what happens depends on whether the destination is a frame at all.
      let g : Flight := { f with space := f.approached }
      by_cases hframe : g.space.frames.contains f.mission.bodies.destination = true
      · exact .inr (.inl ⟨htransit', attach_of_contains hframe build _ _⟩)
      · have hstray : ¬ f.space.frames.contains f.mission.bodies.destination = true := by
          rw [← f.reread_approached.frames]
          exact hframe
        have hattach := attach_of_not_contains hframe .attachedDestination .arrived
        cases build with
        | debug =>
          left
          rw [hattach.1]
          exact ⟨rfl, rfl⟩
        | release => exact .inr (.inr ⟨htransit', hstray, hattach.2⟩)

/-- The space after an arrival check has been read, or the vehicle has been hung
    below the destination. -/
theorem space_checkArrival (f : Flight) (build : Build) :
    ∃ sp, f.space.Reread sp ∧
      ((f.checkArrival build).state.space = sp ∨
      (f.checkArrival build).state.space =
        { sp with
          scene := sp.scene.rehang f.mission.bodies.vehicle f.mission.bodies.destination }) := by
  obtain ⟨sp, hread, _, ⟨hstate, _⟩ | ⟨_, harrived⟩ | ⟨_, _, hstrayed⟩⟩ :=
    f.checkArrival_cases build
  · refine ⟨sp, hread, .inl ?_⟩
    rw [hstate]
  · refine ⟨sp, hread, .inr ?_⟩
    rw [harrived]
    rfl
  · refine ⟨sp, hread, .inl ?_⟩
    rw [hstrayed]
    rfl

/-! ## Section 5: Calls -/

/-- The space of a flight after origin, destination and reference have been
    measured. -/
def observed (f : Flight) : Space :=
  (((f.space.worldPosition f.mission.bodies.origin).2.worldPosition
    f.mission.bodies.destination).2.worldPosition f.mission.bodies.reference).2

theorem reread_observed (f : Flight) : f.space.Reread f.observed :=
  ((Space.reread_worldPosition _ _).trans (Space.reread_worldPosition _ _)).trans
    (Space.reread_worldPosition _ _)

theorem sound_observed {f : Flight} (sound : f.space.scene.Sound) : f.observed.scene.Sound :=
  Space.sound_worldPosition (Space.sound_worldPosition (Space.sound_worldPosition sound _) _) _

/-- The sample that an update takes. -/
def sample (f : Flight) : Option Ticket × Watch :=
  let (origin, space) := f.space.worldPosition f.mission.bodies.origin
  let (destination, space) := space.worldPosition f.mission.bodies.destination
  let (reference, _) := space.worldPosition f.mission.bodies.reference
  f.mission.watch.observePlaces origin destination reference

theorem sample_eq {f : Flight} (sound : f.space.scene.Sound) :
    f.sample = f.mission.watch.observePlaces
      (f.space.scene.freshPosition f.mission.bodies.origin)
      (f.space.scene.freshPosition f.mission.bodies.destination)
      (f.space.scene.freshPosition f.mission.bodies.reference) := by
  have hread := Space.reread_worldPosition f.space f.mission.bodies.origin
  have hsound := Space.sound_worldPosition sound f.mission.bodies.origin
  -- Each place is read in the space that the reads before it have left.
  have hread' := hread.trans (Space.reread_worldPosition _ f.mission.bodies.destination)
  have hsound' := Space.sound_worldPosition hsound f.mission.bodies.destination
  have hfirst := Space.worldPosition_fst sound f.mission.bodies.origin
  have hsecond := (Space.worldPosition_fst hsound f.mission.bodies.destination).trans
    (hread.freshPosition sound _)
  have hthird := (Space.worldPosition_fst hsound' f.mission.bodies.reference).trans
    (hread'.freshPosition sound _)
  unfold sample
  simp only [hfirst, hsecond, hthird]

theorem sampled_sample (f : Flight) : f.mission.watch.Sampled f.sample :=
  f.mission.watch.sampled_observePlaces _ _ _

/-- All bodies are in the scene. -/
def Complete (f : Flight) : Prop := f.mission.bodies.toList.all f.space.scene.has = true

instance (f : Flight) : Decidable f.Complete := inferInstanceAs (Decidable (_ = true))

theorem update_eq (f : Flight) (build : Build) :
    f.update build =
      if f.Complete then
        (({ f with space := f.observed } : Flight).afterSample build f.sample).andThen
          (checkArrival · build)
      else .violated build f .bodiesMissing := rfl

/-- A flight after an update has taken its sample, before the arrival is
    checked. -/
def sampled (f : Flight) : Flight :=
  let g : Flight := ({ f with space := f.observed } : Flight).watching f.sample.2
  if f.mission.watch.FiresSecond f.sample then g.takenOff else g

section update
variable {f : Flight} (build : Build) (inStep : f.mission.InStep)
include inStep

/-- Whatever a sample leads to, nothing stops it: the launch attaches the
    vehicle to a frame that it has just named. -/
theorem violation_afterSample {sample : Option Ticket × Watch}
    (h : f.mission.watch.Sampled sample) : (f.afterSample build sample).violation = none := by
  obtain ⟨_, hlaunch⟩ | ⟨_, hskip | hskip⟩ := f.afterSample_cases build inStep h
  · rw [hlaunch]
    rfl
  · rw [hskip]
    rfl
  · rw [hskip]
    rfl

theorem state_afterSample :
    (({ f with space := f.observed } : Flight).afterSample build f.sample).state = f.sampled := by
  unfold sampled
  obtain ⟨hsecond, hlaunch⟩ | ⟨hnot, hskip | hskip⟩ :=
    afterSample_cases { f with space := f.observed } build inStep f.sampled_sample
  · rw [if_pos hsecond, hlaunch]
    rfl
  · rw [if_neg hnot, hskip]
    rfl
  · rw [if_neg hnot, hskip]
    rfl

/-- **The course of an update.**  It samples, and then it checks the arrival. -/
theorem state_update (hcomplete : f.Complete) :
    (f.update build).state = (f.sampled.checkArrival build).state := by
  have hnone := violation_afterSample (f := { f with space := f.observed }) build inStep
    f.sampled_sample
  rw [update_eq, if_pos hcomplete, (Outcome.andThen_of_none _ hnone).1,
    state_afterSample build inStep]

end update

end Flight

end Planetarium
