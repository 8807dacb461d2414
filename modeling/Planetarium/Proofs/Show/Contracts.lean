import Planetarium.Proofs.Show.Course

/-! # Contracts

    What hangs an object below another one asks that the other one is a frame,
    and an update of the mission asks that its bodies are in the scene.  No
    message and no tick of a show ever breaks one of these contracts, so a debug
    build is never stopped and a release build never reports a violation.

    * `Frames.Grows`: names go on standing for what they stood for, apart from
      those that a launch gives to its frames.
    * `Stage.Serves`: the frames that the control codes ride along with have
      names.  A name that stands for a frame goes on standing for one
      (`Frames.Keeps`), so this holds for good.
    * `Regular.kept_feed`: an input to a regular simulation that serves its
      controls keeps all contracts.
    * `contracts_kept_after`: no input breaks one after any history. -/

namespace Planetarium

/-! ## Section 1: Names of frames -/

/-- Every name that stands for a frame still stands for one. -/
def Frames.Keeps (fs fs' : Frames) : Prop :=
  ∀ name, (fs.get? name).isSome = true → (fs'.get? name).isSome = true

/-- **Names stand for what they stood for,** except that those of a transfer may come to
    stand for other frames. -/
def Frames.Grows (fs fs' : Frames) : Prop :=
  ∀ name, fs'.get? name = fs.get? name ∨
    name ∈ [transferCenter, transferOrbit, transferArm] ∧ (fs'.get? name).isSome = true

namespace Frames.Grows
variable {fs fs' fs'' : Frames}

theorem of_eq (h : fs' = fs) : fs.Grows fs' := fun _ => .inl (by rw [h])

theorem trans (h : fs.Grows fs') (h' : fs'.Grows fs'') : fs.Grows fs'' := by
  intro name
  rcases h' name with heq | htransfer
  · rw [heq]
    exact h name
  · exact .inr htransfer

theorem keeps (h : fs.Grows fs') : fs.Keeps fs' := by
  intro name hname
  rcases h name with heq | ⟨_, hsome⟩
  · rwa [heq]
  · exact hsome

/-- A name that is not one of a transfer. -/
theorem get?_eq (h : fs.Grows fs') {name : String}
    (hname : name ∉ [transferCenter, transferOrbit, transferArm]) :
    fs'.get? name = fs.get? name :=
  (h name).resolve_right fun htransfer => hname htransfer.1

end Frames.Grows

/-- A rig takes names, but it frees none. -/
theorem Space.grows_withRig (sp : Space) (rate : Float32) (center reach : Vec3) :
    sp.frames.Grows (sp.withRig rate center reach).frames := by
  intro name
  rw [get?_withRig]
  split_ifs with harm horbit hcenter
  · simp [harm]
  · simp [horbit]
  · simp [hcenter]
  · simp

namespace Flight
variable (f : Flight)

/-- A launch measures, and then it adds the rig. -/
theorem grows_takenOff : f.space.frames.Grows f.takenOff.space.frames := by
  have hsurveyed : f.space.frames.Grows f.surveyed.frames := .of_eq f.reread_surveyed.frames
  have hrig := f.surveyed.grows_withRig f.mission.plan.orbitRate f.centerPlace
    (f.startPlace - f.centerPlace)
  exact hsurveyed.trans hrig

theorem grows_sampled : f.space.frames.Grows f.sampled.space.frames := by
  have hobserved : f.space.frames.Grows f.observed.frames := .of_eq f.reread_observed.frames
  unfold sampled
  dsimp only
  split
  · refine hobserved.trans ?_
    exact (({ f with space := f.observed } : Flight).watching f.sample.2).grows_takenOff
  · exact hobserved

theorem grows_checkArrival (build : Build) :
    f.space.frames.Grows (f.checkArrival build).state.space.frames := by
  obtain ⟨sp, hread, hspace | hspace⟩ := f.space_checkArrival build
  · rw [hspace]
    exact .of_eq hread.frames
  · rw [hspace]
    exact .of_eq hread.frames

/-- **An update takes no name from a frame.** -/
theorem grows_update {f : Flight} (build : Build) (inStep : f.mission.InStep) :
    f.space.frames.Grows (f.update build).state.space.frames := by
  by_cases hcomplete : f.Complete
  · rw [state_update build inStep hcomplete]
    exact f.grows_sampled.trans (f.sampled.grows_checkArrival build)
  · rw [update_eq, if_neg hcomplete, Outcome.state_violated]
    exact .of_eq rfl

end Flight

namespace Stage

/-- The frames that a control code lets the camera ride along with have names. -/
def Serves (st : Stage) (controls : Controls) : Prop :=
  ∀ code name offset, controls.get? code = some (.rideAlong name offset) →
    (st.space.frames.get? name).isSome = true

/-! ## Section 2: Messages -/

/-- An instruction reports at most that a name has been taken again. -/
theorem author_not_violated {st st' : Stage} {verb : Verb} {tokens : List String}
    {entries : List Entry} (h : st.author verb tokens = .ok (entries, st')) (v : Violation) :
    Entry.violated v ∉ entries := by
  obtain ⟨instruction, w, _, happly, _⟩ := author_eq_ok h
  obtain ⟨spec, position, hresult⟩ | ⟨name, position, hresult⟩ | ⟨_, _, _, _, hresult⟩ :=
    st.workshop.apply_cases happly
  · have hentries := congrArg (·.1) hresult
    simp only at hentries
    rw [hentries]
    simp [Workshop.createObject]
  · obtain ⟨rfl, _⟩ := Prod.mk.inj hresult
    simp
  · obtain ⟨rfl, _⟩ := Prod.mk.inj hresult
    simp

namespace Steady
variable {A : ObjectId → Prop} {st : Stage}

/-- Riding along hangs the mount below a frame and the camera below the mount,
    and both are frames. -/
theorem kept_apply (h : st.Steady A) (build : Build) {effect : Effect}
    (hride : ∀ name offset, effect = .rideAlong name offset →
      (st.space.frames.get? name).isSome = true) : (st.apply build effect).Kept := by
  cases effect with
  | rideAlong name offset =>
    obtain ⟨frame, hframe⟩ := Option.isSome_iff_exists.mp (hride name offset rfl)
    unfold Stage.apply
    simp only
    rw [h.rideAlong_eq build hframe]
    exact Outcome.kept_done _
  | togglePause =>
    apply Outcome.kept_report
    intro v
    split <;> simp
  | _ => exact Outcome.kept_done _

/-- **A message keeps all contracts,** whatever it asks for. -/
theorem kept_dispatch (h : st.Steady A) (build : Build) {controls : Controls}
    (serves : st.Serves controls) (message : Message) :
    (st.dispatch build controls message).Kept := by
  unfold Stage.dispatch
  cases message with
  | authoring verb tokens =>
    simp only
    split
    · next hauthor => exact ⟨rfl, author_not_violated hauthor⟩
    · exact Outcome.kept_done st
  | control code =>
    simp only
    split
    · next effect heffect =>
      apply h.kept_apply build
      intro name offset hride
      exact serves code name offset (hride ▸ heffect)
    · exact Outcome.kept_done st

end Steady

end Stage

/-! ## Section 3: Ticks -/

/-- The launch, the windows that are skipped, and those of no account. -/
theorem Flight.kept_afterSample {f : Flight} (build : Build) (inStep : f.mission.InStep)
    {sample : Option Ticket × Watch} (h : f.mission.watch.Sampled sample) :
    (f.afterSample build sample).Kept := by
  obtain ⟨_, hlaunch⟩ | ⟨_, hskip | hskip⟩ := f.afterSample_cases build inStep h
  · rw [hlaunch]
    exact Outcome.kept_report _ (by simp)
  · rw [hskip]
    exact Outcome.kept_done _
  · rw [hskip]
    exact Outcome.kept_report _ (by simp)

namespace Simulation

namespace Regular
variable {rig : Option Nat} {sim : Simulation}

theorem kept_checkArrival (h : sim.Regular rig) (build : Build) :
    (sim.flight.checkArrival build).Kept := by
  by_cases harrives : sim.flight.mission.phase = .inTransit ∧
      ¬ sim.flight.mission.plan.arrivalDistance < sim.flight.gap
  · rw [h.checkArrival_of_near build harrives.1 harrives.2]
    exact Outcome.kept_report _ (by simp)
  · rw [Flight.checkArrival_eq]
    split
    · exact Outcome.kept_done _
    · next htransit =>
      rw [if_pos (not_not.mp fun hnear => harrives ⟨not_not.mp htransit, hnear⟩)]
      exact Outcome.kept_done _

theorem kept_update (h : sim.Regular rig) (build : Build) (inStep : sim.mission.InStep) :
    (sim.flight.update build).Kept := by
  obtain ⟨rig', hsampled⟩ := h.sampled inStep
  have hchecked := hsampled.kept_checkArrival build
  rw [flight_withFlight, ← Flight.state_afterSample build inStep] at hchecked
  rw [Flight.update_eq, if_pos h.complete]
  have hsample := Flight.kept_afterSample (f := { sim.flight with space := sim.flight.observed })
    build inStep sim.flight.sampled_sample
  exact hsample.andThen hchecked

/-- **Every input keeps all contracts.** -/
theorem kept_feed (h : sim.Regular rig) (inStep : sim.mission.InStep)
    (serves : sim.stage.Serves sim.controls) (input : Input) : (sim.feed input).Kept := by
  cases input with
  | message payload =>
    show (sim.handle payload).Kept
    unfold handle
    split
    · exact Outcome.kept_done sim
    · next message _ =>
      obtain ⟨hnone, hsilent⟩ := h.steady.kept_dispatch sim.build serves message
      refine ⟨hnone, ?_⟩
      intro v hv
      simp only at hv
      split at hv
      · obtain hfirst | hrejected := List.mem_append.mp hv
        · exact hsilent v hfirst
        · simp at hrejected
      · exact hsilent v hv
  | tick seconds =>
    have hready := (h.advance seconds).settle
    exact (hready.kept_update _ (inStep_settle_advance inStep seconds)).map _

/-! ## Section 4: Histories -/

/-- Messages leave the frames alone, and updates only add to them. -/
theorem grows_feed (h : sim.Regular rig) (inStep : sim.mission.InStep) (input : Input) :
    sim.frames.Grows (sim.feed input).state.frames := by
  cases input with
  | message payload => exact .of_eq (h.message payload).2.1.frames
  | tick seconds =>
    have hframes : (sim.advance seconds).settle.frames = sim.frames := by
      unfold Simulation.advance
      split <;> rfl
    exact (Frames.Grows.of_eq hframes).trans
      (Flight.grows_update _ (inStep_settle_advance inStep seconds))

theorem serves_feed (h : sim.Regular rig) (inStep : sim.mission.InStep)
    (serves : sim.stage.Serves sim.controls) (input : Input) :
    (sim.feed input).state.stage.Serves (sim.feed input).state.controls := by
  have hcontrols : (sim.feed input).state.controls = sim.controls := by
    cases input with
    | message payload =>
      rw [feed_message]
      split <;> rfl
    | tick seconds =>
      show (sim.advance seconds).controls = sim.controls
      unfold Simulation.advance
      split <;> rfl
  have hkeeps := (h.grows_feed inStep input).keeps
  intro code name offset hcode
  rw [hcontrols] at hcode
  exact hkeeps name (serves code name offset hcode)

end Regular

theorem frames_settle (sim : Simulation) : sim.settle.frames = sim.frames := rfl

theorem controls_settle (sim : Simulation) : sim.settle.controls = sim.controls := rfl

/-- Every frame that a code of the table rides along with is a part of the system. -/
theorem serves_start (setup : Setup) :
    (start setup).stage.Serves (start setup).controls := by
  have hparts : ∀ e ∈ Controls.standard.entries, ∀ name ∈ e.2.target?,
      ∃ part ∈ Solar.blueprint.parts, part.name = name ∧ part.isFrame = true := by decide
  have hframes : (opening setup).settle.stage.space.frames = openingSpace.frames :=
    frames_settle (opening setup)
  rw [start_eq, controls_settle (opening setup)]
  intro code name offset hcode
  obtain ⟨part, hpart, rfl, hframe⟩ :=
    hparts _ (Directory.mem_entries_of_get? hcode) name rfl
  obtain ⟨k, hk⟩ := List.getElem?_of_mem hpart
  rw [hframes, get?_openingSpace, Solar.get?_built hk hframe]
  split <;> rfl

/-- **No contract is broken, now or by the next input.** -/
structure KeepsContracts (sim : Simulation) : Prop where
  /-- No message and no tick is stopped. -/
  feed : ∀ input, (sim.feed input).violation = none
  /-- No message and no tick reports a violation. -/
  reported : ∀ input v, Entry.violated v ∉ (sim.feed input).entries
  /-- Every control code that rides along names a frame. -/
  rides : ∀ code name offset, sim.controls.get? code = some (.rideAlong name offset) →
    ∃ frame, sim.frames.get? name = some frame ∧ sim.frames.contains frame = true
  mount : sim.frames.contains sim.stage.camera.mount = true
  destination : sim.frames.contains sim.mission.bodies.destination = true
  /-- A launch attaches the vehicle to the arm, which is a frame by then. -/
  arm : ∀ ticket, (sim.flight.launch sim.build ticket).state.space.frames.get? transferArm =
      some (sim.flight.launch sim.build ticket).state.mission.attached ∧
    (sim.flight.launch sim.build ticket).state.space.frames.contains
      (sim.flight.launch sim.build ticket).state.mission.attached = true
  bodies : ∀ id ∈ sim.mission.bodies.toList, sim.scene.has id = true

/-- The arm has a name as soon as the vehicle is attached to it. -/
theorem attached_launch (f : Flight) (build : Build) (ticket : Nat) :
    (f.launch build ticket).state.space.frames.get? transferArm =
      some (f.launch build ticket).state.mission.attached := by
  have harm := f.surveyed.get?_withRig f.mission.plan.orbitRate f.centerPlace
    (f.startPlace - f.centerPlace) transferArm
  rw [if_pos rfl] at harm
  rw [Flight.launch_eq]
  exact harm

theorem Regular.keepsContracts {rig : Option Nat} {sim : Simulation} (h : sim.Regular rig)
    (inStep : sim.mission.InStep) (serves : sim.stage.Serves sim.controls) :
    sim.KeepsContracts := by
  constructor
  · exact fun input => (h.kept_feed inStep serves input).violation
  · exact fun input => (h.kept_feed inStep serves input).entries
  · intro code name offset hcode
    obtain ⟨frame, hframe⟩ := Option.isSome_iff_exists.mp (serves code name offset hcode)
    exact ⟨frame, hframe, Frames.contains_of_get? hframe⟩
  · exact Frames.contains_of_get? h.steady.mounted
  · exact h.contains_destination
  · intro ticket
    have harm := attached_launch sim.flight sim.build ticket
    exact ⟨harm, Frames.contains_of_get? harm⟩
  · exact List.all_eq_true.mp h.complete

theorem serves_after (setup : Setup) (h : History) :
    ((start setup).after h).stage.Serves ((start setup).after h).controls :=
  invariant_after setup (P := fun sim => sim.stage.Serves sim.controls) (serves_start setup)
    (fun hregular inStep hserves input => hregular.serves_feed inStep hserves input) h

/-- **No message and no tick breaks a contract,** whatever messages and ticks a
    show has taken before. -/
theorem contracts_kept_after (setup : Setup) (h : History) :
    ((start setup).after h).KeepsContracts := by
  obtain ⟨rig, hregular, inStep⟩ := regular_after setup h
  exact hregular.keepsContracts inStep (serves_after setup h)

end Simulation

end Planetarium
