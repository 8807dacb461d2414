import Planetarium.Proofs.Numeral.Order
import Planetarium.Proofs.Show.Course

/-! # The arrival in range

    A tick lets the vehicle arrive unless it is farther away than the distance
    of arrival.  Whether it then is within that distance is another question:
    a tick of a great length turns the frames by an undefined angle, and an
    undefined distance is not greater than any other one.

    * `Simulation.gapAt`, `gapAt_eq`: the distance that a tick measures, and that
      it is the one that poses and links determine.
    * `arrivesIn_iff`: when a tick lets the vehicle arrive.
    * `arrival_in_range_iff`: an arrival is in range exactly if the distance and
      its bound are defined.
    * `arrival_astray`: an arrival that is not. -/

namespace Planetarium

/-! ## Section 1: Updates -/

namespace Flight

/-- **How far the vehicle is from the destination,** by the poses and the links and
    not by what has been remembered of them. -/
def apart (f : Flight) : Float32 :=
  (f.space.scene.freshPosition f.mission.bodies.vehicle).distance
    (f.space.scene.freshPosition f.mission.bodies.destination)

theorem plan_sampled (f : Flight) : f.sampled.mission.plan = f.mission.plan := by
  unfold sampled
  dsimp only
  split
  · rfl
  · rfl

/-- No update changes what a mission is to do. -/
theorem plan_update {f : Flight} (build : Build) (inStep : f.mission.InStep) :
    (f.update build).state.mission.plan = f.mission.plan := by
  by_cases hcomplete : f.Complete
  · rw [state_update build inStep hcomplete, ← f.plan_sampled]
    obtain ⟨sp, _, _, ⟨hstate, _⟩ | ⟨_, harrived⟩ | ⟨_, _, hstrayed⟩⟩ :=
      f.sampled.checkArrival_cases build
    · rw [hstate]
    · rw [harrived]
      rfl
    · rw [hstrayed]
      rfl
  · rw [update_eq, if_neg hcomplete, Outcome.state_violated]

/-- Only a launch changes the phase before the arrival is checked. -/
theorem phase_sampled (f : Flight) :
    f.sampled.mission.phase =
      if f.mission.watch.FiresSecond f.sample then .inTransit else f.mission.phase := by
  unfold sampled
  dsimp only
  split
  · rfl
  · rfl

end Flight

namespace Simulation

/-! ## Section 2: Ticks -/

section tick
variable (sim : Simulation) (seconds : Float32)

/-- The mission in a tick when the arrival is checked: the frames have turned,
    the camera has been settled, and the watch has taken its sample. -/
def approach : Flight := (sim.advance seconds).settle.flight.sampled

/-- **The distance that a tick measures** from the vehicle to the destination. -/
def gapAt : Float32 := (sim.approach seconds).gap

theorem plan_approach : (sim.approach seconds).mission.plan = sim.mission.plan :=
  (Flight.plan_sampled _).trans (congrArg Mission.plan (mission_settle_advance sim seconds))

/-- **A tick in which the vehicle arrives.** -/
def ArrivesIn : Prop :=
  sim.mission.phase ≠ .attachedDestination ∧
  (sim.tick seconds).state.mission.phase = .attachedDestination

instance : Decidable (sim.ArrivesIn seconds) := inferInstanceAs (Decidable (_ ∧ _))

end tick

namespace Regular
variable {rig : Option Nat} {sim : Simulation}

theorem mission_approach (h : sim.Regular rig) (inStep : sim.mission.InStep) (seconds : Float32) :
    (sim.tick seconds).state.mission =
      ((sim.approach seconds).checkArrival sim.build).state.mission := by
  have hready := (h.advance seconds).settle
  have hupdate := Flight.state_update (sim.advance seconds).settle.build
    (inStep_settle_advance inStep seconds) hready.complete
  rw [build_settle_advance] at hupdate
  rw [tick_eq]
  exact congrArg Flight.mission hupdate

/-- The flight whose arrival is checked is that of a regular simulation. -/
theorem approach (h : sim.Regular rig) (inStep : sim.mission.InStep) (seconds : Float32) :
    ∃ rig' sim', Regular rig' sim' ∧ sim'.flight = sim.approach seconds := by
  obtain ⟨rig', hsampled⟩ :=
    (h.advance seconds).settle.sampled (inStep_settle_advance inStep seconds)
  exact ⟨rig', _, hsampled, flight_withFlight _ _⟩

/-- What has been remembered of the places is not out of date. -/
theorem gapAt_eq (h : sim.Regular rig) (inStep : sim.mission.InStep) (seconds : Float32) :
    sim.gapAt seconds = (sim.approach seconds).apart := by
  obtain ⟨rig', sim', hregular, hflight⟩ := h.approach inStep seconds
  have hsound : (sim.approach seconds).space.scene.Sound := hflight ▸ hregular.steady.sound
  exact Flight.gap_eq hsound

/-- **When the vehicle arrives.**  It is in transit, and not farther away than the
    distance of arrival. -/
theorem arrivesIn_iff (h : sim.Regular rig) (inStep : sim.mission.InStep) (seconds : Float32) :
    sim.ArrivesIn seconds ↔
      (sim.approach seconds).mission.phase = .inTransit ∧
      ¬ (sim.approach seconds).mission.plan.arrivalDistance < sim.gapAt seconds := by
  -- A mission that is in transit when the arrival is checked has not arrived before.
  have hphase : (sim.approach seconds).mission.phase = sim.mission.phase ∨
      (sim.approach seconds).mission.phase = .inTransit ∧ sim.mission.phase = .attachedOrigin := by
    have hsampled := (sim.advance seconds).settle.flight.phase_sampled
    have hmission : (sim.advance seconds).settle.flight.mission = sim.mission :=
      mission_settle_advance sim seconds
    rw [hmission] at hsampled
    split at hsampled
    · next hsecond =>
      refine .inr ⟨hsampled, inStep.mpr ?_⟩
      have hone : sim.mission.watch.tickets = 1 := hsecond.1
      omega
    · exact .inl hsampled
  unfold ArrivesIn
  rw [h.mission_approach inStep]
  constructor
  · intro ⟨hbefore, hafter⟩
    rw [Flight.checkArrival_eq] at hafter
    split at hafter
    · next hstays =>
      obtain hsame | ⟨htransit, _⟩ := hphase
      · exact absurd (hsame.symm.trans hafter) hbefore
      · exact absurd htransit hstays
    · next htransit =>
      refine ⟨not_not.mp htransit, fun hfar => ?_⟩
      -- A vehicle that is too far away stays in transit.
      unfold gapAt at hfar
      rw [if_pos hfar] at hafter
      have hstill : (sim.approach seconds).mission.phase = .attachedDestination := hafter
      exact htransit (by simp [hstill])
  · intro ⟨htransit, hnear⟩
    constructor
    · obtain hsame | ⟨_, horigin⟩ := hphase
      · rw [← hsame, htransit]
        simp
      · rw [horigin]
        simp
    · obtain ⟨rig', sim', hregular, hflight⟩ := h.approach inStep seconds
      unfold gapAt at hnear
      rw [← hflight] at htransit hnear ⊢
      rw [hregular.checkArrival_of_near sim.build htransit hnear]
      rfl

/-- No input changes what a mission is to do. -/
theorem plan_feed (h : sim.Regular rig) (inStep : sim.mission.InStep) (input : Input) :
    (sim.feed input).state.mission.plan = sim.mission.plan := by
  cases input with
  | message payload => rw [(h.message payload).2.2]
  | tick seconds =>
    exact (Flight.plan_update _ (inStep_settle_advance inStep seconds)).trans
      (congrArg Mission.plan (mission_settle_advance sim seconds))

end Regular

/-! ## Section 3: Histories -/

theorem plan_after (setup : Setup) (h : History) :
    ((start setup).after h).mission.plan = setup.plan := by
  refine invariant_after setup (P := fun sim => sim.mission.plan = setup.plan) ?_ ?_ h
  · rw [start_eq]
    rfl
  · intro rig sim hregular inStep hplan input
    exact (hregular.plan_feed inStep input).trans hplan

/-- **The range of an arrival.**  Whatever messages and ticks a show has taken, when
    a tick lets the vehicle arrive, the distance that it has measured is the one
    from the vehicle to the destination, and it is not greater than the distance
    of arrival.  It is at most that distance exactly if both are defined. -/
theorem arrival_in_range_iff (setup : Setup) (h : History) (seconds : Float32)
    (arrives : ((start setup).after h).ArrivesIn seconds) :
    ((start setup).after h).gapAt seconds = (((start setup).after h).approach seconds).apart ∧
    ¬ setup.plan.arrivalDistance < ((start setup).after h).gapAt seconds ∧
    (((start setup).after h).gapAt seconds ≤ setup.plan.arrivalDistance ↔
      (((start setup).after h).gapAt seconds).isNaN = false ∧
      setup.plan.arrivalDistance.isNaN = false) := by
  obtain ⟨rig, hregular, inStep⟩ := regular_after setup h
  obtain ⟨_, hnear⟩ := (hregular.arrivesIn_iff inStep seconds).mp arrives
  have hplan : (((start setup).after h).approach seconds).mission.plan = setup.plan := by
    rw [plan_approach, plan_after]
  rw [hplan] at hnear
  exact ⟨hregular.gapAt_eq inStep seconds, hnear, Numeral.Single.le_iff_of_not_lt hnear⟩

/-- A show whose window opens at the start, closes, and opens again when the orbits
    go back.  Everything is near enough to arrive at. -/
def returning : Setup := { plan := { target := 0, arrivalDistance := 100 } }

set_option maxRecDepth 100000 in
theorem arrival_in_range_returning :
    ((start returning).after [.tick 0, .tick 1]).ArrivesIn (-1) ∧
    ((start returning).after [.tick 0, .tick 1]).gapAt (-1) ≤ 100 := by
  have hrun : ((start returning).after [.tick 0, .tick 1]).ArrivesIn (-1) ∧
      (((start returning).after [.tick 0, .tick 1]).gapAt (-1)).isNaN = false := by
    decide +kernel
  have hrange := (arrival_in_range_iff returning [.tick 0, .tick 1] (-1) hrun.1).2.2
  exact ⟨hrun.1, hrange.mpr ⟨hrun.2, by decide⟩⟩

/-- A show whose window opens at the start. -/
def straying : Setup := { plan := { target := 0 } }

set_option maxRecDepth 100000 in
/-- **An arrival out of range.**  The last tick is so long that the frames turn by
    an undefined angle.  An angle that is undefined counts as zero, so a window
    opens, and the launch and the arrival both come in that tick.  The distance
    is undefined, and not at most the distance of arrival. -/
theorem arrival_astray :
    ((start straying).after [.tick 0, .tick 1]).ArrivesIn 3e38 ∧
    (((start straying).after [.tick 0, .tick 1]).gapAt 3e38).isNaN = true ∧
    ¬ ((start straying).after [.tick 0, .tick 1]).gapAt 3e38 ≤ straying.plan.arrivalDistance := by
  have hrun : ((start straying).after [.tick 0, .tick 1]).ArrivesIn 3e38 ∧
      (((start straying).after [.tick 0, .tick 1]).gapAt 3e38).isNaN = true := by
    decide +kernel
  refine ⟨hrun.1, hrun.2, fun hle => ?_⟩
  have hdefined := (Numeral.Single.isNaN_of_le hle).1
  rw [hrun.2] at hdefined
  cases hdefined

end Simulation

end Planetarium
