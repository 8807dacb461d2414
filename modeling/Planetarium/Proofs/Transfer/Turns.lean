import Planetarium.Proofs.Transfer.Steps

/-! # The course of a mission

    A mission is called again and again, and between two calls anything may
    happen to its space.  Each call is given the space as it is by then.

    * `Mission.InStep` links the phase to the number of tickets.  Every call
      keeps it, also one that ends in a violation.
    * `Mission.Orderly` says what one call may do: launch on the second ticket,
      and apart from that check the arrival.
    * `Mission.mission_orderly`: every call of every run is orderly. -/

namespace Planetarium

/-! ## Section 1: Turns -/

/-- The place of a phase on the way. -/
def Phase.rank : Phase → Nat
  | .attachedOrigin => 0
  | .inTransit => 1
  | .attachedDestination => 2

namespace Mission

/-- A call of a mission. -/
inductive Call where
  | observe (angle : Int)
  | update

/-- A call, and the space as it is found then. -/
structure Turn where
  space : Space
  call : Call

/-- An update is refused if a body of the mission is missing. -/
def Refused (m : Mission) (t : Turn) : Prop :=
  t.call = .update ∧ ¬ Flight.Complete ⟨m, t.space⟩

section take
variable (m : Mission) (build : Build)

/-- What a turn leaves behind.  What a call has done before a violation is kept. -/
def take (t : Turn) : Outcome Flight :=
  match t.call with
  | .observe angle => Flight.observeAngle ⟨m, t.space⟩ build angle
  | .update => Flight.update ⟨m, t.space⟩ build

/-- The mission after some turns. -/
def afterTurns (ts : List Turn) : Mission :=
  ts.foldl (fun m t => (m.take build t).state.mission) m

/-- The second ticket is fired in this turn. -/
def LaunchesIn (t : Turn) : Prop :=
  m.watch.tickets = 1 ∧ (m.take build t).state.mission.watch.tickets = 2

instance (t : Turn) : Decidable (m.LaunchesIn build t) :=
  inferInstanceAs (Decidable (_ ∧ _))

end take

/-- The number of objects that the calls of a run have added. -/
def addedIn (m : Mission) (build : Build) : List Turn → Nat
  | [] => 0
  | t :: ts =>
    ((m.take build t).state.space.scene.size - t.space.scene.size) +
      (m.take build t).state.mission.addedIn build ts

/-- **What one call does.** -/
structure Orderly (m : Mission) (build : Build) (t : Turn) : Prop where
  /-- The phase never goes back. -/
  forward : m.phase.rank ≤ (m.take build t).state.mission.phase.rank
  /-- A launch is reported on the second ticket and on no other. -/
  launched_iff : (∃ n, Entry.launched n ∈ (m.take build t).entries) ↔ m.LaunchesIn build t
  /-- The launch adds three objects, and nothing else adds any. -/
  size : (m.take build t).state.space.scene.size =
    t.space.scene.size + if m.LaunchesIn build t then 3 else 0
  /-- The launch names its three frames, and takes the vehicle off the origin. -/
  launch : m.LaunchesIn build t →
    (m.take build t).state.mission.phase ≠ .attachedOrigin ∧
    (m.take build t).state.space.frames =
      (((t.space.frames.register transferCenter (Rig.next t.space.scene).center none).register
        transferOrbit (Rig.next t.space.scene).orbit (some (.aboutY m.plan.orbitRate))).register
        transferArm (Rig.next t.space.scene).arm none)
  /-- All other calls keep the frames. -/
  frames : ¬ m.LaunchesIn build t → (m.take build t).state.space.frames = t.space.frames
  /-- An angle that does not launch changes the watch and nothing else. -/
  observe : ¬ m.LaunchesIn build t → ∀ angle, t.call = .observe angle →
    (m.take build t).state =
      Flight.watching ⟨m, t.space⟩ (m.take build t).state.mission.watch
  /-- An update that is refused changes nothing. -/
  refused : m.Refused t → m.take build t = .violated build ⟨m, t.space⟩ .bodiesMissing
  /-- Any other update that does not launch measures, and then the arrival is
      checked. -/
  update : ¬ m.LaunchesIn build t → ¬ m.Refused t → t.call = .update →
    ∃ sp, t.space.Reread sp ∧
      (m.take build t).state =
        ((Flight.watching ⟨m, sp⟩ (m.take build t).state.mission.watch).checkArrival
          build).state

/-! ## Section 2: One call -/

end Mission

/-- What an arrival check keeps of a flight. -/
structure Flight.SameCourse (f : Flight) (o : Outcome Flight) : Prop where
  watch : o.state.mission.watch = f.mission.watch
  frames : o.state.space.frames = f.space.frames
  size : o.state.space.scene.size = f.space.scene.size
  forward : f.mission.phase.rank ≤ o.state.mission.phase.rank
  origin_iff : o.state.mission.phase = .attachedOrigin ↔ f.mission.phase = .attachedOrigin
  not_launched : ∀ n, Entry.launched n ∉ o.entries

theorem Flight.sameCourse_checkArrival (f : Flight) (build : Build) :
    f.SameCourse (f.checkArrival build) := by
  obtain ⟨sp, hread, _, ⟨hstate, hentries⟩ | ⟨htransit, harrived⟩ | ⟨htransit, _, hstrayed⟩⟩ :=
    f.checkArrival_cases build
  · constructor <;> simp [hstate, hentries, hread.frames, hread.scene.size]
  · constructor <;>
      simp [harrived, htransit, Outcome.report, hread.frames, hread.scene.size, Phase.rank,
        Scene.size_rehang, Flight.attachedTo]
  · constructor <;>
      simp [hstrayed, htransit, hread.frames, hread.scene.size, Phase.rank, Flight.entered]

/-- What a launch makes of a flight. -/
structure Flight.Launched (f g : Flight) : Prop where
  watch : g.mission.watch = f.mission.watch
  phase : g.mission.phase = .inTransit
  size : g.space.scene.size = f.space.scene.size + 3
  frames : g.space.frames =
    (((f.space.frames.register transferCenter (Rig.next f.space.scene).center none).register
      transferOrbit (Rig.next f.space.scene).orbit
      (some (.aboutY f.mission.plan.orbitRate))).register transferArm
      (Rig.next f.space.scene).arm none)

theorem Flight.launched_takenOff (f : Flight) : f.Launched f.takenOff := by
  have hread := f.reread_surveyed
  constructor
  · rfl
  · rfl
  · unfold takenOff
    rw [size_departed, hread.scene.size]
  · unfold takenOff
    rw [frames_departed, Space.frames_withRig, Rig.next_of_reread hread.scene, hread.frames]

theorem Watch.Sampled.tickets {w : Watch} {sample : Option Ticket × Watch} (h : w.Sampled sample) :
    sample.2.tickets = w.tickets ∨ sample.2.tickets = w.tickets + 1 := by
  cases h with
  | silent h => exact .inl h
  | fired h => exact .inr h

namespace Mission

/-- What a call does after its sample. -/
def Call.finish (c : Call) (build : Build) (f : Flight) : Outcome Flight :=
  match c with
  | .observe _ => .done f
  | .update => f.checkArrival build

theorem Call.sameCourse_finish (c : Call) (build : Build) (f : Flight) :
    f.SameCourse (c.finish build f) := by
  cases c with
  | observe angle => constructor <;> simp [finish, Outcome.done]
  | update => exact f.sameCourse_checkArrival build

theorem take_of_refused {m : Mission} {t : Turn} (h : m.Refused t) (build : Build) :
    m.take build t = .violated build ⟨m, t.space⟩ .bodiesMissing := by
  obtain ⟨hupdate, hmissing⟩ := h
  unfold take
  rw [hupdate]
  simp only
  rw [Flight.update_eq, if_neg hmissing]

/-- A turn that is not refused takes a sample and then finishes. -/
theorem take_eq {m : Mission} {t : Turn} (hrefused : ¬ m.Refused t) (build : Build) :
    ∃ sp sample, t.space.Reread sp ∧ (∀ angle, t.call = .observe angle → sp = t.space) ∧
      m.watch.Sampled sample ∧
      m.take build t =
        (Flight.afterSample ⟨m, sp⟩ build sample).andThen (t.call.finish build) := by
  obtain ⟨space, call⟩ := t
  cases call with
  | observe angle =>
    refine ⟨space, m.watch.observe angle, .refl space, fun _ _ => rfl,
      m.watch.sampled_observe angle, ?_⟩
    exact (Outcome.andThen_done _).symm
  | update =>
    have hcomplete : Flight.Complete ⟨m, space⟩ := by
      by_contra hmissing
      exact hrefused ⟨rfl, hmissing⟩
    refine ⟨Flight.observed ⟨m, space⟩, Flight.sample ⟨m, space⟩,
      Flight.reread_observed ⟨m, space⟩, ?_, Flight.sampled_sample ⟨m, space⟩, ?_⟩
    · intro angle h
      cases h
    · show Flight.update ⟨m, space⟩ build = _
      rw [Flight.update_eq, if_pos hcomplete]
      rfl

/-- **A turn, by what its sample leads to.** -/
theorem take_cases {m : Mission} (inStep : m.InStep) {t : Turn} (hrefused : ¬ m.Refused t)
    (build : Build) :
    ∃ sp w start, t.space.Reread sp ∧ (∀ angle, t.call = .observe angle → sp = t.space) ∧
      (m.take build t).state = (t.call.finish build start).state ∧
      ((m.watch.tickets = 1 ∧ w.tickets = 2 ∧ (Flight.watching ⟨m, sp⟩ w).Launched start ∧
        (m.take build t).entries = .launched 2 :: (t.call.finish build start).entries) ∨
      (¬ (m.watch.tickets = 1 ∧ w.tickets = 2) ∧
        (w.tickets = m.watch.tickets ∨ w.tickets = m.watch.tickets + 1) ∧
        start = Flight.watching ⟨m, sp⟩ w ∧
        ∀ n, Entry.launched n ∉ (m.take build t).entries)) := by
  obtain ⟨sp, sample, hread, hsame, hsampled, htake⟩ := take_eq hrefused build
  -- A sample never breaks a contract, so that the call is finished.
  have hnone := Flight.violation_afterSample (f := ⟨m, sp⟩) build inStep hsampled
  have hnext := Outcome.andThen_of_none (t.call.finish build) hnone
  rw [← htake] at hnext
  obtain ⟨hstate, hentries⟩ := hnext
  have hsilent := (t.call.sameCourse_finish build (Flight.watching ⟨m, sp⟩ sample.2)).not_launched
  refine ⟨sp, sample.2, _, hread, hsame, hstate, ?_⟩
  obtain ⟨hsecond, hlaunch⟩ | ⟨hnot, hskip | hskip⟩ :=
    Flight.afterSample_cases ⟨m, sp⟩ build inStep hsampled
  · left
    rw [hentries, hlaunch]
    exact ⟨hsecond.1, hsecond.2, Flight.launched_takenOff _, rfl⟩
  · right
    rw [hentries, hskip]
    exact ⟨hnot, hsampled.tickets, rfl, hsilent⟩
  · right
    rw [hentries, hskip]
    refine ⟨hnot, hsampled.tickets, rfl, ?_⟩
    intro n hn
    obtain hwindow | hn := List.mem_append.mp hn
    · simp [Outcome.report] at hwindow
    · exact hsilent n hn

theorem InStep.take {m : Mission} (inStep : m.InStep) (build : Build) (t : Turn) :
    (m.take build t).state.mission.InStep := by
  by_cases hrefused : m.Refused t
  · rw [take_of_refused hrefused, Outcome.state_violated]
    exact inStep
  · obtain ⟨sp, w, start, _, _, hstate, hcase⟩ := take_cases inStep hrefused build
    have hfinish := t.call.sameCourse_finish build start
    unfold InStep
    rw [hstate, hfinish.origin_iff, hfinish.watch]
    obtain ⟨_, htwo, hlaunched, _⟩ | ⟨hnot, htickets, rfl, _⟩ := hcase
    · -- The second ticket and the launch come together.
      have hwatch : start.mission.watch = w := hlaunched.watch
      rw [hlaunched.phase, hwatch, htwo]
      decide
    · have hbefore : m.phase = .attachedOrigin ↔ m.watch.tickets ≤ 1 := inStep
      show m.phase = .attachedOrigin ↔ w.tickets ≤ 1
      rw [hbefore]
      omega

/-- A refused update leaves everything as it is. -/
theorem orderly_of_refused {m : Mission} {t : Turn} (hrefused : m.Refused t) (build : Build) :
    m.Orderly build t := by
  have htake := take_of_refused hrefused build
  have hnot : ¬ m.LaunchesIn build t := by
    unfold LaunchesIn
    rw [htake, Outcome.state_violated]
    show ¬ (m.watch.tickets = 1 ∧ m.watch.tickets = 2)
    omega
  constructor <;> simp [htake, hnot, hrefused, hrefused.1]

/-- **Every call of a mission in step is orderly.** -/
theorem InStep.orderly {m : Mission} (inStep : m.InStep) (build : Build) (t : Turn) :
    m.Orderly build t := by
  by_cases hrefused : m.Refused t
  · exact orderly_of_refused hrefused build
  obtain ⟨sp, w, start, hread, hsame, hstate, hcase⟩ := take_cases inStep hrefused build
  have hfinish := t.call.sameCourse_finish build start
  obtain ⟨hone, htwo, hlaunched, hentries⟩ | ⟨hno, htickets, rfl, hentries⟩ := hcase
  · have hlaunches : m.LaunchesIn build t := by
      refine ⟨hone, ?_⟩
      rw [hstate, hfinish.watch]
      exact hlaunched.watch ▸ htwo
    have hsize : start.space.scene.size = sp.scene.size + 3 := hlaunched.size
    have horigin : m.phase = .attachedOrigin := inStep.mpr (by omega)
    -- The launch itself; an arrival check may follow in the same call.
    constructor
    · rw [horigin]
      exact Nat.zero_le _
    · refine iff_of_true ⟨2, ?_⟩ hlaunches
      rw [hentries]
      exact List.mem_cons_self
    · rw [hstate, hfinish.size, hsize, hread.scene.size, if_pos hlaunches]
    · intro _
      constructor
      · intro hback
        rw [hstate, hfinish.origin_iff, hlaunched.phase] at hback
        cases hback
      · have hframes := hlaunched.frames
        simp only [Flight.watching] at hframes
        rw [hstate, hfinish.frames, hframes, hread.frames, Rig.next_of_reread hread.scene]
    · exact fun h => absurd hlaunches h
    · exact fun h => absurd hlaunches h
    · exact fun h => absurd h hrefused
    · exact fun h => absurd hlaunches h
  · have hwatch : (m.take build t).state.mission.watch = w := by
      rw [hstate]
      exact hfinish.watch
    have hnot : ¬ m.LaunchesIn build t := by
      unfold LaunchesIn
      rw [hwatch]
      exact hno
    -- No launch: the flight is the one that has been measured, with a new watch.
    constructor
    · rw [hstate]
      exact hfinish.forward
    · refine iff_of_false ?_ hnot
      intro ⟨n, hn⟩
      exact hentries n hn
    · rw [hstate, hfinish.size, if_neg hnot]
      exact hread.scene.size
    · exact fun h => absurd h hnot
    · intro _
      rw [hstate, hfinish.frames]
      exact hread.frames
    · intro _ angle hcall
      rw [hwatch, hstate, hcall, hsame angle hcall]
      rfl
    · exact fun h => absurd h hrefused
    · -- An update goes on with the arrival check.
      intro _ _ hcall
      refine ⟨sp, hread, ?_⟩
      rw [hwatch, hstate, hcall]
      rfl

/-! ## Section 3: Runs -/

theorem inStep_new (bodies : Bodies) (plan : Plan) : (new bodies plan).InStep :=
  iff_of_true rfl (Nat.zero_le 1)

theorem afterTurns_append (m : Mission) (build : Build) (ts us : List Turn) :
    m.afterTurns build (ts ++ us) = (m.afterTurns build ts).afterTurns build us :=
  List.foldl_append

namespace InStep
variable {m : Mission} (inStep : m.InStep) (build : Build) (ts : List Turn)
include inStep

/-- **A run keeps a mission in step.** -/
theorem afterTurns : (m.afterTurns build ts).InStep := by
  induction ts generalizing m with
  | nil => exact inStep
  | cons t ts ih => exact ih (inStep.take build t)

theorem rank_le_afterTurns : m.phase.rank ≤ (m.afterTurns build ts).phase.rank := by
  induction ts generalizing m with
  | nil => exact Nat.le_refl _
  | cons t ts ih =>
    exact Nat.le_trans (inStep.orderly build t).forward (ih (inStep.take build t))

theorem tickets_take (t : Turn) :
    (m.take build t).state.mission.watch.tickets = m.watch.tickets ∨
    (m.take build t).state.mission.watch.tickets = m.watch.tickets + 1 := by
  by_cases hrefused : m.Refused t
  · rw [take_of_refused hrefused, Outcome.state_violated]
    exact .inl rfl
  · obtain ⟨sp, w, start, _, _, hstate, hcase⟩ := take_cases inStep hrefused build
    rw [hstate, (t.call.sameCourse_finish build start).watch]
    obtain ⟨hone, htwo, hlaunched, _⟩ | ⟨_, htickets, rfl, _⟩ := hcase
    · have hwatch : start.mission.watch = w := hlaunched.watch
      rw [hwatch]
      omega
    · exact htickets

theorem tickets_le_afterTurns : m.watch.tickets ≤ (m.afterTurns build ts).watch.tickets := by
  induction ts generalizing m with
  | nil => exact Nat.le_refl _
  | cons t ts ih =>
    have hstep := inStep.tickets_take build t
    have hrest := ih (inStep.take build t)
    show _ ≤ ((m.take build t).state.mission.afterTurns build ts).watch.tickets
    omega

/-- **A run adds three objects if the launch is in it, and otherwise none.** -/
theorem addedIn_eq :
    m.addedIn build ts =
      if m.watch.tickets ≤ 1 ∧ 2 ≤ (m.afterTurns build ts).watch.tickets then 3 else 0 := by
  induction ts generalizing m with
  | nil =>
    have hnot : ¬ (m.watch.tickets ≤ 1 ∧ 2 ≤ m.watch.tickets) := by omega
    exact (if_neg hnot).symm
  | cons t ts ih =>
    have hnext := inStep.take build t
    have hsize := (inStep.orderly build t).size
    have hstep := inStep.tickets_take build t
    have hrest := hnext.tickets_le_afterTurns build ts
    have hadded : m.addedIn build (t :: ts) =
        ((m.take build t).state.space.scene.size - t.space.scene.size) +
          (m.take build t).state.mission.addedIn build ts := rfl
    have hafter : m.afterTurns build (t :: ts) =
        (m.take build t).state.mission.afterTurns build ts := rfl
    rw [hadded, hafter, ih hnext, hsize]
    by_cases hlaunches : m.LaunchesIn build t
    · -- From the launch on, nothing more is added.
      rw [if_pos hlaunches]
      obtain ⟨hone, htwo⟩ := hlaunches
      rw [if_neg (by omega), if_pos (by omega)]
      omega
    · -- A call that does not launch adds nothing, whether the launch is still to come or not.
      rw [if_neg hlaunches]
      unfold LaunchesIn at hlaunches
      split_ifs <;> omega

end InStep

/-- **The course of a mission.**  In every build and every run, whatever happens
    to the space between the calls:

    * the vehicle is at the origin exactly until the second ticket;
    * every further call is orderly, and no later phase is an earlier one;
    * the calls add three objects in all once the second ticket has been fired,
      and none before. -/
theorem mission_orderly (build : Build) (bodies : Bodies) (plan : Plan) (ts : List Turn) :
    (((new bodies plan).afterTurns build ts).phase = .attachedOrigin ↔
      ((new bodies plan).afterTurns build ts).watch.tickets ≤ 1) ∧
    (∀ t, ((new bodies plan).afterTurns build ts).Orderly build t) ∧
    (∀ us, ((new bodies plan).afterTurns build ts).phase.rank ≤
      ((new bodies plan).afterTurns build (ts ++ us)).phase.rank) ∧
    (new bodies plan).addedIn build ts =
      if 2 ≤ ((new bodies plan).afterTurns build ts).watch.tickets then 3 else 0 := by
  have hstart := inStep_new bodies plan
  have inStep := hstart.afterTurns build ts
  refine ⟨inStep, inStep.orderly build, ?_, ?_⟩
  · intro us
    rw [afterTurns_append]
    exact inStep.rank_le_afterTurns build us
  · have hzero : (new bodies plan).watch.tickets ≤ 1 := Nat.zero_le 1
    rw [hstart.addedIn_eq build]
    simp [hzero]

end Mission

end Planetarium
