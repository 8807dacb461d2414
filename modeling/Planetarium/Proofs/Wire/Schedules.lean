import Mathlib.Algebra.GroupWithZero.Nat
import Mathlib.Algebra.Order.BigOperators.Group.List
import Mathlib.Algebra.Order.Group.Nat
import Planetarium.Proofs.Wire.Reception

/-! # Schedules

    A schedule says for each moment what happens next: a controller is accepted,
    or one of the tasks goes on.  Nothing is assumed of it, so it stands for any
    order in which the tasks may go on.

    * `exists_later`: what becomes of a task in the course of a schedule.
    * `Fair`: no task is left for good before it has come to its end.
    * `delivers`: the numbers of the controllers, and what is sent about each of
      them.
    * `exists_fair`: there are fair schedules, whatever the streams are. -/

namespace Planetarium.Reception

/-! ## Section 1: Tasks in a schedule -/

section schedule
variable (schedule : Nat → Move)

theorem sound_after (n : Nat) : (after schedule n).Sound := by
  induction n with
  | zero => constructor <;> simp [after]
  | succ n ih => exact ih.step (schedule n)

theorem streams_after (n : Nat) :
    (after schedule n).services.map Service.stream =
      ((List.range n).map schedule).filterMap Move.stream? := by
  induction n with
  | zero => rfl
  | succ n ih =>
    show ((after schedule n).step (schedule n)).services.map _ = _
    rw [(sound_after schedule n).streams_step, ih, List.range_succ, List.map_append,
      List.filterMap_append]
    cases hstream : (schedule n).stream? <;> simp [hstream]

variable {schedule}
variable {n m : Nat} {s : Service}

/-- A task stays with its controller, and has less to do from step to step. -/
theorem exists_later (hle : n ≤ m) (hs : s ∈ (after schedule n).services) :
    ∃ s' ∈ (after schedule m).services,
      s'.id = s.id ∧ s'.stream = s.stream ∧ (s' = s ∨ s'.work < s.work) := by
  induction hle with
  | refl => exact ⟨s, hs, rfl, rfl, .inl rfl⟩
  | @step m _ ih =>
    obtain ⟨s', hs', hid, hstream, hwork⟩ := ih
    have hsound := sound_after schedule m
    rcases hsound.service_step hs' (schedule m) with hstays | ⟨move, hgoes⟩
    · exact ⟨s', hstays, hid, hstream, hwork⟩
    · have hstep := (hsound.services s' hs').step move
      refine ⟨_, hgoes, hstep.id.trans hid, hstep.stream.trans hstream, ?_⟩
      rcases hstep.work with heq | hless
      · rw [heq]
        exact hwork
      · rcases hwork with rfl | hwork
        · exact .inr hless
        · exact .inr (Nat.lt_trans hless hwork)

/-- A task that has come to its end is left as it is. -/
theorem mem_of_finished (hle : n ≤ m) (hs : s ∈ (after schedule n).services)
    (hfinished : s.finished = true) : s ∈ (after schedule m).services := by
  induction hle with
  | refl => exact hs
  | @step m _ ih =>
    rcases (sound_after schedule m).service_step ih (schedule m) with hstays | ⟨move, hgoes⟩
    · exact hstays
    · rw [Service.step_of_finished hfinished] at hgoes
      exact hgoes

variable (schedule) in
/-- **No task is left for good before it has come to its end.**  Its stream comes in and
    ends some time, and it gets its turn. -/
def Fair : Prop :=
  ∀ n, ∀ s ∈ (after schedule n).services, s.finished = false →
    ∃ m, n ≤ m ∧ s ∉ (after schedule m).services

/-- **Every task comes to its end** in a fair schedule. -/
theorem Fair.exists_finished (fair : Fair schedule) (hs : s ∈ (after schedule n).services) :
    ∃ m, n ≤ m ∧ ∃ s' ∈ (after schedule m).services,
      s'.finished = true ∧ s'.id = s.id ∧ s'.stream = s.stream := by
  -- Induction on what the task has left to do.
  induction hwork : s.work using Nat.strongRecOn generalizing s n with
  | ind k ih =>
    cases hfinished : s.finished with
    | true => exact ⟨n, Nat.le_refl n, s, hs, hfinished, rfl, rfl⟩
    | false =>
      obtain ⟨m, hle, hgone⟩ := fair n s hs hfinished
      obtain ⟨s', hs', hid, hstream, rfl | hless⟩ := exists_later hle hs
      · exact absurd hs' hgone
      · obtain ⟨m', hle', s'', hs'', hend, hid', hstream'⟩ := ih _ (hwork ▸ hless) hs' rfl
        exact ⟨m', Nat.le_trans hle hle', s'', hs'', hend, hid'.trans hid,
          hstream'.trans hstream⟩

end schedule

/-! ## Section 2: What is sent -/

/-- **What is sent in the course of a schedule.** -/
structure Delivers (schedule : Nat → Move) : Prop where
  /-- The controllers are numbered in the order in which they were accepted. -/
  ids : ∀ n, (after schedule n).services.map Service.id =
    List.range' 1 (after schedule n).services.length
  streams : ∀ n, (after schedule n).services.map Service.stream =
    ((List.range n).map schedule).filterMap Move.stream?
  /-- All that is sent is about one of them. -/
  owned : ∀ n, ∀ e ∈ (after schedule n).sent,
    ∃ s ∈ (after schedule n).services, s.id = e.connection
  /-- At any time each of them has been told of as its story begins, with nothing left
      out, repeated or out of order. -/
  begins : ∀ n, ∀ s ∈ (after schedule n).services,
    (after schedule n).eventsOf s.id <+: s.story
  /-- A task that has come to its end has told it in full. -/
  finished : ∀ n, ∀ s ∈ (after schedule n).services, s.finished = true →
    (after schedule n).eventsOf s.id = s.story
  /-- Any other task can go on, whatever the others do. -/
  goesOn : ∀ n, ∀ s ∈ (after schedule n).services, s.finished = false →
    ∃ move, s ∉ ((after schedule n).step (.run s.id move)).services
  /-- In a fair schedule every story is told some time, and nothing is added to it. -/
  eventually : Fair schedule → ∀ n, ∀ s ∈ (after schedule n).services,
    ∃ m, n ≤ m ∧ ∀ m', m ≤ m' → (after schedule m').eventsOf s.id = s.story

/-- **Whatever the order in which the tasks go on,** each controller is told of by its
    own stream alone. -/
theorem delivers (schedule : Nat → Move) : Delivers schedule := by
  have hsound := sound_after schedule
  have hfinished : ∀ n, ∀ s ∈ (after schedule n).services, s.finished = true →
      (after schedule n).eventsOf s.id = s.story := by
    intro n s hs hend
    rw [(hsound n).told s hs, ((hsound n).services s hs).told_finished hend]
  constructor
  · exact fun n => (hsound n).ids
  · exact streams_after schedule
  · exact fun n => (hsound n).owned
  · intro n s hs
    rw [(hsound n).told s hs]
    exact ((hsound n).services s hs).told_begins
  · exact hfinished
  · intro n s hs hunfinished
    obtain ⟨move, hmove⟩ := Service.exists_step hunfinished
    refine ⟨move, fun hstays => ?_⟩
    rcases ((hsound n).mem_run hs move).mp hstays with heq | ⟨_, hne⟩
    · exact hmove heq.symm
    · exact hne rfl
  · intro fair n s hs
    obtain ⟨m, hle, s', hs', hend, hid, hstream⟩ := fair.exists_finished hs
    refine ⟨m, hle, fun m' hle' => ?_⟩
    have hstory : s'.story = s.story := by
      unfold Service.story
      rw [hid, hstream]
    rw [← hid, ← hstory]
    exact hfinished m' s' (mem_of_finished hle' hs' hend) hend

/-! ## Section 3: Fair schedules -/

/-- A list of moves as a schedule, in which nothing happens afterwards. -/
def scheduleOf (moves : List Move) (n : Nat) : Move := moves.getD n .acceptFails

theorem after_scheduleOf (moves : List Move) (n : Nat) :
    after (scheduleOf moves) n = (moves.take n).foldl Reception.step {} := by
  induction n with
  | zero => simp [after]
  | succ n ih =>
    show (after (scheduleOf moves) n).step (scheduleOf moves n) = _
    rw [ih, List.take_add_one, List.foldl_append]
    unfold scheduleOf
    cases hmove : moves[n]? with
    | none => simp [hmove, step]
    | some m => simp [hmove]

/-- How much all tasks together have left to do. -/
def work (r : Reception) : Nat := (r.services.map Service.work).sum

theorem Sound.work_lt {r : Reception} (h : r.Sound) {s : Service} (hs : s ∈ r.services)
    {move : Service.Move} (hmove : (s.step move).2 ≠ s) :
    (r.step (.run s.id move)).work < r.work := by
  have hless : (s.step move).2.work < s.work :=
    ((h.services s hs).step move).work.resolve_left hmove
  unfold work
  rw [h.step_run hs, List.map_map]
  refine List.sum_lt_sum _ _ ?_ ⟨s, hs, ?_⟩
  · intro u hu
    show (if u.id = s.id then (s.step move).2 else u).work ≤ u.work
    split
    · next hid =>
      rw [h.unique hu hs hid]
      exact Nat.le_of_lt hless
    · exact Nat.le_refl _
  · show (if s.id = s.id then (s.step move).2 else s).work < s.work
    rwa [if_pos rfl]

/-- **All tasks can be brought to their end** without a further controller. -/
theorem Sound.exists_finishing {r : Reception} (h : r.Sound) :
    ∃ moves : List Move,
      (moves.foldl Reception.step r).services.map Service.stream = r.services.map Service.stream ∧
      ∀ s ∈ (moves.foldl Reception.step r).services, s.finished = true := by
  -- Induction on what is left to do.
  induction hwork : r.work using Nat.strongRecOn generalizing r with
  | ind k ih =>
    by_cases hall : ∀ s ∈ r.services, s.finished = true
    · exact ⟨[], rfl, hall⟩
    · obtain ⟨s, hs, hunfinished⟩ : ∃ s ∈ r.services, s.finished = false := by
        simpa using hall
      obtain ⟨move, hmove⟩ := Service.exists_step hunfinished
      have hless := h.work_lt hs hmove
      obtain ⟨moves, hstreams, hfinished⟩ := ih _ (hwork ▸ hless) (h.step (.run s.id move)) rfl
      refine ⟨.run s.id move :: moves, hstreams.trans ?_, hfinished⟩
      rw [h.streams_step]
      exact List.append_nil _

theorem Sound.foldl_accept {r : Reception} (h : r.Sound) (streams : List (List UInt8)) :
    ((streams.map Move.accept).foldl Reception.step r).Sound ∧
    ((streams.map Move.accept).foldl Reception.step r).services.map Service.stream =
      r.services.map Service.stream ++ streams := by
  induction streams generalizing r with
  | nil => exact ⟨h, (List.append_nil _).symm⟩
  | cons stream streams ih =>
    obtain ⟨hsound, hstreams⟩ := ih (h.accept stream)
    refine ⟨hsound, hstreams.trans ?_⟩
    rw [h.streams_step, List.append_assoc]
    rfl

/-- **There are fair schedules,** whatever the controllers send. -/
theorem exists_fair (streams : List (List UInt8)) :
    ∃ schedule, Fair schedule ∧ ∃ n, (after schedule n).services.map Service.stream = streams := by
  obtain ⟨hsound, haccepted⟩ := (sound_after (fun _ => .acceptFails) 0).foldl_accept streams
  obtain ⟨moves, hstreams, hfinished⟩ := hsound.exists_finishing
  let all : List Move := streams.map Move.accept ++ moves
  -- From the last of these moves on, every task has come to its end.
  have hlast : ∀ n, all.length ≤ n → after (scheduleOf all) n =
      moves.foldl Reception.step ((streams.map Move.accept).foldl Reception.step {}) := by
    intro n hn
    rw [after_scheduleOf, List.take_of_length_le hn, List.foldl_append]
  refine ⟨scheduleOf all, ?_, all.length, ?_⟩
  · intro n s _ hunfinished
    refine ⟨max n all.length, Nat.le_max_left _ _, fun hstays => ?_⟩
    rw [hlast _ (Nat.le_max_right _ _)] at hstays
    rw [hfinished s hstays] at hunfinished
    cases hunfinished
  · rw [hlast _ (Nat.le_refl _)]
    exact hstreams.trans haccepted

end Planetarium.Reception
