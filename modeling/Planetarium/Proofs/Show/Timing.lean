import Planetarium.Proofs.Show.Course
import Planetarium.Proofs.Show.InTime

/-! # Time and pausing

    Messages come and go, but only the ticks and the pauses between them move
    the orbits.

    * `paused_message`: one control code stops the orbits and lets them go on,
      and no other message does.
    * `Alongside.after_timing`: a show runs alongside the show that takes
      nothing but the ticks and the pauses of its history.
    * `sameOrbits_of_timing`: ticks and pauses determine all that is to be seen
      of the orbits. -/

namespace Planetarium

/-! ## Section 1: The pause -/

theorem Controls.standard_togglePause {code : Char} :
    standard.get? code = some .togglePause ↔ code = 'p' := by
  constructor
  · intro hcode
    have hall : ∀ e ∈ standard.entries, e.2 = .togglePause → e.1 = 'p' := by decide
    exact hall _ (Directory.mem_entries_of_get? hcode) rfl
  · rintro rfl
    decide

theorem Stage.paused_apply (st : Stage) (build : Build) (effect : Effect) :
    (st.apply build effect).state.paused =
      if effect = .togglePause then !st.paused else st.paused := by
  cases effect <;> rfl

/-- **The pause is toggled by one code.**  Instructions have nothing to do with it. -/
theorem Stage.paused_dispatch (st : Stage) (build : Build) (message : Message) :
    (st.dispatch build Controls.standard message).state.paused =
      if message = .control 'p' then !st.paused else st.paused := by
  unfold dispatch
  cases message with
  | authoring verb tokens =>
    rw [if_neg (by simp)]
    simp only
    split
    · next hauthor =>
      obtain ⟨_, w, _, _, rfl⟩ := author_eq_ok hauthor
      rfl
    · rfl
  | control code =>
    simp only [Message.control.injEq]
    split
    · next effect heffect =>
      show (st.apply build effect).state.paused = _
      rw [paused_apply]
      by_cases hcode : code = 'p'
      · have htoggle : effect = .togglePause :=
          Option.some.inj (heffect.symm.trans (Controls.standard_togglePause.mpr hcode))
        rw [if_pos htoggle, if_pos hcode]
      · have hother : effect ≠ .togglePause := by
          intro htoggle
          exact hcode (Controls.standard_togglePause.mp (htoggle ▸ heffect))
        rw [if_neg hother, if_neg hcode]
    · next hnone =>
      rw [if_neg]
      intro hcode
      rw [Controls.standard_togglePause.mpr hcode] at hnone
      cases hnone

namespace Simulation

theorem paused_message {sim : Simulation} (hcontrols : sim.controls = Controls.standard)
    (payload : String) :
    (sim.feed (.message payload)).state.stage.paused =
      if Input.code? (.message payload) = some 'p' then !sim.stage.paused
      else sim.stage.paused := by
  rw [feed_message, hcontrols]
  cases hmessage : Message.ofPayload? payload with
  | none =>
    have hcode : Input.code? (.message payload) ≠ some 'p' := by simp [Input.code?, hmessage]
    rw [if_neg hcode]
  | some message =>
    have hcode : Input.code? (.message payload) = some 'p' ↔ message = .control 'p' := by
      cases message <;> simp [Input.code?, hmessage]
    show (sim.stage.dispatch sim.build Controls.standard message).state.paused = _
    rw [Stage.paused_dispatch]
    simp only [hcode]

theorem paused_tick (sim : Simulation) (seconds : Float32) :
    (sim.tick seconds).state.stage.paused = sim.stage.paused := by
  show (sim.advance seconds).settle.stage.paused = _
  unfold Simulation.advance
  split <;> rfl

/-! ## Section 2: Running alongside -/

/-- **Two shows that run alongside each other.** -/
structure Alongside (l r : Simulation) : Prop where
  inTime : ∃ rig rig', InTime rig rig' l r
  inStep : l.mission.InStep
  paused : l.stage.paused = r.stage.paused

namespace Alongside
variable {l r : Simulation}

theorem start (setup : Setup) : Alongside (Simulation.start setup) (Simulation.start setup) := by
  obtain ⟨rig, hregular, inStep⟩ := regular_after setup []
  exact ⟨⟨rig, rig, .refl hregular⟩, inStep, rfl⟩

/-- A message that is not about the pause may be left out. -/
theorem aside (h : Alongside l r) {payload : String}
    (hcode : Input.code? (.message payload) ≠ some 'p') :
    Alongside (l.feed (.message payload)).state r := by
  obtain ⟨rig, rig', hinTime⟩ := h.inTime
  obtain ⟨_, _, hmission⟩ := hinTime.left.message payload
  refine ⟨⟨rig, rig', hinTime.message payload⟩, hmission ▸ h.inStep, ?_⟩
  rw [paused_message hinTime.left.controls, if_neg hcode]
  exact h.paused

/-- **The same input on both sides.** -/
theorem feed (h : Alongside l r) (input : Input) :
    Alongside (l.feed input).state (r.feed input).state := by
  obtain ⟨rig, rig', hinTime⟩ := h.inTime
  cases input with
  | message payload =>
    obtain ⟨_, _, hmission⟩ := hinTime.left.message payload
    -- First the left show takes the message, and then the right one.
    have hboth := ((hinTime.message payload).symm.message payload).symm
    refine ⟨⟨rig, rig', hboth⟩, hmission ▸ h.inStep, ?_⟩
    rw [paused_message hinTime.left.controls, paused_message hinTime.right.controls, h.paused]
  | tick seconds =>
    refine ⟨hinTime.tick h.inStep h.paused seconds, ?_, ?_⟩
    · show (l.tick seconds).state.mission.InStep
      rw [mission_tick]
      exact h.inStep.take _ _
    · show (l.tick seconds).state.stage.paused = (r.tick seconds).state.stage.paused
      rw [paused_tick, paused_tick]
      exact h.paused

/-- **Ticks and pauses are enough.**  The right show takes nothing else. -/
theorem after_timing (h : Alongside l r) (history : History) :
    Alongside (l.after history) (r.after history.timing) := by
  induction history generalizing l r with
  | nil => exact h
  | cons input rest ih =>
    cases input with
    | message payload =>
      by_cases hcode : Input.code? (.message payload) = some 'p'
      · have hkept : History.timing (.message payload :: rest) =
            .message payload :: History.timing rest :=
          List.filter_cons_of_pos (by simpa using hcode)
        rw [hkept]
        exact ih (h.feed (.message payload))
      · have hdropped : History.timing (.message payload :: rest) = History.timing rest :=
          List.filter_cons_of_neg (by simpa using hcode)
        rw [hdropped]
        exact ih (h.aside hcode)
    | tick seconds => exact ih (h.feed (.tick seconds))

end Alongside

/-! ## Section 3: What is to be seen of the orbits -/

/-- What is to be seen of an object: its pose, and its place in the world. -/
def sight (sim : Simulation) (id : ObjectId) : Option Pose × Vec3 :=
  (sim.scene.poseOf? id, (sim.worldPosition id).1)

/-- **Two shows in which the orbits look the same.** -/
structure SameOrbits (l r : Simulation) : Prop where
  phase : l.mission.phase = r.mission.phase
  tickets : l.mission.watch.tickets = r.mission.watch.tickets
  armed : l.mission.watch.armed = r.mission.watch.armed
  paused : l.stage.paused = r.stage.paused
  /-- All parts of the system but the camera are there, and look the same. -/
  parts : ∀ part ∈ Solar.blueprint.parts, part.name ≠ Solar.cameraPart →
    l.scene.has (Solar.object part.name) = true ∧ r.scene.has (Solar.object part.name) = true ∧
    l.sight (Solar.object part.name) = r.sight (Solar.object part.name)
  /-- The frames of the transfer are there on both sides or on neither, and look
      the same, even if their ids differ. -/
  frames : ∀ name ∈ [transferCenter, transferOrbit, transferArm],
    (l.frames.get? name).map l.sight = (r.frames.get? name).map r.sight

namespace SameOrbits
variable {l r q : Simulation}

theorem symm (h : SameOrbits l r) : SameOrbits r l := by
  refine ⟨h.phase.symm, h.tickets.symm, h.armed.symm, h.paused.symm, ?_, ?_⟩
  · intro part hpart hname
    obtain ⟨hl, hr, hsight⟩ := h.parts part hpart hname
    exact ⟨hr, hl, hsight.symm⟩
  · exact fun name hname => (h.frames name hname).symm

theorem trans (h : SameOrbits l r) (h' : SameOrbits r q) : SameOrbits l q := by
  refine ⟨h.phase.trans h'.phase, h.tickets.trans h'.tickets, h.armed.trans h'.armed,
    h.paused.trans h'.paused, ?_, ?_⟩
  · intro part hpart hname
    obtain ⟨hl, _, hsight⟩ := h.parts part hpart hname
    obtain ⟨_, hq, hsight'⟩ := h'.parts part hpart hname
    exact ⟨hl, hq, hsight.trans hsight'⟩
  · exact fun name hname => (h.frames name hname).trans (h'.frames name hname)

end SameOrbits

/-- Matching objects look the same. -/
theorem InTime.sight {rig rig' : Option Nat} {l r : Simulation} (h : InTime rig rig' l r)
    {a b : ObjectId} (hab : Matches rig rig' a b) : l.sight a = r.sight b := by
  have hl : (l.worldPosition a).1 = l.scene.freshPosition a :=
    Space.worldPosition_fst h.left.steady.sound a
  have hr : (r.worldPosition b).1 = r.scene.freshPosition b :=
    Space.worldPosition_fst h.right.steady.sound b
  unfold Simulation.sight
  rw [hl, hr, h.pose hab, h.freshPosition hab]

theorem InTime.frames {rig rig' : Option Nat} {l r : Simulation} (h : InTime rig rig' l r)
    {name : String} (hname : name ∈ [transferCenter, transferOrbit, transferArm]) :
    (l.frames.get? name).map l.sight = (r.frames.get? name).map r.sight := by
  have hl := h.left.registered
  have hr := h.right.registered
  simp only [List.mem_cons, List.not_mem_nil, or_false] at hname
  rcases h.rigs with ⟨hnone, hnone'⟩ | ⟨n, n', hn, hn'⟩
  · -- None of the names stands for anything yet.
    rcases hname with rfl | rfl | rfl
    · rw [hl.center, hr.center, hnone, hnone']
      rfl
    · rw [hl.orbit, hr.orbit, hnone, hnone']
      rfl
    · rw [hl.arm, hr.arm, hnone, hnone']
      rfl
  · subst hn hn'
    rcases hname with rfl | rfl | rfl
    · rw [hl.center, hr.center]
      exact congrArg some (h.sight (.center n n'))
    · rw [hl.orbit, hr.orbit]
      exact congrArg some (h.sight (.orbit n n'))
    · rw [hl.arm, hr.arm]
      exact congrArg some (h.sight (.arm n n'))

theorem Alongside.sameOrbits {l r : Simulation} (h : Alongside l r) : SameOrbits l r := by
  obtain ⟨rig, rig', hinTime⟩ := h.inTime
  refine ⟨hinTime.phase, congrArg Watch.tickets hinTime.watch, congrArg Watch.armed hinTime.watch,
    h.paused, ?_, fun name hname => hinTime.frames hname⟩
  intro part hpart hname
  have hobject : Orrery none (Solar.object part.name) := Solar.orrery_object hpart hname
  exact ⟨hinTime.left.steady.known hobject.of_none, hinTime.right.steady.known hobject.of_none,
    hinTime.sight (.part hobject)⟩

/-- **Only time and pausing move the orbits.**  Histories with the same ticks and
    pauses lead to the same orbits, whatever else was said between them. -/
theorem sameOrbits_of_timing (setup : Setup) {h h' : History} (htiming : h.timing = h'.timing) :
    SameOrbits ((start setup).after h) ((start setup).after h') := by
  have hleft := ((Alongside.start setup).after_timing h).sameOrbits
  have hright := ((Alongside.start setup).after_timing h').sameOrbits
  rw [htiming] at hleft
  exact hleft.trans hright.symm

/-- Moving the camera, or letting it ride along with the vehicle. -/
theorem sameOrbits_views :
    History.timing [.message "z", .tick 1, .message "p"] =
      History.timing [.tick 1, .message "f", .message "p"] ∧
    SameOrbits ((start {}).after [.message "z", .tick 1, .message "p"])
      ((start {}).after [.tick 1, .message "f", .message "p"]) :=
  ⟨rfl, sameOrbits_of_timing {} rfl⟩

end Simulation

end Planetarium
