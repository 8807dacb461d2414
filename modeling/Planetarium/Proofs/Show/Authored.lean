import Planetarium.Proofs.Catalog.Deeds
import Planetarium.Proofs.Show.Outsiders
import Planetarium.Proofs.Show.Refusals

/-! # Authored content

    Controllers share the scene with the system and the camera.  What they have
    built in it is nevertheless the replay of the instructions that were carried
    out, and of nothing else.

    * `Simulation.deeds`: the instructions that were carried out in a history.
    * `Simulation.Follows`: a simulation holds what some deeds tell, and the
      objects that they created stand outside.
    * `Follows.feed`: an input adds its deed, or it disturbs nothing.
    * `authored_content_after`: the state after any history. -/

namespace Planetarium

theorem Stage.Dressed.orrery {st : Stage} (h : st.Dressed (Orrery none)) (rig : Option Nat) :
    st.Dressed (Orrery rig) := ⟨h.skybox.of_none, h.sun.of_none⟩

namespace Simulation

/-! ## Section 1: Deeds -/

/-- The deed that a message makes. -/
def deed? (sim : Simulation) (payload : String) : Option Deed :=
  (sim.accepted? payload).map fun instruction =>
    ⟨instruction, sim.stage.workshop.created? instruction⟩

/-- **The deeds of a history,** in order. -/
def deeds (sim : Simulation) : History → List Deed
  | [] => []
  | .message payload :: rest =>
    (sim.deed? payload).toList ++ (sim.feed (.message payload)).state.deeds rest
  | .tick seconds :: rest => (sim.tick seconds).state.deeds rest

/-- The deeds are the instructions that were carried out. -/
theorem map_instruction_deeds (sim : Simulation) (h : History) :
    (sim.deeds h).map (·.instruction) = sim.accepted h := by
  induction h generalizing sim with
  | nil => rfl
  | cons input h ih =>
    cases input with
    | message payload =>
      have hfirst : (sim.deed? payload).toList.map (·.instruction) =
          (sim.accepted? payload).toList := by
        unfold deed?
        cases sim.accepted? payload <;> rfl
      unfold deeds accepted
      rw [List.map_append, hfirst, ih]
    | tick seconds => exact ih _

/-- What an authoring message is answered, and what it leaves behind. -/
theorem handle_authoring (sim : Simulation) {payload : String} {verb : Verb}
    {tokens : List String} (h : Message.ofPayload? payload = some (.authoring verb tokens)) :
    ((sim.handle payload).answer, (sim.handle payload).state) =
      match sim.stage.author verb tokens with
      | .ok (_, st) => (.authored verb, sim.withStage st)
      | .error cause => (.rejected cause, sim) := by
  unfold handle
  simp only [h, Stage.dispatch]
  cases sim.stage.author verb tokens <;> rfl

/-- **What a message does:** it carries an instruction out, or the effect of a
    control code, or nothing. -/
theorem message_cases (sim : Simulation) (payload : String) :
    (∃ instruction entries w, sim.accepted? payload = some instruction ∧
      sim.stage.workshop.apply instruction = .ok (entries, w) ∧
      (sim.feed (.message payload)).state = sim.withStage (sim.stage.withWorkshop w)) ∨
    (sim.accepted? payload = none ∧
      ∃ code effect, sim.controls.get? code = some effect ∧
        (sim.feed (.message payload)).state =
          sim.withStage (sim.stage.apply sim.build effect).state) ∨
    (sim.accepted? payload = none ∧ (sim.feed (.message payload)).state = sim) := by
  cases hmessage : Message.ofPayload? payload with
  | none =>
    refine .inr (.inr ⟨by simp [accepted?, hmessage], ?_⟩)
    rw [feed_message, hmessage]
  | some message =>
    cases message with
    | control code =>
      have hnone : sim.accepted? payload = none := by simp [accepted?, hmessage]
      rw [feed_message, hmessage]
      cases hcode : sim.controls.get? code with
      | none =>
        refine .inr (.inr ⟨hnone, ?_⟩)
        simp only [Stage.dispatch, hcode]
        rfl
      | some effect =>
        refine .inr (.inl ⟨hnone, code, effect, hcode, ?_⟩)
        simp only [Stage.dispatch, hcode]
    | authoring verb tokens =>
      have hhandled := sim.handle_authoring hmessage
      cases hauthor : sim.stage.author verb tokens with
      | error cause =>
        rw [hauthor] at hhandled
        obtain ⟨hanswer, hstate⟩ := Prod.mk.inj hhandled
        exact .inr (.inr ⟨by simp [accepted?, hmessage, hanswer], hstate⟩)
      | ok result =>
        rw [hauthor] at hhandled
        obtain ⟨hanswer, hstate⟩ := Prod.mk.inj hhandled
        obtain ⟨instruction, w, hparse, happly, hst⟩ := Stage.author_eq_ok hauthor
        refine .inl ⟨instruction, result.1, w, ?_, happly, hst ▸ hstate⟩
        simp [accepted?, hmessage, hanswer, hparse, Except.toOption]

/-- The messages with deeds are those that are answered so. -/
theorem isSome_accepted?_iff (sim : Simulation) (payload : String) :
    (sim.accepted? payload).isSome = true ↔
      ∃ verb, (sim.handle payload).answer = .authored verb := by
  have hhandled := sim.handled payload
  unfold accepted?
  generalize sim.handle payload = reply at hhandled ⊢
  cases hhandled with
  | empty h => simp [h]
  | unknown h => simp [h]
  | controlled h _ hanswer => simp [h, hanswer]
  | rejected h => simp [h]
  | authored h hauthor hanswer =>
    -- What has been carried out has been read before.
    obtain ⟨instruction, _, hparse, _⟩ := Stage.author_eq_ok hauthor
    simp [h, hanswer, hparse, Except.toOption]

/-! ## Section 2: Following deeds -/

/-- **A simulation follows some deeds:** it holds what they tell, and the objects
    that they created stand outside of the orrery and the camera. -/
structure Follows (rig : Option Nat) (past : List Deed) (sim : Simulation) : Prop where
  regular : sim.Regular rig
  inStep : sim.mission.InStep
  dressed : sim.stage.Dressed (Orrery none)
  replays : sim.stage.workshop.Replays past
  outside : ∀ d ∈ past, ∀ x, d.object = some x → sim.stage.Outside (Orrery rig) x
  size : sim.scene.size =
    Solar.orrerySize + 2 + past.countP (·.instruction.spec?.isSome) + rigSize rig

theorem size_settle (sim : Simulation) : sim.settle.scene.size = sim.scene.size :=
  Scene.size_move _ _ _

theorem follows_start (setup : Setup) : (start setup).Follows none [] := by
  have hdressed : (start setup).stage.Dressed (Orrery none) := by
    have hsky : (Solar.handles {}).skybox = ⟨0, 0⟩ := by decide
    have hsun : (Solar.handles {}).sunGraphic = ⟨0, 3⟩ := by decide
    constructor
    · show Orrery none (Solar.handles {}).skybox
      rw [hsky]
      exact orrery_part (by decide)
    · show Orrery none (Solar.handles {}).sunGraphic
      rw [hsun]
      exact orrery_part (by decide)
  have hsize : (start setup).scene.size = Solar.orrerySize + 2 := by
    rw [start_eq, size_settle]
    exact size_openingSpace
  refine ⟨regular_start setup, ?_, hdressed, ?_, by simp, by simpa [rigSize] using hsize⟩
  · rw [start_eq]
    exact Mission.inStep_new Solar.bodies setup.plan
  · constructor <;> simp [start, new, Stage.workshop, Directory.get?, Deed.point?, Deed.node?]

namespace Follows
variable {rig rig' : Option Nat} {past : List Deed} {sim sim' : Simulation}

/-- A step that disturbs no outsider adds no deed. -/
theorem of_undisturbed (h : sim.Follows rig past) (regular : sim'.Regular rig')
    (inStep : sim'.mission.InStep) (undisturbed : Undisturbed rig rig' sim sim') :
    sim'.Follows rig' past := by
  refine ⟨regular, inStep, ⟨?_, ?_⟩, ?_, ?_, ?_⟩
  · rw [undisturbed.skybox]
    exact h.dressed.skybox
  · rw [undisturbed.sun]
    exact h.dressed.sun
  · refine h.replays.of_leaves undisturbed.catalog ?_
    intro d hd x hx
    exact undisturbed.leaves x (h.outside d hd x hx)
  · intro d hd x hx
    exact undisturbed.outside (h.outside d hd x hx)
  · have := h.size
    have := undisturbed.size
    omega

/-- An instruction that is carried out adds its deed.  The object that it creates
    is new, so it stands outside. -/
theorem instruct (h : sim.Follows rig past) {payload : String} {instruction : Instruction}
    {entries : List Entry} {w : Workshop}
    (happly : sim.stage.workshop.apply instruction = .ok (entries, w))
    (hstate : (sim.feed (.message payload)).state =
      sim.withStage (sim.stage.withWorkshop w)) :
    (sim.feed (.message payload)).state.Follows rig
      (⟨instruction, sim.stage.workshop.created? instruction⟩ :: past) := by
  obtain ⟨hregular, hspares, hmission⟩ := h.regular.message payload
  rw [hstate] at hregular hspares hmission ⊢
  have hreplays := h.replays.apply happly
  have hnew := h.regular.steady.ne_idAt_size
  refine ⟨hregular, hmission ▸ h.inStep, ⟨h.dressed.skybox, h.dressed.sun⟩, hreplays, ?_, ?_⟩
  · intro d hd x hx
    have hknown := hreplays.known hd hx
    rcases List.mem_cons.mp hd with rfl | hd
    · obtain rfl := Workshop.eq_of_created? hx
      exact ⟨hknown, hnew.1, hnew.2.1, hnew.2.2⟩
    · have hold := h.outside d hd x hx
      exact ⟨hknown, hold.apart, hold.ne_node, hold.ne_mount⟩
  · have hsize : w.scene.size = sim.scene.size + _ := Workshop.size_apply happly
    have := h.size
    show w.scene.size = _
    rw [List.countP_cons]
    dsimp only
    omega

/-- **Every input adds its deed, or it adds nothing and disturbs nothing.** -/
theorem feed (h : sim.Follows rig past) (input : Input) :
    ∃ rig', (sim.feed input).state.Follows rig'
      ((sim.deeds [input]).reverse ++ past) := by
  cases input with
  | message payload =>
    obtain ⟨hregular, _, hmission⟩ := h.regular.message payload
    have inStep := h.inStep
    rw [← hmission] at inStep
    show ∃ rig', (sim.feed (.message payload)).state.Follows rig'
      (((sim.deed? payload).toList ++ []).reverse ++ past)
    unfold deed?
    rcases sim.message_cases payload with
      ⟨instruction, entries, w, haccepted, happly, hstate⟩ | ⟨hnone, code, effect, hcode, hstate⟩ |
      ⟨hnone, hstate⟩
    · rw [haccepted]
      exact ⟨rig, h.instruct happly hstate⟩
    · rw [hnone]
      have hkept := h.regular.undisturbed_apply (h.dressed.orrery rig) hcode
      rw [← hstate] at hkept
      exact ⟨rig, h.of_undisturbed hregular inStep hkept⟩
    · rw [hnone, hstate]
      exact ⟨rig, h⟩
  | tick seconds =>
    obtain ⟨rig', hregular, hundisturbed⟩ := h.regular.undisturbed_tick h.inStep seconds
    obtain ⟨_, _, inStep⟩ := h.regular.feed h.inStep (.tick seconds)
    exact ⟨rig', h.of_undisturbed hregular inStep hundisturbed⟩

theorem after (h : sim.Follows rig past) (history : History) :
    ∃ rig', (sim.after history).Follows rig' ((sim.deeds history).reverse ++ past) := by
  -- The deeds of the first input are older than those of the rest.
  induction history generalizing sim rig past with
  | nil => exact ⟨rig, h⟩
  | cons input history ih =>
    obtain ⟨rig', hnext⟩ := h.feed input
    obtain ⟨rig'', hrest⟩ := ih hnext
    have hdeeds : sim.deeds (input :: history) =
        sim.deeds [input] ++ (sim.feed input).state.deeds history := by
      cases input with
      | message payload =>
        show (sim.deed? payload).toList ++ _ = ((sim.deed? payload).toList ++ []) ++ _
        rw [List.append_nil]
      | tick seconds => rfl
    refine ⟨rig'', ?_⟩
    rw [hdeeds, List.reverse_append, List.append_assoc]
    exact hrest

end Follows

/-- **Every state of a show follows its deeds.** -/
theorem follows_after (setup : Setup) (h : History) :
    ∃ rig, ((start setup).after h).Follows rig ((start setup).deeds h).reverse := by
  obtain ⟨rig, hfollows⟩ := (follows_start setup).after h
  rw [List.append_nil] at hfollows
  exact ⟨rig, hfollows⟩

/-! ## Section 3: The content of a show -/

/-- **What has been authored is the replay of some deeds,** which are listed with
    the latest one first. -/
structure AuthoredContent (setup : Setup) (past : List Deed) (sim : Simulation) : Prop where
  /-- A point is where it was last said to be. -/
  point : ∀ name, sim.stage.catalog.point name =
    match Deed.point? past name with
    | some position => .ok position
    | none => .error (.point name)
  /-- A name stands for the object that was last created under it. -/
  node : ∀ name, sim.stage.catalog.node name =
    match Deed.node? past name with
    | some x => .ok x
    | none => .error (.node name)
  /-- Every object that was created is there as it was asked for, at the place where
      it was put last. -/
  built : ∀ d ∈ past, ∀ spec, d.instruction.spec? = some spec →
    ∃ x position, d.object = some x ∧ Deed.place? past x = some position ∧
      sim.scene.portrait? x = some (spec.portraitAt position)
  /-- Each of them is another object. -/
  distinct : (past.filterMap (·.object)).Nodup
  /-- Nothing else has come to the scene but the rig of a launch. -/
  size : sim.scene.size = (start setup).scene.size +
    past.countP (·.instruction.spec?.isSome) +
    if sim.mission.phase = .attachedOrigin then 0 else 3
  /-- Deeds are made by the messages that are answered so. -/
  authored : ∀ payload, (sim.accepted? payload).isSome = true ↔
    ∃ verb, (sim.handle payload).answer = .authored verb

theorem Regular.rigSize_eq {rig : Option Nat} {sim : Simulation} (h : sim.Regular rig) :
    rigSize rig = if sim.mission.phase = .attachedOrigin then 0 else 3 := by
  split
  · next horigin =>
    rw [h.rig_eq_none horigin]
    rfl
  · next hphase =>
    obtain ⟨n, rfl⟩ := h.attached.exists_rig hphase
    rfl

/-- **The authored content of a show is the replay of its deeds,** whatever
    messages and ticks it has taken. -/
theorem authored_content_after (setup : Setup) (h : History) :
    ((start setup).deeds h).map (·.instruction) = (start setup).accepted h ∧
    ((start setup).after h).AuthoredContent setup ((start setup).deeds h).reverse := by
  refine ⟨map_instruction_deeds _ h, ?_⟩
  obtain ⟨rig, hfollows⟩ := follows_after setup h
  have hreplays := hfollows.replays
  refine ⟨?_, ?_, hreplays.built, hreplays.distinct, ?_, isSome_accepted?_iff _⟩
  · intro name
    rw [← hreplays.points name]
    rfl
  · intro name
    rw [← hreplays.nodes name]
    rfl
  · rw [hfollows.size, (follows_start setup).size, hfollows.regular.rigSize_eq]
    simp [rigSize]

end Simulation

end Planetarium
