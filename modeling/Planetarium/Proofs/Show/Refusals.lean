import Planetarium.Proofs.Catalog.Procedures
import Planetarium.Proofs.Message.Kinds
import Planetarium.Proofs.Show.Steady
import Planetarium.Show.Simulation

/-! # Messages that change nothing

    A message that is turned down or ignored leaves the whole simulation as it
    was, in whatever state that is.

    * `Catalog.Refuses`, `Controls.Ignores`: which messages are turned down, and
      why, and which are ignored.
    * `Simulation.Handled`: all that can become of a message.
    * `Simulation.answers`: the two answers are given to exactly these messages,
      and nothing changes. -/

namespace Planetarium

/-! ## Section 1: Messages that are turned down or ignored -/

/-- **The messages that are turned down,** and why: the tokens after the letters
    of a verb are at fault, or the instruction that they make misses a name. -/
inductive Catalog.Refuses (c : Catalog) (payload : String) : Rejection → Prop where
  | parse {verb : Verb} {rest : List Char} {fault : ParseError}
      (htext : Message.text payload = verb.letters.toList ++ rest)
      (h : Instruction.parse verb ((Text.words rest).map String.ofList) = .error fault) :
      c.Refuses payload (.parse fault)
  | notFound {verb : Verb} {rest : List Char} {instruction : Instruction} {missing : NotFound}
      (htext : Message.text payload = verb.letters.toList ++ rest)
      (hparse : Instruction.parse verb ((Text.words rest).map String.ofList) = .ok instruction)
      (h : c.Misses instruction missing) : c.Refuses payload (.notFound missing)

/-- **The messages that are ignored:** those without a text, and those that start
    with no verb and whose first character is no code of the table. -/
def Controls.Ignores (controls : Controls) (payload : String) : Prop :=
  Message.text payload = [] ∨
    ¬ Message.StartsWithVerb (Message.text payload) ∧
    ∃ code, (Message.text payload).head? = some code ∧ controls.get? code = none

namespace Stage
variable (st : Stage)

/-- Tokens at fault are reported before any name is looked for. -/
theorem author_eq_error_iff {verb : Verb} {tokens : List String} {cause : Rejection} :
    st.author verb tokens = .error cause ↔
      (∃ fault, Instruction.parse verb tokens = .error fault ∧ cause = .parse fault) ∨
      ∃ instruction missing, Instruction.parse verb tokens = .ok instruction ∧
        st.catalog.Misses instruction missing ∧ cause = .notFound missing := by
  cases hparse : Instruction.parse verb tokens with
  | error fault =>
    rw [st.author_of_parse_error hparse]
    constructor
    · intro h
      exact .inl ⟨fault, rfl, (Except.error.inj h).symm⟩
    · rintro (⟨_, hfault, rfl⟩ | ⟨_, _, hok, _⟩)
      · rw [Except.error.inj hfault]
      · cases hok
  | ok instruction =>
    have happly : ∀ missing, st.workshop.apply instruction = .error missing ↔
        st.catalog.Misses instruction missing := fun _ => st.workshop.apply_eq_error_iff
    rw [st.author_of_parse_ok hparse]
    constructor
    · intro h
      split at h
      · cases h
      · next missing hmissing =>
        exact .inr ⟨instruction, missing, rfl, (happly missing).mp hmissing,
          (Except.error.inj h).symm⟩
    · rintro (⟨_, hfault, _⟩ | ⟨_, missing, hok, hmisses, rfl⟩)
      · cases hfault
      · obtain rfl := Except.ok.inj hok
        rw [(happly missing).mpr hmisses]

end Stage

/-- A message is turned down exactly if it is an authoring message that cannot be
    carried out. -/
theorem Stage.refuses_iff (st : Stage) (payload : String) (cause : Rejection) :
    st.catalog.Refuses payload cause ↔
      ∃ verb tokens, Message.ofPayload? payload = some (.authoring verb tokens) ∧
        st.author verb tokens = .error cause := by
  constructor
  · intro h
    cases h with
    | @parse verb rest fault htext h =>
      refine ⟨verb, _, Message.ofPayload?_eq_authoring_iff.mpr ⟨rest, htext, rfl⟩, ?_⟩
      exact (st.author_eq_error_iff).mpr (.inl ⟨fault, h, rfl⟩)
    | @notFound verb rest instruction missing htext hparse h =>
      refine ⟨verb, _, Message.ofPayload?_eq_authoring_iff.mpr ⟨rest, htext, rfl⟩, ?_⟩
      exact (st.author_eq_error_iff).mpr (.inr ⟨instruction, missing, hparse, h, rfl⟩)
  · rintro ⟨verb, tokens, hmessage, hauthor⟩
    obtain ⟨rest, htext, rfl⟩ := Message.ofPayload?_eq_authoring_iff.mp hmessage
    rcases (st.author_eq_error_iff).mp hauthor with
      ⟨fault, hparse, rfl⟩ | ⟨instruction, missing, hparse, hmisses, rfl⟩
    · exact .parse htext hparse
    · exact .notFound htext hparse hmisses

/-- A message is ignored exactly if it is none, or a control code that the table
    does not have. -/
theorem Controls.ignores_iff (controls : Controls) (payload : String) :
    controls.Ignores payload ↔
      Message.ofPayload? payload = none ∨
      ∃ code, Message.ofPayload? payload = some (.control code) ∧ controls.get? code = none := by
  unfold Ignores
  rw [Message.ofPayload?_eq_none_iff]
  simp only [Message.ofPayload?_eq_control_iff, and_assoc, exists_and_left]

namespace Simulation
variable (sim : Simulation)

/-! ## Section 2: Answers -/

/-- **All that can become of a message.**  Only one that is carried out changes
    anything. -/
inductive Handled (payload : String) : Reply Simulation → Prop where
  | empty (h : Message.ofPayload? payload = none) :
      Handled payload { state := sim, answer := .ignored }
  | unknown {code : Char} (h : Message.ofPayload? payload = some (.control code))
      (hcode : sim.controls.get? code = none) :
      Handled payload { state := sim, answer := .ignored }
  | controlled {code : Char} {effect : Effect} {reply : Reply Simulation}
      (h : Message.ofPayload? payload = some (.control code))
      (hcode : sim.controls.get? code = some effect) (hanswer : reply.answer = .controlled code) :
      Handled payload reply
  | authored {verb : Verb} {tokens : List String} {result : List Entry × Stage}
      {reply : Reply Simulation}
      (h : Message.ofPayload? payload = some (.authoring verb tokens))
      (hauthor : sim.stage.author verb tokens = .ok result)
      (hanswer : reply.answer = .authored verb) : Handled payload reply
  | rejected {verb : Verb} {tokens : List String} {cause : Rejection}
      (h : Message.ofPayload? payload = some (.authoring verb tokens))
      (hauthor : sim.stage.author verb tokens = .error cause) :
      Handled payload
        { state := sim, entries := [.rejected payload cause], answer := .rejected cause }

theorem handled (payload : String) : sim.Handled payload (sim.handle payload) := by
  unfold handle
  split
  · next h => exact .empty h
  · next message h =>
    cases message with
    | control code =>
      cases hcode : sim.controls.get? code with
      | some effect =>
        refine .controlled h hcode ?_
        simp [Stage.dispatch, hcode]
      | none =>
        simp only [Stage.dispatch, hcode]
        exact .unknown h hcode
    | authoring verb tokens =>
      cases hauthor : sim.stage.author verb tokens with
      | ok result =>
        refine .authored h hauthor ?_
        simp [Stage.dispatch, hauthor]
      | error cause =>
        simp only [Stage.dispatch, hauthor]
        exact .rejected h hauthor

namespace Handled
variable {sim : Simulation} {payload : String} {reply : Reply Simulation}

theorem rejected_iff (h : sim.Handled payload reply) (cause : Rejection) :
    reply.answer = .rejected cause ↔
      ∃ verb tokens, Message.ofPayload? payload = some (.authoring verb tokens) ∧
        sim.stage.author verb tokens = .error cause := by
  cases h with
  | empty h | unknown h =>
    rw [h]
    exact iff_of_false (fun hrejected => by cases hrejected) (by simp)
  | controlled h _ hanswer =>
    rw [hanswer, h]
    exact iff_of_false (fun hrejected => by cases hrejected) (by simp)
  | authored h hauthor hanswer =>
    rw [hanswer]
    refine iff_of_false (fun hrejected => by cases hrejected) ?_
    rintro ⟨_, _, hmessage, hfails⟩
    rw [h] at hmessage
    cases hmessage
    rw [hauthor] at hfails
    cases hfails
  | @rejected verb tokens cause' h hauthor =>
    constructor
    · intro hanswer
      cases hanswer
      exact ⟨verb, tokens, h, hauthor⟩
    · rintro ⟨_, _, hmessage, hfails⟩
      rw [h] at hmessage
      cases hmessage
      rw [hauthor] at hfails
      cases hfails
      rfl

theorem ignored_iff (h : sim.Handled payload reply) :
    reply.answer = .ignored ↔
      Message.ofPayload? payload = none ∨
      ∃ code, Message.ofPayload? payload = some (.control code) ∧
        sim.controls.get? code = none := by
  cases h with
  | empty h => exact iff_of_true rfl (.inl h)
  | @unknown code h hcode => exact iff_of_true rfl (.inr ⟨code, h, hcode⟩)
  | controlled h hcode hanswer =>
    rw [hanswer, h]
    refine iff_of_false (fun hignored => by cases hignored) ?_
    rintro (hnone | ⟨_, hcontrol, hnone⟩)
    · cases hnone
    · cases hcontrol
      rw [hcode] at hnone
      cases hnone
  | authored h _ hanswer =>
    rw [hanswer, h]
    exact iff_of_false (fun hignored => by cases hignored) (by simp)
  | rejected h _ =>
    rw [h]
    exact iff_of_false (fun hignored => by cases hignored) (by simp)

/-- What is turned down or ignored changes nothing and is not stopped. -/
theorem unchanged (h : sim.Handled payload reply)
    (hanswer : (∃ cause, reply.answer = .rejected cause) ∨ reply.answer = .ignored) :
    reply.state = sim ∧ reply.violation = none := by
  cases h with
  | empty | unknown | rejected => exact ⟨rfl, rfl⟩
  | controlled _ _ hcontrolled => simp [hcontrolled] at hanswer
  | authored _ _ hauthored => simp [hauthored] at hanswer

end Handled

/-- **How the messages that change nothing are answered.** -/
structure Answers (payload : String) : Prop where
  /-- A message is turned down, for the cause that is given, exactly if it has to be. -/
  rejected_iff : ∀ cause,
    (sim.handle payload).answer = .rejected cause ↔ sim.stage.catalog.Refuses payload cause
  ignored_iff : (sim.handle payload).answer = .ignored ↔ sim.controls.Ignores payload
  /-- Then nothing has changed, and nothing has stopped the message. -/
  unchanged :
    (∃ cause, (sim.handle payload).answer = .rejected cause) ∨
      (sim.handle payload).answer = .ignored →
    (sim.handle payload).state = sim ∧ (sim.handle payload).violation = none
  /-- An instruction that fails has not changed the workshop in place either. -/
  in_place : ∀ instruction missing w,
    (Workshop.procedure instruction).run sim.stage.workshop = .error missing w →
    w = sim.stage.workshop

/-- **Messages that are turned down or ignored change nothing,** in whatever state
    a simulation is. -/
theorem answers (payload : String) : sim.Answers payload := by
  have hhandled := sim.handled payload
  constructor
  · intro cause
    rw [sim.stage.refuses_iff]
    exact hhandled.rejected_iff cause
  · rw [sim.controls.ignores_iff]
    exact hhandled.ignored_iff
  · exact hhandled.unchanged
  · intro instruction missing w hfails
    rw [Workshop.run_procedure] at hfails
    split at hfails
    · cases hfails
    · cases hfails
      rfl

end Simulation

end Planetarium
