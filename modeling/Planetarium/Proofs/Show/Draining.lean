import Planetarium.Proofs.Show.Contracts
import Planetarium.Proofs.Show.Refusals
import Planetarium.Show.Queue

/-! # What a draining comes to

    A queue holds messages among the comings and goings of controllers.  For the
    simulation only the messages count, and they count one after another, as if
    they had come without a queue.

    * `Event.payloads`, `Event.inputs`: the messages among some events.
    * `Unstopped`: no input of a history breaks a contract on the way.  This is
      so for all histories of a show (`unstopped_after`).
    * `Unstopped.drain`, `Unstopped.play`: what a draining comes to, and what a
      play does.
    * `drain_folds`: draining is a fold of the messages. -/

namespace Planetarium

/-! ## Section 1: Events as inputs -/

/-- The payload of an event that brings a message. -/
def Event.payload? : Event → Option String
  | .message _ payload => some payload
  | .connected _ => none
  | .disconnected _ => none

/-- **The payloads of the messages among some events,** in order.  Nothing is left of
    who has sent them. -/
def Event.payloads (es : List Event) : List String := es.filterMap Event.payload?

/-- What comes of some events. -/
def Event.inputs (es : List Event) : History := (Event.payloads es).map .message

/-- The turn that finds some events in an open queue. -/
def Turn.ofBatch (batch : List Event × Float32) : Turn where
  queue := { events := batch.1 }
  seconds := batch.2

/-- The turn that finds some events in a closed queue. -/
def Turn.closing (events : List Event) (seconds : Float32) : Turn where
  queue := { events, closed := true }
  seconds := seconds

/-- What comes of the events of a turn that goes on: their messages, and then a tick. -/
def Turn.inputsOfBatch (batch : List Event × Float32) : History :=
  Event.inputs batch.1 ++ [.tick batch.2]

namespace Simulation

theorem after_append (sim : Simulation) (h h' : History) :
    sim.after (h ++ h') = (sim.after h).after h' := List.foldl_append

/-- **No input of a history is stopped.** -/
def Unstopped (sim : Simulation) : History → Prop
  | [] => True
  | input :: h => (sim.feed input).violation = none ∧ (sim.feed input).state.Unstopped h

theorem unstopped_append {sim : Simulation} {h h' : History} :
    sim.Unstopped (h ++ h') ↔ sim.Unstopped h ∧ (sim.after h).Unstopped h' := by
  induction h generalizing sim with
  | nil => exact (and_iff_right trivial).symm
  | cons input h ih =>
    show _ ∧ (sim.feed input).state.Unstopped (h ++ h') ↔ _
    rw [ih, ← and_assoc]
    rfl

/-- Inputs to a regular simulation that serves its controls are never stopped. -/
theorem Regular.unstopped {rig : Option Nat} {sim : Simulation} (h : sim.Regular rig)
    (inStep : sim.mission.InStep) (serves : sim.stage.Serves sim.controls) (history : History) :
    sim.Unstopped history := by
  -- Induction on the history; the rig may come at any tick.
  induction history generalizing sim rig with
  | nil => trivial
  | cons input rest ih =>
    obtain ⟨rig', hregular, inStep'⟩ := h.feed inStep input
    exact ⟨(h.kept_feed inStep serves input).violation,
      ih hregular inStep' (h.serves_feed inStep serves input)⟩

/-- **Nothing that a show takes is stopped,** whatever it has taken before. -/
theorem unstopped_after (setup : Setup) (h history : History) :
    ((start setup).after h).Unstopped history := by
  obtain ⟨rig, hregular, inStep⟩ := regular_after setup []
  exact (unstopped_append.mp (hregular.unstopped inStep (serves_start setup) (h ++ history))).2

/-! ## Section 2: Draining -/

section drain
variable (sim : Simulation) (closed : Bool)

/-- The first event is taken, and then the others are. -/
theorem outcome_drain_cons (e : Event) (es : List Event) :
    (sim.drain ⟨e :: es, closed⟩).outcome =
      (sim.take e).andThen fun sim => (sim.drain ⟨es, closed⟩).outcome := by
  unfold drain Outcome.andThen
  simp only [drainEvents]
  cases hviolation : (sim.take e).violation with
  | some v => rfl
  | none => simp [Outcome.andThen, hviolation]

theorem queue_drain_cons {e : Event} (h : (sim.take e).violation = none) (es : List Event) :
    (sim.drain ⟨e :: es, closed⟩).queue = ((sim.take e).state.drain ⟨es, closed⟩).queue := by
  unfold drain
  simp only [drainEvents, h]

/-- No draining opens or closes a queue. -/
theorem closed_drain (q : Queue) : (sim.drain q).queue.closed = q.closed := by
  obtain ⟨es, closed⟩ := q
  induction es generalizing sim with
  | nil => rfl
  | cons e es ih =>
    cases hviolation : (sim.take e).violation with
    | some v => simp [drain, drainEvents, hviolation]
    | none => rw [queue_drain_cons sim closed hviolation, ih]

end drain

/-- **Events may be drained in parts.** -/
theorem drain_append (sim : Simulation) (es es' : List Event) (closed closed' : Bool) :
    (sim.drain ⟨es ++ es', closed'⟩).outcome =
      (sim.drain ⟨es, closed⟩).outcome.andThen fun sim => (sim.drain ⟨es', closed'⟩).outcome := by
  induction es generalizing sim with
  | nil => exact (Outcome.done_andThen sim fun sim => (sim.drain ⟨es', closed'⟩).outcome).symm
  | cons e es ih =>
    rw [List.cons_append, outcome_drain_cons, outcome_drain_cons, Outcome.andThen_assoc]
    simp only [ih]

namespace Unstopped
variable {sim : Simulation}

/-- Whoever comes or goes is only reported. -/
theorem take {e : Event} {es : List Event} (h : sim.Unstopped (Event.inputs (e :: es))) :
    (sim.take e).violation = none ∧ (sim.take e).state.Unstopped (Event.inputs es) ∧
    sim.after (Event.inputs (e :: es)) = (sim.take e).state.after (Event.inputs es) := by
  cases e with
  | message c payload => exact ⟨h.1, h.2, rfl⟩
  | connected c => exact ⟨rfl, h, rfl⟩
  | disconnected c => exact ⟨rfl, h, rfl⟩

/-- **A draining takes all messages,** one after another, and leaves nothing in the
    queue. -/
theorem drain {es : List Event} (h : sim.Unstopped (Event.inputs es)) (closed : Bool) :
    (sim.drain ⟨es, closed⟩).outcome.violation = none ∧
    (sim.drain ⟨es, closed⟩).outcome.state = sim.after (Event.inputs es) ∧
    (sim.drain ⟨es, closed⟩).queue = { closed } := by
  induction es generalizing sim with
  | nil => exact ⟨rfl, rfl, rfl⟩
  | cons e es ih =>
    obtain ⟨hviolation, hrest, hafter⟩ := h.take
    obtain ⟨hnone, hstate, hqueue⟩ := ih hrest
    rw [outcome_drain_cons, queue_drain_cons sim closed hviolation, hafter,
      Outcome.violation_andThen _ hviolation, (Outcome.andThen_of_none _ hviolation).1]
    exact ⟨hnone, hstate, hqueue⟩

/-! ## Section 3: Playing -/

/-- A turn with an open queue takes its messages and ticks. -/
theorem play_cons {batch : List Event × Float32} (h : sim.Unstopped (Turn.inputsOfBatch batch))
    (turns : List Turn) :
    (sim.play (.ofBatch batch :: turns)).violation =
      ((sim.after (Turn.inputsOfBatch batch)).play turns).violation ∧
    (sim.play (.ofBatch batch :: turns)).state =
      ((sim.after (Turn.inputsOfBatch batch)).play turns).state := by
  obtain ⟨hmessages, htick, -⟩ := unstopped_append.mp h
  obtain ⟨hnone, hstate, hqueue⟩ := hmessages.drain false
  have hgoesOn : (sim.drain ⟨batch.1, false⟩).goesOn = true := by
    unfold Drained.goesOn
    rw [hqueue]
    rfl
  have hafter : sim.after (Turn.inputsOfBatch batch) =
      ((sim.after (Event.inputs batch.1)).tick batch.2).state := after_append sim _ _
  show ((sim.drain ⟨batch.1, false⟩).outcome.andThen _).violation = _ ∧
    ((sim.drain ⟨batch.1, false⟩).outcome.andThen _).state = _
  rw [Outcome.violation_andThen _ hnone, (Outcome.andThen_of_none _ hnone).1, hstate, hafter]
  simp only [Turn.ofBatch, hgoesOn, if_true]
  exact ⟨Outcome.violation_andThen _ htick, (Outcome.andThen_of_none _ htick).1⟩

/-- **A play takes the messages of each turn and then ticks,** until it finds the
    queue closed: then it takes the messages that are left and stops, whatever the
    turns after that would be. -/
theorem play {batches : List (List Event × Float32)} {last : List Event}
    (h : sim.Unstopped (batches.flatMap Turn.inputsOfBatch ++ Event.inputs last))
    (seconds : Float32) (more : List Turn) :
    (sim.play (batches.map .ofBatch ++ .closing last seconds :: more)).violation = none ∧
    (sim.play (batches.map .ofBatch ++ .closing last seconds :: more)).state =
      sim.after (batches.flatMap Turn.inputsOfBatch ++ Event.inputs last) := by
  induction batches generalizing sim with
  | nil =>
    obtain ⟨hnone, hstate, hqueue⟩ := h.drain true
    have hstops : (sim.drain ⟨last, true⟩).goesOn = false := by
      unfold Drained.goesOn
      rw [hqueue]
      rfl
    show ((sim.drain ⟨last, true⟩).outcome.andThen _).violation = none ∧
      ((sim.drain ⟨last, true⟩).outcome.andThen _).state = _
    rw [Outcome.violation_andThen _ hnone, (Outcome.andThen_of_none _ hnone).1]
    simp only [Turn.closing, hstops]
    exact ⟨rfl, hstate⟩
  | cons batch batches ih =>
    rw [List.flatMap_cons, List.append_assoc] at h ⊢
    obtain ⟨hbatch, hrest⟩ := unstopped_append.mp h
    obtain ⟨hviolation, hstate⟩ := hbatch.play_cons
      (batches.map .ofBatch ++ .closing last seconds :: more)
    rw [List.map_cons, List.cons_append, hviolation, hstate, after_append]
    exact ih hrest

end Unstopped

/-- A message that is turned down might as well not have come. -/
theorem drain_rejected {sim : Simulation} {es : List Event} {closed : Bool} {payload : String}
    {cause : Rejection}
    (h : ((sim.drain ⟨es, closed⟩).outcome.state.handle payload).answer = .rejected cause)
    (connection : Nat) (es' : List Event) :
    (sim.drain ⟨es ++ .message connection payload :: es', closed⟩).outcome.state =
      (sim.drain ⟨es ++ es', closed⟩).outcome.state := by
  rw [drain_append sim es _ closed closed, drain_append sim es es' closed closed]
  generalize (sim.drain ⟨es, closed⟩).outcome = before at h ⊢
  cases hbefore : before.violation with
  | some v => simp [Outcome.andThen, hbefore]
  | none =>
    obtain ⟨hstate, hnone⟩ := (before.state.handled payload).unchanged (.inl ⟨cause, h⟩)
    have htake : (before.state.take (.message connection payload)).violation = none := hnone
    rw [(Outcome.andThen_of_none _ hbefore).1, (Outcome.andThen_of_none _ hbefore).1,
      outcome_drain_cons, (Outcome.andThen_of_none _ htake).1]
    show ((before.state.handle payload).state.drain _).outcome.state = _
    rw [hstate]

/-! ## Section 4: The fold -/

/-- **What a simulation makes of the events in a queue.**  All is said of messages
    that break no contract on the way. -/
structure DrainsAsFold (sim : Simulation) : Prop where
  /-- A draining empties the queue and takes the payloads of its messages in order.
      Who comes, who goes and who has sent a message is of no account. -/
  drain : ∀ es closed, sim.Unstopped (Event.inputs es) →
    (sim.drain ⟨es, closed⟩).outcome.violation = none ∧
    (sim.drain ⟨es, closed⟩).queue.events = [] ∧
    (sim.drain ⟨es, closed⟩).outcome.state =
      (Event.payloads es).foldl (fun sim payload => (sim.handle payload).state) sim
  /-- The show goes on exactly if more events can come. -/
  goesOn_iff : ∀ q, (sim.drain q).goesOn = true ↔ q.closed = false
  /-- A message that is turned down has no effect, and those behind it are taken. -/
  rejected : ∀ es closed payload cause,
    ((sim.drain ⟨es, closed⟩).outcome.state.handle payload).answer = .rejected cause →
    ∀ connection es',
      (sim.drain ⟨es ++ .message connection payload :: es', closed⟩).outcome.state =
        (sim.drain ⟨es ++ es', closed⟩).outcome.state
  /-- Events may be drained in parts. -/
  append : ∀ es es' closed,
    (sim.drain ⟨es ++ es', closed⟩).outcome =
      (sim.drain ⟨es, false⟩).outcome.andThen fun sim => (sim.drain ⟨es', closed⟩).outcome
  /-- However the events fall into the turns of a play, it takes all of them with one
      tick behind each turn but the one that finds the queue closed, and then it stops. -/
  play : ∀ (batches : List (List Event × Float32)) (last : List Event) (seconds : Float32)
      (more : List Turn),
    sim.Unstopped (batches.flatMap Turn.inputsOfBatch ++ Event.inputs last) →
    (sim.play (batches.map .ofBatch ++ .closing last seconds :: more)).violation = none ∧
    (sim.play (batches.map .ofBatch ++ .closing last seconds :: more)).state =
      sim.after (batches.flatMap Turn.inputsOfBatch ++ Event.inputs last)

/-- The messages among some events are taken as their payloads are. -/
theorem after_inputs (sim : Simulation) (es : List Event) :
    sim.after (Event.inputs es) =
      (Event.payloads es).foldl (fun sim payload => (sim.handle payload).state) sim :=
  List.foldl_map

/-- **Draining is a fold of the messages,** in whatever state a simulation is; and
    in the states that a show comes to nothing that it takes is stopped. -/
theorem drain_folds (sim : Simulation) :
    sim.DrainsAsFold ∧
    ∀ setup h, sim = (start setup).after h → ∀ history, sim.Unstopped history := by
  refine ⟨?_, ?_⟩
  · constructor
    · intro es closed h
      obtain ⟨hnone, hstate, hqueue⟩ := h.drain closed
      refine ⟨hnone, ?_, hstate.trans (after_inputs sim es)⟩
      rw [hqueue]
    · intro q
      unfold Drained.goesOn
      rw [closed_drain]
      simp
    · exact fun es closed payload cause h => drain_rejected h
    · exact fun es es' closed => drain_append sim es es' false closed
    · exact fun batches last seconds more h => h.play seconds more
  · rintro setup h rfl history
    exact unstopped_after setup h history

end Simulation

end Planetarium
