import Planetarium.Show.Simulation

/-!
# Histories

A history is the list of all messages and ticks that a simulation has taken since its start.

* `Simulation.after` is the state that a history leads to.
* `History.codes` and `Simulation.accepted` are what was said in it: the control codes, and the instructions
  that were carried out.
-/

namespace Planetarium

/-- What a simulation takes: a message, or a tick. -/
inductive Input where
  | message (payload : String)
  | tick (seconds : Float32)
  deriving DecidableEq

/-- The control code in a message. -/
def Input.code? : Input → Option Char
  | .message payload =>
    match Message.ofPayload? payload with
    | some (.control code) => some code
    | _ => none
  | .tick _ => none

/-- What happened to a simulation, the earliest input first. -/
abbrev History := List Input

namespace History

/-- The control codes of a history, in order. -/
def codes (h : History) : List Char := h.filterMap Input.code?

/-- Whether a history has a tick. -/
def hasTick (h : History) : Bool :=
  h.any fun
    | .message _ => false
    | .tick _ => true

/-- A history without the messages that are not about the pause. -/
def timing (h : History) : History :=
  h.filter fun
    | .message payload => Input.code? (.message payload) = some 'p'
    | .tick _ => true

end History

namespace Simulation

/-- The state at the start. -/
def start (setup : Setup) : Simulation := (new setup).1

/-- Takes one input. -/
def feed (sim : Simulation) : Input → Outcome Simulation
  | .message payload => (sim.handle payload).toOutcome
  | .tick seconds => sim.tick seconds

/-- The state after a history. -/
def after (sim : Simulation) (h : History) : Simulation :=
  h.foldl (fun sim input => (sim.feed input).state) sim

/-- The instruction in a payload that a simulation carries out. -/
def accepted? (sim : Simulation) (payload : String) : Option Instruction :=
  match Message.ofPayload? payload, (sim.handle payload).answer with
  | some (.authoring verb tokens), .authored _ => (Instruction.parse verb tokens).toOption
  | _, _ => none

/-- The instructions that a simulation carries out in a history, in order. -/
def accepted (sim : Simulation) : History → List Instruction
  | [] => []
  | .message payload :: rest =>
    (sim.accepted? payload).toList ++ (sim.feed (.message payload)).state.accepted rest
  | .tick seconds :: rest => (sim.tick seconds).state.accepted rest

end Simulation

end Planetarium
