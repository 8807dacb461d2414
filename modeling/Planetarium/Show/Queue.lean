import Planetarium.Show.Simulation

/-!
# The event queue

Events wait in a queue until a tick takes them out. More events can come as long as the other end of the
queue is open.

* `Simulation.drain` takes out what waits, one event after another.
* `Simulation.play` makes one tick after another. Before each of them the queue is drained as it is found
  then. When it turns out that no more events can come, the play stops without a tick.
-/

namespace Planetarium

/-- The events that wait, and whether more can come. -/
structure Queue where
  events : List Event := []
  closed : Bool := false
  deriving DecidableEq

/-- What a tick finds: the queue, and the time gone by since the tick before it in seconds. -/
structure Turn where
  queue : Queue := {}
  seconds : Float32
  deriving DecidableEq

/-- What a draining leaves behind: the outcome, and the queue after it. -/
structure Drained where
  outcome : Outcome Simulation
  queue : Queue

/-- Whether the show goes on, because more events can come. -/
def Drained.goesOn (d : Drained) : Bool := !d.queue.closed

namespace Simulation

/-- Takes one event. Only messages change the simulation, and one that is turned down does not. -/
def take (sim : Simulation) : Event → Outcome Simulation
  | .message _ payload => (sim.handle payload).toOutcome
  | .connected c => .report sim (.attached c)
  | .disconnected c => .report sim (.detached c)

/-- Takes out the events that wait in a queue, up to one that breaks a contract. -/
def drainEvents (closed : Bool) (sim : Simulation) : List Event → Drained
  | [] => { outcome := .done sim, queue := { closed } }
  | e :: es =>
    let taken := sim.take e
    match taken.violation with
    | some _ => { outcome := taken, queue := { events := es, closed } }
    | none =>
      let rest := drainEvents closed taken.state es
      { rest with outcome := taken.andThen fun _ => rest.outcome }

/-- **Draining a queue.** -/
def drain (sim : Simulation) (q : Queue) : Drained := drainEvents q.closed sim q.events

/-- **The play.** Each turn drains its queue and then makes its tick, unless the queue is closed: then the
play stops and says so. -/
def play (sim : Simulation) : List Turn → Outcome Simulation
  | [] => .done sim
  | turn :: turns =>
    let drained := sim.drain turn.queue
    drained.outcome.andThen fun sim =>
      if drained.goesOn then (sim.tick turn.seconds).andThen (·.play turns)
      else .report sim .stopping

end Simulation

end Planetarium
