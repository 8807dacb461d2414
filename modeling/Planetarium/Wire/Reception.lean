import Planetarium.Wire.Delivery

/-!
# Reception

Who takes events in does not wait for one controller after another. One task accepts controllers and numbers
them, and each controller is served by a task of its own. All of them send into the same queue, and it is
left open which of them goes on next.

A controller is given by its stream: the bytes that come from it until the stream ends.
-/

namespace Planetarium

/-- **What the task of one controller has come to.** -/
structure Service where
  connection : Connection
  /-- The bytes that have been taken off the stream. -/
  taken : List UInt8 := []
  /-- The bytes that are still to come before the stream ends. -/
  unread : List UInt8
  /-- Whether the controller has been reported. -/
  announced : Bool := false
  deriving DecidableEq

namespace Service

/-- The number of the controller. -/
def id (s : Service) : Nat := s.connection.id

/-- All bytes of the controller. -/
def stream (s : Service) : List UInt8 := s.taken ++ s.unread

/-- Whether the task reads from the stream. -/
def serving (s : Service) : Bool := s.announced && s.connection.live

/-- Whether the task has come to its end. -/
def finished (s : Service) : Bool := s.announced && !s.connection.live

/-- What a task does next. -/
inductive Move where
  /-- Reports the controller. -/
  | announce
  /-- Takes some of the next `count` bytes off the stream, and at least one. -/
  | read (count : Nat)
  /-- Finds that the stream has ended. -/
  | finish
  deriving DecidableEq

/-- What a move sends, and the task after it. There may be nothing to do. -/
def step (s : Service) : Move → List Event × Service
  | .announce =>
    if s.announced then ([], s) else ([.connected s.id], { s with announced := true })
  | .read count =>
    let bytes := s.unread.take count
    if s.serving && bytes ≠ [] then
      let (events, connection) := s.connection.receive bytes
      (events,
        { s with connection, taken := s.taken ++ bytes, unread := s.unread.drop count })
    else ([], s)
  | .finish =>
    if s.serving && s.unread = [] then
      let (events, connection) := s.connection.close
      (events, { s with connection })
    else ([], s)

end Service

/-- **All tasks,** in the order in which their controllers were accepted, with the next number and with what
the tasks have sent. -/
structure Reception where
  next : Nat := 1
  services : List Service := []
  sent : List Event := []
  deriving DecidableEq

namespace Reception

/-- What happens next. -/
inductive Move where
  /-- The controller of a stream is accepted. -/
  | accept (stream : List UInt8)
  /-- No controller can be accepted at the moment. -/
  | acceptFails
  /-- The task of a number goes on. -/
  | run (id : Nat) (move : Service.Move)
  deriving DecidableEq

/-- The reception after a move. A controller that is accepted gets the next number and a task, which has not
sent anything yet. -/
def step (r : Reception) : Move → Reception
  | .accept stream =>
    { r with
      next := r.next + 1
      services := r.services ++ [{ connection := { id := r.next }, unread := stream }] }
  | .acceptFails => r
  | .run id move =>
    match r.services.find? (·.id = id) with
    | none => r
    | some s =>
      let (events, s') := s.step move
      { r with
        services := r.services.map fun u => if u.id = id then s' else u
        sent := r.sent ++ events }

/-- What has been sent about the controller of a number. -/
def eventsOf (r : Reception) (id : Nat) : List Event := r.sent.filter (·.connection = id)

/-- The reception after the first `n` moves of a schedule. -/
def after (schedule : Nat → Move) : Nat → Reception
  | 0 => {}
  | n + 1 => (after schedule n).step (schedule n)

end Reception

end Planetarium
