/-!
# Events

What controllers make happen: they come, they send messages, and they go. Connections are numbered from
one, in the order in which they come.
-/

namespace Planetarium

/-- An event at one connection. -/
inductive Event where
  | connected (connection : Nat)
  | disconnected (connection : Nat)
  | message (connection : Nat) (payload : String)
  deriving DecidableEq

/-- The connection that an event is about. -/
def Event.connection : Event → Nat
  | .connected c => c
  | .disconnected c => c
  | .message c _ => c

end Planetarium
