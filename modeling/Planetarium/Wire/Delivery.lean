import Planetarium.Wire.Event
import Planetarium.Wire.Frame

/-!
# Delivery

The bytes that controllers send become events. Each connection is read on its own: what is wrong on one
of them ends that one only. Bytes may come in pieces of any size; the part of a frame that has come is kept
until the rest of it comes.
-/

namespace Planetarium

/-- A connection: its number, the bytes of the frame that has not come in full, and whether it is open. -/
structure Connection where
  id : Nat
  pending : List UInt8 := []
  live : Bool := true
  deriving DecidableEq

namespace Connection

/-- The messages in some frames. Frames with another id are passed over. -/
def messages (id : Nat) (ps : List Packet) : List Event :=
  (ps.filter (·.id = Packet.gameId)).map fun p => .message id p.text

/-- Ends a connection that is open. -/
def close (c : Connection) : List Event × Connection :=
  if c.live then ([.disconnected c.id], { c with live := false }) else ([], c)

/-- Takes bytes in. A frame over the limit ends the connection. -/
def receive (c : Connection) (bytes : List UInt8) : List Event × Connection :=
  if c.live then
    let (ps, ending) := Packet.split (c.pending ++ bytes)
    let c := { c with pending := ending.rest }
    match ending.error with
    | .oversized _ =>
      let (events, c) := c.close
      (messages c.id ps ++ events, c)
    | .endInHeader | .endInPayload => (messages c.id ps, c)
  else ([], c)

end Connection

/-- All connections, in the order of their numbers. -/
structure Delivery where
  connections : List Connection := []
  deriving DecidableEq

namespace Delivery

/-- What may happen on the side of the controllers, or to the whole delivery. -/
inductive Step where
  /-- A controller connects. -/
  | accept
  /-- Bytes come in at a connection. -/
  | receive (connection : Nat) (bytes : List UInt8)
  /-- The controller at a connection ends its stream. -/
  | finish (connection : Nat)
  /-- The delivery is given up, and every connection ends. -/
  | shutdown

/-- Changes the connection of a number. -/
def update (d : Delivery) (connection : Nat) (f : Connection → List Event × Connection) :
    List Event × Delivery :=
  let changed := d.connections.map fun c => if c.id = connection then f c else ([], c)
  (changed.flatMap (·.1), ⟨changed.map (·.2)⟩)

/-- What a step does: the events that it gives, and the connections after it. -/
def step (d : Delivery) : Step → List Event × Delivery
  | .accept =>
    let id := d.connections.length + 1
    ([.connected id], ⟨d.connections ++ [{ id }]⟩)
  | .receive connection bytes => d.update connection (·.receive bytes)
  | .finish connection => d.update connection (·.close)
  | .shutdown =>
    let changed := d.connections.map Connection.close
    (changed.flatMap (·.1), ⟨changed.map (·.2)⟩)

/-- The events of some steps, one after another, and the connections after them. -/
def run (d : Delivery) : List Step → List Event × Delivery
  | [] => ([], d)
  | s :: ss =>
    let (events, d) := d.step s
    let (more, d) := d.run ss
    (events ++ more, d)

end Delivery

end Planetarium
