import Planetarium.Geometry.Vec3
import Planetarium.Geometry.Angle

/-!
# Transfer windows

A window opens when two bodies are seen from a third one under exactly a given angle in whole degrees. The
watch that looks for it fires when the angle comes onto the target, and not again before it has left it.
-/

namespace Planetarium

/-- The number of a window, counted from one. -/
structure Ticket where
  number : Nat
  deriving DecidableEq

/-- Only every second window is for a launch. -/
def Ticket.launches (t : Ticket) : Bool := t.number % 2 = 0

namespace Window

/-- The number `a` brought between `low` and `high`. An undefined number stays undefined. -/
def clamp (low high a : Float32) : Float32 := if a < low then low else if high < a then high else a

/-- **The angle of a window.** The angle at `reference` between `origin` and `destination` in degrees,
truncated toward zero, or nothing while one of them is at the place of `reference`. It is found from the
three distances by the cosine rule; an undefined angle counts as zero. -/
def angle? (origin destination reference : Vec3) : Option Int :=
  let os := origin.distance reference
  let ds := destination.distance reference
  let od := origin.distance destination
  if os == 0 || ds == 0 then none
  else
    let cosine := ((os * os + ds * ds) - od * od) / ((2 * os) * ds)
    some (Numeral.Single.wholePart (Angle.toDegrees (Circular.arccos (clamp (-1) 1 cosine))))

end Window

/-- A watch for one angle in whole degrees: the angle, whether it may fire, and how many windows it has seen. -/
structure Watch where
  target : Int
  armed : Bool := true
  tickets : Nat := 0
  deriving DecidableEq

namespace Watch

/-- Takes a sample of the angle. -/
def observe (w : Watch) (angle : Int) : Option Ticket × Watch :=
  if angle ≠ w.target then (none, { w with armed := true })
  else if w.armed then
    (some ⟨w.tickets + 1⟩, { w with armed := false, tickets := w.tickets + 1 })
  else (none, w)

/-- Takes a sample from the places of the bodies. Nothing happens while there is no angle. -/
def observePlaces (w : Watch) (origin destination reference : Vec3) : Option Ticket × Watch :=
  match Window.angle? origin destination reference with
  | some angle => w.observe angle
  | none => (none, w)

end Watch

end Planetarium
