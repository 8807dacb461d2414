import Planetarium.Numeral.Rounding
import Planetarium.Show.Queue

/-!
# The clock

Ticks are made at a constant rate. Times are kept in whole nanoseconds, and a tick is made at the first
whole millisecond at which it is due.

* The period is the reciprocal of the rate, taken in double precision and then rounded to the nearest
  nanosecond and to the even one of two that are equally near. A rate above two thousand million has no
  period.
* The tick of number zero is made at once, with no time gone by. Each later one first takes the events
  that have come since the one before it.
-/

namespace Planetarium

namespace Clock

/-- Nanoseconds in one second. -/
def second : Nat := 1000000000

/-- Nanoseconds in one millisecond. -/
def millisecond : Nat := 1000000

/-- A positive finite number in double precision, as `mantissa / 2 ^ scale`; numbers of `2 ^ 52` and more
are left out. -/
def fraction (x : Float) : Nat × Nat :=
  let bits := x.toBits.toNat
  let exponent := (bits >>> 52) % 2048
  let mantissa := bits % 0x10000000000000
  -- Below the normal range there is no leading one.
  if exponent = 0 then (mantissa, 1074) else (mantissa + 0x10000000000000, 1075 - exponent)

/-- The time between two ticks in nanoseconds, for a rate in ticks per second. The rate zero counts as
one. -/
def period (rate : Nat) : Nat :=
  let (mantissa, scale) := fraction (1 / Float.ofNat (max rate 1))
  Numeral.roundDiv (mantissa * second) (1 <<< scale)

/-- A time in seconds, in single precision: the part below a second and the whole seconds are rounded
apart. -/
def toSeconds (nanoseconds : Nat) : Float32 :=
  Float32.ofNat (nanoseconds / second) +
    Float32.ofNat (nanoseconds % second) / Float32.ofNat second

/-- The number of the tick that takes an event which comes `time` milliseconds after the start: the first
one after the zeroth that is not made before. -/
def tickAt (period time : Nat) : Nat := (time - 1) * millisecond / period + 1

/-- When a tick is made, in milliseconds after the start. -/
def timeOf (period tick : Nat) : Nat := (tick * period + (millisecond - 1)) / millisecond

/-- The events that a tick takes. -/
def eventsOf (period : Nat) (script : List (Nat × Event)) (tick : Nat) : List Event :=
  (script.filter fun e => tickAt period e.1 = tick).map (·.2)

/-- The turns up to the tick at which the play stops, which finds the queue closed. -/
def turns (period : Nat) (script : List (Nat × Event)) (closing : Nat) : List Turn :=
  let last := tickAt period closing
  -- The zeroth tick is made at once and finds the queue empty.
  { seconds := 0 } :: (List.range last).map fun k =>
    { queue := { events := eventsOf period script (k + 1), closed := k + 1 = last }
      seconds := toSeconds period }

end Clock

/-- What came of a play by the clock: the time of the last tick in milliseconds, and the outcome. -/
structure Performance where
  elapsed : Nat
  outcome : Outcome Simulation

/-- **A play by the clock.** Events come at times in milliseconds after the start, and none comes at the
time of a tick. At the time `closing` the queue is closed. Without a period there is no play. -/
def Simulation.perform (sim : Simulation) (rate : Nat) (script : List (Nat × Event)) (closing : Nat) :
    Option Performance :=
  let period := Clock.period rate
  if period = 0 then none
  else
    some
      { elapsed := Clock.timeOf period (Clock.tickAt period closing)
        outcome := sim.play (Clock.turns period script closing) }

end Planetarium
