import Planetarium.Numeral.Decimal
import Planetarium.Show.Simulation

/-!
# Settings

What can be set when a show is started: where it listens, the view angle of the display, the angle of the
windows, the rate of the ticks, and whether the orbits stand still at first.
-/

namespace Planetarium

/-- The settings of a show. -/
structure Settings where
  port : Nat := 32000
  bind : String := "0.0.0.0"
  viewAngle : Float32 := 0
  targetAngle : Int := 44
  tickRate : Nat := 60
  startPaused : Bool := false
  deriving DecidableEq

namespace Settings

/-- The address to listen on. -/
def listenAddress (s : Settings) : String := s.bind ++ ":" ++ toString s.port

/-- The setup of the simulation. -/
def setup (s : Settings) : Setup where
  viewAngle := s.viewAngle
  plan := { target := s.targetAngle }
  startPaused := s.startPaused

/-- A setting that has a value. -/
inductive Key where
  | port
  | bind
  | viewAngle
  | targetAngle
  | tickRate
  deriving DecidableEq

namespace Key

/-- All keys, in the order in which they are looked up in the environment. -/
def all : List Key := [.port, .bind, .viewAngle, .targetAngle, .tickRate]

/-- The name of a key on the command line. -/
def name : Key → String
  | .port => "port"
  | .bind => "bind"
  | .viewAngle => "view-angle"
  | .targetAngle => "target-angle"
  | .tickRate => "tick-rate"

/-- The name of a key in the environment, for those that may be set there. -/
def environmentName? : Key → Option String
  | .port => some "ORRERY_PORT"
  | .bind => some "ORRERY_BIND"
  | .viewAngle => some "ORRERY_VIEW_ANGLE"
  | .targetAngle => none
  | .tickRate => none

/-- The key of a name on the command line. Names are not abbreviated. -/
def ofName? (name : String) : Option Key := all.find? (·.name = name)

/-- Whether the next argument is a value also when it starts with a hyphen. -/
def takesHyphens (k : Key) : Bool := k = .viewAngle

end Key

/-- Sets a key to a value, if that is one for it. -/
def set? (s : Settings) (k : Key) (value : String) : Option Settings :=
  match k with
  | .port => (Numeral.wholeIn? 0 65535 value.toList).map fun n => { s with port := n.toNat }
  | .bind => some { s with bind := value }
  | .viewAngle => (Numeral.real? value.toList).map fun a => { s with viewAngle := a }
  | .targetAngle => (Numeral.int32? value.toList).map fun n => { s with targetAngle := n }
  | .tickRate =>
    (Numeral.wholeIn? 1 0xffffffff value.toList).map fun n => { s with tickRate := n.toNat }

end Settings

end Planetarium
