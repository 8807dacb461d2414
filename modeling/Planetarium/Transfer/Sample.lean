import Planetarium.Transfer.Window

/-!
# Samples

The history of a watch is a list of samples, each an angle or the places of three bodies. What the watch
did is a matter of the angles alone: it fired where an angle came onto the target.
-/

namespace Planetarium

/-- What a watch is shown. -/
inductive Sample where
  | angle (degrees : Int)
  | places (origin destination reference : Vec3)

/-- The angle of a sample, if it has one. -/
def Sample.angle? : Sample → Option Int
  | .angle degrees => some degrees
  | .places origin destination reference => Window.angle? origin destination reference

namespace Watch

/-- Takes a sample of either kind. -/
def take (w : Watch) : Sample → Option Ticket × Watch
  | .angle degrees => w.observe degrees
  | .places origin destination reference => w.observePlaces origin destination reference

/-- Takes samples in order: what each of them fired, and the watch after them. -/
def takeAll (w : Watch) : List Sample → List (Option Ticket) × Watch
  | [] => ([], w)
  | s :: ss =>
    let (fired, w) := w.take s
    let (more, w) := w.takeAll ss
    (fired :: more, w)

/-- Whether an angle comes onto a target from the one before it, if there is one. -/
def comesOnto (target : Int) (previous : Option Int) (angle : Int) : Bool :=
  angle = target && previous ≠ some target

/-- For each of some angles, whether it comes onto a target. -/
def edges (target : Int) (previous : Option Int) : List Int → List Bool
  | [] => []
  | a :: as => comesOnto target previous a :: edges target (some a) as

end Watch

end Planetarium
