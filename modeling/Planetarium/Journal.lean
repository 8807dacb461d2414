import Planetarium.Message.Rejection
import Planetarium.Violation

/-!
# The journal

What the simulation reports about itself. Entries are data; `Entry.text` says how they are written.
-/

namespace Planetarium

/-- A report. -/
inductive Entry where
  /-- The scene has been built. -/
  | sceneReady (nodes : Nat) (target : Int)
  /-- A payload has been turned down. -/
  | rejected (payload : String) (cause : Rejection)
  /-- A new object has taken the name of an older one. -/
  | nameReused (name : String) (previous : ObjectId)
  | paused
  | resumed
  /-- A window that is not for a launch. -/
  | windowSkipped (ticket : Nat)
  | launched (ticket : Nat)
  | arrived
  | attached (connection : Nat)
  | detached (connection : Nat)
  /-- A contract has been broken, and nothing has stopped. -/
  | violated (violation : Violation)
  /-- No more events can come. -/
  | stopping
  deriving DecidableEq

/-- An entry as a line of the journal, with its level in front. -/
def Entry.text : Entry → String
  | .sceneReady nodes target =>
    "INFO scene ready: " ++ toString nodes ++ " nodes, transfer window at " ++ toString target ++
      " degrees"
  | .rejected payload cause => "WARN rejected " ++ Text.quote payload ++ ": " ++ cause.message
  | .nameReused name previous =>
    "WARN node name " ++ Text.quote name ++ " reused, " ++ previous.text ++
      " is no longer addressable"
  | .paused => "INFO simulation paused"
  | .resumed => "INFO simulation resumed"
  | .windowSkipped ticket => "INFO transfer window " ++ toString ticket ++ " skipped"
  | .launched ticket => "INFO vehicle launched on window " ++ toString ticket
  | .arrived => "INFO vehicle arrived at destination"
  | .attached connection => "INFO controller " ++ toString connection ++ " attached"
  | .detached connection => "INFO controller " ++ toString connection ++ " detached"
  | .violated violation => "ERROR " ++ violation.message
  | .stopping => "INFO event channel closed, stopping simulation"

end Planetarium
