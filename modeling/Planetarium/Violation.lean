import Planetarium.Scene.Object
import Planetarium.Text.Quoted

/-!
# Violations

An operation whose caller breaks its contract says which contract was broken. What happens then depends on
how the program has been built: a debug build stops there, and a release build goes on.
-/

namespace Planetarium

/-- How the program has been built. -/
inductive Build where
  /-- A broken contract is fatal. -/
  | debug
  /-- A broken contract is reported in the journal, and what the caller does next is done. -/
  | release
  deriving DecidableEq

/-- A broken contract. -/
inductive Violation where
  /-- An object was to be hung below something that is not a frame. -/
  | notAFrame (target : ObjectId)
  /-- An object was to be hung below a frame whose name is not known. -/
  | unknownFrame (name : String)
  /-- A body of a transfer is missing from the scene. -/
  | bodiesMissing
  deriving DecidableEq

/-- What a violation says. -/
def Violation.message (v : Violation) : String :=
  "precondition violated: " ++
    match v with
    | .notAFrame target => "reparent target " ++ target.text ++ " is not a known frame"
    | .unknownFrame name => "reparent target " ++ Text.quote name ++ " is not a known frame"
    | .bodiesMissing => "transfer bodies are not part of the scene"

end Planetarium
