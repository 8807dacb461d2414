import Planetarium.Journal
import Planetarium.Violation

/-!
# Outcomes

An operation leaves a state and some journal entries behind. If it breaks a contract in a debug build it
stops there: the state is the one that it had reached, and what would have come after it is left out. In a
release build there is an entry for the broken contract, and the operation goes on in the state that it had
reached.
-/

namespace Planetarium

/-- What an operation leaves behind. -/
structure Outcome (σ : Type) where
  state : σ
  entries : List Entry := []
  /-- The broken contract that has stopped the operation. -/
  violation : Option Violation := none

namespace Outcome

variable {σ τ : Type}

/-- An operation that ends in a state and reports nothing. -/
def done (state : σ) : Outcome σ := { state }

/-- An operation that changes nothing but the journal. -/
def report (state : σ) (entry : Entry) : Outcome σ := { state, entries := [entry] }

/-- An operation that is stopped by a violation. -/
def stopped (state : σ) (violation : Violation) : Outcome σ := { state, violation := some violation }

/-- An operation that breaks a contract and does nothing more of its own. -/
def violated (build : Build) (state : σ) (violation : Violation) : Outcome σ :=
  match build with
  | .debug => .stopped state violation
  | .release => .report state (.violated violation)

/-- One operation after another. The second one is left out if the first one has been stopped. -/
def andThen (o : Outcome σ) (f : σ → Outcome σ) : Outcome σ :=
  match o.violation with
  | some _ => o
  | none =>
    let next := f o.state
    { next with entries := o.entries ++ next.entries }

/-- The same outcome with the state seen as part of another one. -/
def map (f : σ → τ) (o : Outcome σ) : Outcome τ :=
  { state := f o.state, entries := o.entries, violation := o.violation }

end Outcome

end Planetarium
