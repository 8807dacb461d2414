import Planetarium.Settings.Basic

/-!
# Arguments

Settings are read from the arguments of the command line, and those that are not given there from the
environment. Arguments are read from the left, and the first fault counts.

* A value stands after an equals sign or is the next argument. One that starts with a hyphen, other than
  the hyphen alone, is taken for an option, except by keys that allow it.
* A value after an equals sign is checked at once. One that is an argument of its own is checked when the
  next option is met or at the end, so an argument that is not known comes first.
* Nothing may be given twice. The two hyphens after which only positional arguments stand may come last,
  since there are no positional arguments.
-/

namespace Planetarium.Settings

/-- Why no settings come of the arguments. -/
inductive Fault where
  /-- The user asks for help. -/
  | help
  | unknownArgument
  /-- A key has no value. -/
  | missingValue
  /-- A value is not one for its key. -/
  | badValue
  /-- An option is given twice. -/
  | repeated
  /-- An option that has no value is given one. -/
  | unwantedValue
  deriving DecidableEq

/-- A key whose value has not been checked. -/
inductive Pending where
  | none
  /-- The value may be the next argument. -/
  | awaiting (key : Key)
  /-- The value has come as an argument of its own. -/
  | held (key : Key) (value : String)

/-- The settings so far, the keys given, whether the pause is given, and the key under way. -/
structure Reading where
  settings : Settings := {}
  given : List Key := []
  pauseGiven : Bool := false
  pending : Pending := .none

namespace Reading

/-- Gives a key a value. That it is given twice is found before the value is checked. -/
def give (r : Reading) (k : Key) (value : String) : Except Fault Reading :=
  if k ∈ r.given then .error .repeated
  else
    match r.settings.set? k value with
    | some settings => .ok { r with settings, given := k :: r.given }
    | none => .error .badValue

/-- Checks the key under way. -/
def commit (r : Reading) : Except Fault Reading :=
  match r.pending with
  | .none => .ok r
  | .awaiting _ => .error .missingValue
  | .held k value => { r with pending := .none }.give k value

/-- The flag that lets the orbits stand still at first. -/
def pause (r : Reading) : Except Fault Reading :=
  if r.pauseGiven then .error .repeated
  else .ok { r with settings := { r.settings with startPaused := true }, pauseGiven := true }

/-- Reads an option with its two hyphens taken off. -/
def long (r : Reading) (option : List Char) : Except Fault Reading :=
  let name := String.ofList (option.takeWhile (· ≠ '='))
  let value := (option.dropWhile (· ≠ '=')).tail?.map String.ofList
  match Key.ofName? name, value with
  | some k, some value => do (← r.commit).give k value
  | some k, none => do return { ← r.commit with pending := .awaiting k }
  | none, value =>
    if name = "start-paused" then
      match value with
      | some _ => .error .unwantedValue
      | none => do (← r.commit).pause
    else if name = "help" then
      match value with
      | some _ => .error .unwantedValue
      | none => do
        let _ ← r.commit
        .error .help
    else .error .unknownArgument

/-- Reads an option with its single hyphen taken off. All options that start with `h` ask for help. -/
def short (r : Reading) (option : List Char) : Except Fault Reading :=
  if option.head? = some 'h' then do
    let _ ← r.commit
    .error .help
  else .error .unknownArgument

/-- Whether an argument is the value of the key under way. -/
def takes? (r : Reading) (argument : List Char) : Option Key :=
  match r.pending with
  | .awaiting k =>
    if k.takesHyphens || argument.head? ≠ some '-' || argument = ['-'] then some k else none
  | _ => none

/-- Reads all arguments. -/
def all (r : Reading) : List String → Except Fault Reading
  | [] => r.commit
  | argument :: rest =>
    match r.takes? argument.toList with
    | some k => all { r with pending := .held k argument } rest
    | none =>
      match argument.toList with
      | ['-', '-'] => if rest = [] then r.commit else .error .unknownArgument
      | '-' :: '-' :: option => do (← r.long option).all rest
      | '-' :: c :: option => do (← r.short (c :: option)).all rest
      | _ => .error .unknownArgument

/-- Gives a key the value of its variable, unless it is given already. -/
def lookUp (environment : String → Option String) (r : Reading) (k : Key) : Except Fault Reading :=
  if k ∈ r.given then .ok r
  else
    match k.environmentName?.bind environment with
    | some value => r.give k value
    | none => .ok r

end Reading

/-- **Reading the settings** from arguments and environment. -/
def read (arguments : List String) (environment : String → Option String) : Except Fault Settings := do
  let r ← ({} : Reading).all arguments
  let r ← Key.all.foldlM (Reading.lookUp environment) r
  return r.settings

end Planetarium.Settings
