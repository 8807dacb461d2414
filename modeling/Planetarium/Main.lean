import Planetarium.Settings.Arguments
import Planetarium.Show.Clock

/-!
# The command line

Runs a show with the messages of one controller, one on each line of the standard input. Each line is taken
at a tick of its own, and the journal is written to the standard output. The end of the input ends the show.
-/

namespace Planetarium.CommandLine

/-- What the user is told when asking for help. -/
def usage : String :=
  "usage: planetarium [--port N] [--bind ADDRESS] [--view-angle DEGREES] [--target-angle DEGREES] " ++
    "[--tick-rate N] [--start-paused]"

/-- Why the arguments are of no use, in words. -/
def faultText : Settings.Fault → String
  | .help => usage
  | .unknownArgument => "unknown argument"
  | .missingValue => "a value is missing"
  | .badValue => "a value is not valid"
  | .repeated => "an option is given twice"
  | .unwantedValue => "an option takes no value"

/-- Writes what has been reported. -/
def writeEntries (entries : List Entry) : IO Unit := entries.forM fun e => IO.println e.text

/-- Takes one line after another, with a tick after each. -/
partial def playLines (input : IO.FS.Stream) (seconds : Float32) (sim : Simulation) : IO Unit := do
  let line ← input.getLine
  if line.isEmpty then
    writeEntries (sim.play [{ queue := { closed := true }, seconds }]).entries
  else
    let outcome := sim.play [{ queue := { events := [.message 1 line] }, seconds }]
    writeEntries outcome.entries
    match outcome.violation with
    | some v => IO.eprintln v.message
    | none => playLines input seconds outcome.state

/-- The settings that the environment holds. -/
def readEnvironment : IO (String → Option String) := do
  let names := Settings.Key.all.filterMap Settings.Key.environmentName?
  let values ← names.mapM fun name => do return (name, ← IO.getEnv name)
  return fun name => (values.lookup name).join

/-- Runs a show with the settings of the arguments. The result is the exit status. -/
def run (arguments : List String) : IO UInt32 := do
  match Settings.read arguments (← readEnvironment) with
  | .error .help =>
    IO.println usage
    return 0
  | .error fault =>
    IO.eprintln (faultText fault)
    return 2
  | .ok settings =>
    let (sim, entry) := Simulation.new settings.setup
    writeEntries [entry]
    playLines (← IO.getStdin) (Clock.toSeconds (Clock.period settings.tickRate)) sim
    return 0

end Planetarium.CommandLine

def main (arguments : List String) : IO UInt32 := Planetarium.CommandLine.run arguments
