import EventFlow.Command.Run

/-!
# The command line

Reads the files that a command line wants, performs it, and prints what it comes
to. The program has no way onto the network of its own.
-/

namespace EventFlow

/-- The files of a list that can be read. -/
def readFiles (names : List String) : IO (Dict String) :=
  names.foldlM (fun files (name : String) => do
    match ← (IO.FS.readFile name).toBaseIO with
    | .ok text => return Dict.insert files name text
    | .error _ => return files) []

/-- The environment variables for settings. -/
def settingsVariables : IO (List (String × String)) := do
  let names := [
    "TRIGGERFLOW__LOG_LEVEL", "TRIGGERFLOW__API__ENDPOINT", "TRIGGERFLOW__API__USER",
    "TRIGGERFLOW__API__PASSWORD", "TRIGGERFLOW__NATS__URL", "TRIGGERFLOW__NATS__BUCKET",
    "TRIGGERFLOW__NATS__STREAM_PREFIX", "TRIGGERFLOW__WORKER__IDLE_BACKOFF_MS",
    "TRIGGERFLOW__WORKER__REFRESH_EVERY", "TRIGGERFLOW__WORKER__MAX_IDLE_POLLS"]
  names.foldlM (fun found name => do
    match ← IO.getEnv name with
    | some value => return found ++ [(name, value)]
    | none => return found) []

/-- Perform a command line and print its report. -/
def performLine (words : List String) : IO UInt32 := do
  let wanted :=
    match Arguments.parse Plan.initialSubject words with
    | .ok invocation => invocation.wantedFiles
    | .error _ => []
  let files ← readFiles wanted
  let environment ← settingsVariables
  let (report, _) := Command.run (Dict.get? files) environment words {}
  IO.print report.output
  match report.error with
  | some message => IO.eprintln message
  | none => pure ()
  return report.code.toUInt32

end EventFlow

/-- The program. -/
def main (words : List String) : IO UInt32 :=
  EventFlow.performLine words
