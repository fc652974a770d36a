import EventFlow.Api.TriggerStore
import EventFlow.Command.Arguments
import EventFlow.Settings.Layers

/-!
# Commands

What the commands do: compile a workflow and print its triggers, and create and
delete namespaces through the trigger API. A command ends with a code, with text
on the output, and with at most one error.
-/

namespace EventFlow

/-- What a command line comes to. -/
structure Report where
  code : Nat
  output : String := ""
  error : Option String := none
deriving DecidableEq, Repr

namespace Report

/-- The code of a command line that makes no sense. -/
def usageCode : Nat := 2

/-- A failure behind an output. -/
def failed (output message : String) : Report where
  code := 1
  output
  error := some ("Error: " ++ message)

/-- The report of a result. -/
def ofResult {α : Type} : Except Failure α → Report
  | .ok _ => { code := 0 }
  | .error cause => failed "" cause.message

end Report

namespace Command

/-- The line that tells the version. -/
def versionLine : String := "triggerflow 1.0\n"

/-- A store of a mode as the settings describe it. -/
def storeOf (settings : ApiSettings) (mode : StoreMode) : Except Failure TriggerStore := do
  let credentials ← Credentials.make settings.user settings.password
  TriggerStore.connect settings.endpoint credentials mode

/-- A store that nothing leaves. -/
def dryStore : TriggerStore where
  transport := .direct
  credentials := ⟨"local", "local"⟩
  mode := .cached

/-- The triggers of a store as they are printed. -/
def listing (store : TriggerStore) : String :=
  (Json.array (store.held.map Trigger.encode)).laidOut ++ "\n"

/-- Compile the workflow of a text into a store for a namespace. -/
def compileText (settings : ApiSettings) (text space initial : String) (commit : Bool) :
    Effect TriggerStore := do
  let workflow ← Change.lift (decoded (Level.ofText text))
  let store ← Change.lift (if commit then storeOf settings .cached else .ok dryStore)
  let (_, _, store) ← (store.target space).compile {} workflow initial
  return store

/-- Compile a workflow, print its triggers, and commit them if that is wanted. -/
def runCompile (settings : ApiSettings) (text space initial : String) (commit : Bool)
    (around : Surroundings) : Report × Surroundings :=
  match (compileText settings text space initial commit).perform around with
  | (.error cause, around) => (.failed "" cause.message, around)
  | (.ok store, around) =>
    if !commit then ({ code := 0, output := listing store }, around)
    else
      match store.commit.perform around with
      | (.ok _, around) => ({ code := 0, output := listing store }, around)
      | (.error cause, around) => (.failed (listing store) cause.message, around)

/-- Create a namespace that reads its events from a subject of the message
server. -/
def create (settings : Settings) (name : String) (globalContext : Option Json)
    (subject : Option String) : Effect Unit := do
  let store ← Change.lift (storeOf settings.api .remote)
  let source : EventSource := {
    name
    location := .nats settings.server.url (subject.getD name) }
  let _ ← store.createNamespace name globalContext (some source)

/-- Delete a namespace. -/
def delete (settings : Settings) (name : String) : Effect Unit := do
  let store ← Change.lift (storeOf settings.api .remote)
  let _ ← store.deleteNamespace (some name)

/-- Perform an effect and report on it. -/
def report (effect : Effect Unit) (around : Surroundings) : Report × Surroundings :=
  let (result, around) := effect.perform around
  (.ofResult result, around)

/-- Perform a command. A namespace is deleted only on confirmation. -/
def perform (settings : Settings) (files : Settings.Files) (command : Command)
    (around : Surroundings) : Report × Surroundings :=
  match command with
  | .compile file space initial commit =>
    match files file with
    | none => (.failed "" ("Failed to read " ++ file), around)
    | some text => runCompile settings.api text space initial commit around
  | .createNamespace name none subject => report (create settings name none subject) around
  | .createNamespace name (some text) subject =>
    match Decode.text Decode.json text with
    | .error _ => (.failed "" "--global-context must be JSON", around)
    | .ok value => report (create settings name (some value) subject) around
  | .deleteNamespace name confirm =>
    if confirm then report (delete settings name) around else ({ code := 0 }, around)

end Command

namespace Invocation

/-- The names of the files that a command line may want to read. -/
def wantedFiles (invocation : Invocation) : List String :=
  Settings.variablesFile
    :: Settings.candidates (invocation.settingsFile.getD Settings.defaultFile)
    ++ (match invocation.command with
      | .compile file _ _ _ => [file]
      | _ => [])

end Invocation

namespace Command

/-- Perform a command line, given the files that can be read and the environment
variables. -/
def run (files : Settings.Files) (environment : List (String × String)) (words : List String)
    (around : Surroundings) : Report × Surroundings :=
  match Arguments.parse Plan.initialSubject words with
  | .error .version => ({ code := 0, output := versionLine }, around)
  | .error .help => ({ code := 0 }, around)
  | .error .usage => ({ code := Report.usageCode }, around)
  | .ok invocation =>
    match Settings.load files invocation.settingsFile environment with
    | .error cause => (.failed "" cause.message, around)
    | .ok settings => perform settings files invocation.command around

end Command

end EventFlow
