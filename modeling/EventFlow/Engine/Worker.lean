import EventFlow.Engine.Registry
import EventFlow.Settings.Basic

/-!
# Workers

A worker runs the triggers of one namespace. It holds a working copy of them,
reads events from the namespace's event source one at a time, and evaluates each
trigger that waits for the event's subject once all its dependencies have
arrived. Fired triggers change their own context; transient ones are taken out.
A run ends by termination, by cancellation or after a number of empty polls.
-/

namespace EventFlow

/-- The life of a worker. -/
inductive Lifecycle where
  | initialized
  | running
  | finished
deriving DecidableEq, Repr

namespace Lifecycle

/-- The stages by name. -/
def named : List (String × Lifecycle) :=
  [("Initialized", .initialized), ("Running", .running), ("Finished", .finished)]

/-- The name of a stage. -/
def name : Lifecycle → String
  | .initialized => "Initialized"
  | .running => "Running"
  | .finished => "Finished"

/-- Decode a stage. -/
def decoder : Decoder Lifecycle :=
  Decode.choice named

end Lifecycle

/-- What a worker counts. -/
structure Tally where
  eventsProcessed : Nat := 0
  triggersFired : Nat := 0
  handlerFailures : Nat := 0
  unexpectedEvents : Nat := 0
deriving DecidableEq, Repr

/-- A worker. -/
structure Worker where
  id : String
  space : String
  registry : Registry := Registry.builtin
  settings : WorkerSettings := {}
  /-- Whether topics in memory can be read from. -/
  hasHub : Bool := false
  lifecycle : Lifecycle := .initialized
  globalContext : Dict Json := []
  eventSource : Option EventSource := none
  /-- The working copy. -/
  triggers : Dict Trigger := []
  sourceEvents : SourceEvents := []
  /-- The ids of the transient triggers that have fired. -/
  retired : List String := []
  /-- The events received for each subject, in the order of their arrival. -/
  received : Dict (List Json) := []
  /-- How often each trigger was evaluated. -/
  activations : Dict Nat := []
  tally : Tally := {}

namespace Worker

/-! ## Status -/

/-- The status of a worker as JSON. -/
def status (worker : Worker) : Dict Json := [
  ("events_processed", .nat worker.tally.eventsProcessed),
  ("handler_failures", .nat worker.tally.handlerFailures),
  ("namespace", .string worker.space),
  ("triggers_fired", .nat worker.tally.triggersFired),
  ("unexpected_events", .nat worker.tally.unexpectedEvents)]

/-! ## The working copy -/

/-- Take up a stored trigger that is neither retired nor known. -/
def takeUp (worker : Worker) (triggers : Dict Trigger) (entry : String × Trigger) : Dict Trigger :=
  if worker.retired.contains entry.1 || Dict.contains triggers entry.1 then triggers
  else Dict.insert triggers entry.1 entry.2

/-- What remains of a stored index for the working copy. -/
def liveIndex (triggers : Dict Trigger) (stored : SourceEvents) : SourceEvents :=
  stored.filterMap fun entry =>
    let live := entry.2.filter (Dict.contains triggers)
    if live.isEmpty then none else some (entry.1, live)

/-- The stored index restricted to the working copy, and completed by the
triggers that it misses, in ascending order of their ids. -/
def rebuildIndex (triggers : Dict Trigger) (stored : SourceEvents) : SourceEvents :=
  (triggers.map Prod.snd).foldl SourceEvents.add (liveIndex triggers stored)

/-- Load the stored triggers that are not in the working copy. When there are
any, the index is loaded and rebuilt as well. -/
def refresh (worker : Worker) (documents : Documents) : Except Failure Unit × Worker :=
  match documents.loadTriggers worker.space with
  | .error cause => (.error cause, worker)
  | .ok stored =>
    let triggers := stored.foldl worker.takeUp worker.triggers
    if triggers.length = worker.triggers.length then (.ok (), worker)
    else
      match documents.loadIndex worker.space with
      | .error cause => (.error cause, { worker with triggers })
      | .ok index =>
        (.ok (), { worker with triggers, sourceEvents := rebuildIndex triggers index })

/-- The global context of a namespace. It always has the namespace's name. -/
def loadGlobalContext (documents : Documents) (space : String) : Except Failure (Dict Json) :=
  match documents.load? Decode.object space Documents.globalContext with
  | .error cause => .error cause
  | .ok none => .error (.missing (.space space))
  | .ok (some fields) =>
    if Dict.contains fields Namespace.nameKey then .ok fields
    else .ok (Dict.insert fields Namespace.nameKey (.string space))

/-- The event source of a namespace. -/
def loadSource (documents : Documents) (space : String) : Except Failure EventSource :=
  match documents.load? EventSource.decoder space Documents.eventSource with
  | .error cause => .error cause
  | .ok none => .error (.settings (.noNamespaceSource space))
  | .ok (some source) => .ok source

/-- Load the namespace: its global context, its event source and its
triggers. -/
def bootstrap (worker : Worker) (documents : Documents) : Except Failure EventSource × Worker :=
  match loadGlobalContext documents worker.space with
  | .error cause => (.error cause, worker)
  | .ok globalContext =>
    let worker := { worker with globalContext }
    match loadSource documents worker.space with
    | .error cause => (.error cause, worker)
    | .ok source =>
      let (result, worker) := { worker with eventSource := some source }.refresh documents
      (result.map fun _ => source, worker)

/-! ## Joins -/

/-- How many received events match a key. -/
def arrivals (worker : Worker) (key : EventKey) : Nat :=
  (((Dict.get? worker.received key.subject).getD []).filter key.isKeyOf).length

/-- The key of a trigger's context that selects the way of joining. -/
def joinKey : String := "join"

/-- Whether a trigger is evaluated on any of its dependencies. -/
def joinsAny (trigger : Trigger) : Bool :=
  (Dict.get? trigger.context joinKey).bind Json.asString? == some "any"

/-- How often the dependencies of a trigger have been complete so far. -/
def available (worker : Worker) (trigger : Trigger) : Nat :=
  let counts := trigger.dependencies.map worker.arrivals
  if joinsAny trigger then counts.foldr (· + ·) 0 else counts.min?.getD 0

/-- How often a trigger was evaluated. -/
def consumed (worker : Worker) (id : String) : Nat :=
  (Dict.get? worker.activations id).getD 0

/-- Whether a trigger has complete dependencies that it was not evaluated on. -/
def isReady (worker : Worker) (trigger : Trigger) : Bool :=
  worker.available trigger > worker.consumed trigger.id

/-- Count an evaluation. -/
def activate (worker : Worker) (id : String) : Worker :=
  { worker with activations := Dict.insert worker.activations id (worker.consumed id + 1) }

/-! ## Evaluations -/

/-- The received events for the subjects that a trigger waits for. -/
def relevantEvents (worker : Worker) (trigger : Trigger) : Dict Json :=
  trigger.subjects.foldl (fun events subject =>
    match Dict.get? worker.received subject with
    | some received => Dict.insert events subject (.array received)
    | none => events) []

/-- The entries that the worker adds to every evaluation of a trigger. -/
def runtimeData (worker : Worker) (trigger : Trigger) : Dict Json :=
  Dict.ofList (
    (match worker.eventSource with
      | some source => [(Evaluation.eventSourceKey, Json.object source.toFields)]
      | none => [])
    ++ [
      (Evaluation.eventsKey, .object (worker.relevantEvents trigger)),
      (Evaluation.sourceEventsKey, SourceEvents.toJson worker.sourceEvents),
      (Evaluation.triggerKey, trigger.toJson),
      (Evaluation.dependenciesKey,
        .array (trigger.dependencies.map EventKey.encode)),
      (Evaluation.triggerIdKey, .string trigger.id)])

/-- The evaluation of a trigger: its context, over it the global context, and
over that what the worker adds. -/
def evaluation (worker : Worker) (trigger : Trigger) : Evaluation where
  trigger := trigger.id
  data := Dict.overlay (Dict.overlay trigger.context worker.globalContext)
    (worker.runtimeData trigger)

/-- The entries of an evaluation that belong to the trigger itself. -/
def ownData (worker : Worker) (data : Dict Json) : Dict Json :=
  data.filter fun entry =>
    !(Evaluation.runtimeKeys.contains entry.1 || Dict.contains worker.globalContext entry.1)

/-- Keep what an evaluation has put into the context of a trigger. -/
def writeBack (worker : Worker) (id : String) (data : Dict Json) : Worker :=
  match Dict.get? worker.triggers id with
  | none => worker
  | some trigger =>
    let context := Dict.overlay trigger.context (worker.ownData data)
    { worker with triggers := Dict.insert worker.triggers id { trigger with context } }

/-- Take a trigger out of the working copy for good. -/
def retire (worker : Worker) (trigger : Trigger) : Worker :=
  { worker with
    triggers := Dict.erase worker.triggers trigger.id
    sourceEvents := SourceEvents.remove worker.sourceEvents trigger
    retired := trigger.id :: worker.retired }

/-- Delete a trigger from the documents of a namespace, as far as they can be
read. -/
def forget (documents : Documents) (space : String) (trigger : Trigger) : Documents :=
  match documents.loadTriggers space with
  | .error _ => documents
  | .ok stored =>
    let documents :=
      if Dict.contains stored trigger.id then
        documents.put space Documents.triggers
          (Documents.ofTriggers (Dict.erase stored trigger.id))
      else documents
    match documents.load? SourceEvents.decoder space Documents.sourceEvents with
    | .ok (some index) =>
      documents.put space Documents.sourceEvents
        (SourceEvents.toJson (SourceEvents.remove index trigger))
    | _ => documents

/-- What comes of a trigger whose turn it was. -/
structure Firing where
  /-- Whether its action was performed. -/
  result : Except Failure Bool
  worker : Worker
  around : Surroundings
  /-- The events to be published. -/
  outbox : List Json := []

/-- Settle a trigger whose action was performed. -/
def settle (worker : Worker) (id : String) (trigger : Trigger) (done : Handled Unit) : Firing :=
  let worker :=
    if done.context.terminate then { worker with lifecycle := .finished } else worker
  let worker := worker.writeBack id done.context.data
  let outbox := done.context.outbox
  if trigger.transient then
    { result := .ok true
      worker := worker.retire trigger
      around := { done.around with
        documents := forget done.around.documents worker.space trigger }
      outbox }
  else { result := .ok true, worker, around := done.around, outbox }

/-- Check the condition of a trigger and perform its action if it holds. -/
def evaluate (worker : Worker) (id : String) (trigger : Trigger) (event : Json)
    (around : Surroundings) : Firing :=
  match worker.registry.condition trigger.condition, worker.registry.action trigger.action with
  | .error cause, _ => { result := .error cause, worker, around }
  | .ok _, .error cause => { result := .error cause, worker, around }
  | .ok condition, .ok action =>
    let judged := condition (worker.evaluation trigger) event around
    match judged.result with
    | .error cause => { result := .error cause, worker, around := judged.around }
    | .ok false => { result := .ok false, worker, around := judged.around }
    | .ok true =>
      let done := action judged.context event judged.around
      match done.result with
      | .error cause => { result := .error cause, worker, around := done.around }
      | .ok () => worker.settle id trigger done

/-- Give a waiting trigger its turn: it is evaluated if it is in the working copy
and ready. -/
def fire (worker : Worker) (id : String) (event : Json) (around : Surroundings) : Firing :=
  match Dict.get? worker.triggers id with
  | none => { result := .ok false, worker, around }
  | some trigger =>
    if worker.isReady trigger then (worker.activate id).evaluate id trigger event around
    else { result := .ok false, worker, around }

/-! ## Records -/

/-- Count what came of a trigger. -/
def count (tally : Tally) : Except Failure Bool → Tally
  | .ok true => { tally with triggersFired := tally.triggersFired + 1 }
  | .ok false => tally
  | .error _ => { tally with handlerFailures := tally.handlerFailures + 1 }

/-- A worker in the middle of an event: its surroundings, and the events to be
published so far. -/
structure Scene where
  worker : Worker
  around : Surroundings
  outbox : List Json := []

/-- Give the triggers of a list their turns. -/
def fireAll (event : Json) : List String → Scene → Scene
  | [], scene => scene
  | id :: rest, scene =>
    let firing := scene.worker.fire id event scene.around
    fireAll event rest {
      worker := { firing.worker with tally := count firing.worker.tally firing.result }
      around := firing.around
      outbox := scene.outbox ++ firing.outbox }

/-- Keep an event with the others of its subject. -/
def receive (worker : Worker) (key : EventKey) (event : Json) : Worker :=
  let earlier := (Dict.get? worker.received key.subject).getD []
  { worker with received := Dict.insert worker.received key.subject (earlier ++ [event]) }

/-- Count an event that nobody waits for. -/
def countUnexpected (worker : Worker) : Worker :=
  { worker with
    tally := { worker.tally with unexpectedEvents := worker.tally.unexpectedEvents + 1 } }

/-- Receive an event and give every trigger that waits for its subject a
turn. -/
def dispatch (worker : Worker) (key : EventKey) (event : Json) (around : Surroundings) : Scene :=
  let worker := worker.receive key event
  match Dict.get? worker.sourceEvents key.subject with
  | none => { worker := worker.countUnexpected, around }
  | some waiting => fireAll event waiting { worker, around }

/-- Count a record. -/
def countRecord (worker : Worker) : Worker :=
  { worker with
    tally := { worker.tally with eventsProcessed := worker.tally.eventsProcessed + 1 } }

/-- Dispatch the event of a record. A record that holds none is passed over. -/
def consume (worker : Worker) (record : Record) (around : Surroundings) : Scene :=
  let worker := worker.countRecord
  match record.json with
  | .error _ => { worker, around }
  | .ok event =>
    match EventKey.ofRaw? event with
    | none => { worker, around }
    | some key => worker.dispatch key event around

/-- Append events to a topic. -/
def publishAll (hub : Hub) (topic : String) (events : List Json) : Hub :=
  events.foldl (fun hub event => (hub.publish topic event).2) hub

/-- Process a record of a topic: dispatch its event, publish what the fired
triggers have emitted, and mark the record as processed. -/
def process (worker : Worker) (topic : String) (record : Record) (around : Surroundings) :
    Worker × Surroundings :=
  let scene := worker.consume record around
  let hub := publishAll scene.around.hub topic scene.outbox
  (scene.worker, { scene.around with hub := hub.commit topic [record.offset] })

/-! ## Runs -/

/-- A worker between two polls. -/
structure Running where
  worker : Worker
  around : Surroundings
  cursor : Cursor
  polls : Nat := 0
  idlePolls : Nat := 0

namespace Running

/-- Whether the run is to end before the next poll. -/
def isOver (run : Running) : Bool :=
  run.worker.lifecycle ≠ .running || run.around.cancelled

/-- Load triggers again if it is time to. A failure to do so is passed over. -/
def refreshed (run : Running) : Running :=
  let polls := run.polls + 1
  let every := run.worker.settings.refreshEvery
  if every > 0 ∧ polls % every = 0 then
    { run with polls, worker := (run.worker.refresh run.around.documents).2 }
  else { run with polls }

/-- Poll once and process what comes. The result is the run after it, and
whether it goes on. -/
def poll (run : Running) : Running × Bool :=
  match run.cursor.poll run.around.hub with
  | (some record, cursor) =>
    let (worker, around) := run.worker.process cursor.topic record run.around
    ({ run with worker, around, cursor, idlePolls := 0 }, true)
  | (none, cursor) =>
    let idlePolls := run.idlePolls + 1
    let limit := run.worker.settings.maxIdlePolls
    ({ run with cursor, idlePolls }, !(limit > 0 && idlePolls ≥ limit))

/-- Poll until the run ends; nothing if the fuel is used up before. -/
def toEnd : Nat → Running → Option Running
  | 0, _ => none
  | fuel + 1, run =>
    if run.isOver then some run
    else
      match run.refreshed.poll with
      | (run, true) => toEnd fuel run
      | (run, false) => some run

end Running

/-- What a run comes to. -/
structure Outcome where
  result : Except Failure Unit
  worker : Worker
  around : Surroundings

/-- Load the namespace, open its event source and poll it to the end. -/
def start (worker : Worker) (fuel : Nat) (around : Surroundings) : Option Outcome :=
  let (source, worker) := worker.bootstrap around.documents
  match source with
  | .error cause => some { result := .error cause, worker, around }
  | .ok source =>
    match source.open? worker.hasHub around.servers with
    | .error cause => some { result := .error cause, worker, around }
    | .ok cursor =>
      (Running.toEnd fuel { worker, around, cursor }).map fun run =>
        { result := .ok (), worker := run.worker, around := run.around }

/-- Write the status of a worker into the documents of its namespace. -/
def saveStatus (worker : Worker) (documents : Documents) : Documents :=
  documents.put worker.space (Documents.workerStatus worker.id)
    (.object (Dict.insert worker.status "worker_id" (.string worker.id)))

/-- Run a worker to its end and write its status. A worker runs only once.
Nothing comes of a run that does not end within the fuel. -/
def run (worker : Worker) (fuel : Nat) (around : Surroundings) : Option Outcome :=
  if worker.lifecycle ≠ .initialized then
    some { result := .error (.rejected (.secondRun worker.id)), worker, around }
  else do
    let outcome ← { worker with lifecycle := .running }.start fuel around
    let worker := { outcome.worker with lifecycle := .finished }
    some {
      result := outcome.result
      worker
      around := { outcome.around with
        documents := worker.saveStatus outcome.around.documents } }

end Worker

end EventFlow
