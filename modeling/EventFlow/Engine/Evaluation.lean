import EventFlow.Event
import EventFlow.Json.Path

/-!
# Evaluations

What the condition and the action of a trigger see and may change: one object of
data, a list of events to be published, and the wish that the worker stops.
-/

namespace EventFlow

/-- The evaluation of a trigger. -/
structure Evaluation where
  trigger : String
  data : Dict Json
  outbox : List Json := []
  terminate : Bool := false

namespace Evaluation

/-! ## Keys of the running worker -/

/-- The events received for the subjects that the trigger waits for. -/
def eventsKey : String := "events"

/-- The source-events index. -/
def sourceEventsKey : String := "source_events"

/-- The trigger itself. -/
def triggerKey : String := "trigger"

/-- What the trigger waits for. -/
def dependenciesKey : String := "depends_on_events"

/-- The id of the trigger. -/
def triggerIdKey : String := "trigger_id"

/-- The event source of the namespace. -/
def eventSourceKey : String := "event_source"

/-- The keys that the worker sets for every evaluation. -/
def runtimeKeys : List String :=
  [eventsKey, sourceEventsKey, triggerKey, dependenciesKey, triggerIdKey, eventSourceKey]

/-! ## Reading -/

/-- The value of a key. -/
def get? (context : Evaluation) (key : String) : Option Json :=
  Dict.get? context.data key

/-- The subject under which the trigger announces its completion. -/
def subject? (context : Evaluation) : Option String :=
  (context.get? "subject").bind Json.asString?

/-- What the trigger waits for, as far as the data tells. -/
def dependencies (context : Evaluation) : List EventKey :=
  match context.get? dependenciesKey with
  | none => []
  | some value => ((Decode.value (Decode.list EventKey.decoder) value).toOption).getD []

/-- The latest event of a key among those received. -/
def latest? (context : Evaluation) (key : EventKey) : Option Json := do
  let events ← context.get? eventsKey
  let received ← (← events.get? key.subject).asArray?
  received.reverse.find? key.isKeyOf

/-- What a state works on: the data of the event, or, for a join, the data of
the latest event of each dependency. -/
def input (context : Evaluation) (event : Json) : Json :=
  match context.dependencies with
  | [] => eventData event
  | [_] => eventData event
  | dependencies =>
    .array (dependencies.map fun key =>
      match context.latest? key with
      | some received => eventData received
      | none => .null)

/-! ## Changing -/

/-- Give a key a value. -/
def set (context : Evaluation) (key : String) (value : Json) : Evaluation :=
  { context with data := Dict.insert context.data key value }

/-- Put an event into the outbox. -/
def emit (context : Evaluation) (event : Json) : Evaluation :=
  { context with outbox := context.outbox ++ [event] }

/-- Ask that the worker stops. -/
def requestTermination (context : Evaluation) : Evaluation :=
  { context with terminate := true }

/-- Empty the outbox. -/
def withoutOutbox (context : Evaluation) : Evaluation :=
  { context with outbox := [] }

end Evaluation

end EventFlow
