import EventFlow.Event
import EventFlow.Trigger.Vocabulary

/-!
# Triggers

A trigger waits for events, then checks a condition and performs an action, both
known by name. A submission is a trigger on its way into a store: it may lack an
id, and its context may still be any JSON value.
-/

namespace EventFlow

/-- A stored trigger. -/
structure Trigger where
  id : String
  condition : String
  action : String
  context : Dict Json
  dependencies : List EventKey
  transient : Bool

namespace Trigger

/-- The subjects that a trigger waits for, each once, in the order of its
dependencies. -/
def subjects (trigger : Trigger) : List String :=
  trigger.dependencies.foldl
    (fun found key => if found.contains key.subject then found else found ++ [key.subject]) []

/-- A trigger as JSON, its fields in the order of their declaration. -/
def encode (trigger : Trigger) : Json :=
  .object [
    ("trigger_id", .string trigger.id),
    ("condition", .string trigger.condition),
    ("action", .string trigger.action),
    ("context", .object trigger.context),
    ("depends_on_events", .array (trigger.dependencies.map EventKey.encode)),
    ("transient", .bool trigger.transient)]

/-- A trigger as a JSON value. -/
def toJson (trigger : Trigger) : Json :=
  trigger.encode.sorted

/-- What is known of a trigger while its fields are walked. -/
structure Partial where
  id : Option String := none
  condition : Option String := none
  action : Option String := none
  context : Option (Dict Json) := none
  dependencies : Option (List EventKey) := none
  transient : Option Bool := none

/-- Decode the next field of a trigger. Unknown fields are passed over. -/
def field (known : Partial) (name : String) (reading : Reading) (draft : Draft) :
    Except DecodeError Partial :=
  match name with
  | "trigger_id" => do
    let id ← Decode.once name known.id Decode.string reading draft
    .ok { known with id }
  | "condition" => do
    let condition ← Decode.once name known.condition Decode.string reading draft
    .ok { known with condition }
  | "action" => do
    let action ← Decode.once name known.action Decode.string reading draft
    .ok { known with action }
  | "context" => do
    let context ← Decode.once name known.context Decode.object reading draft
    .ok { known with context }
  | "depends_on_events" => do
    let dependencies ←
      Decode.once name known.dependencies (Decode.list EventKey.decoder) reading draft
    .ok { known with dependencies }
  | "transient" => do
    let transient ← Decode.once name known.transient Decode.bool reading draft
    .ok { known with transient }
  | _ => do
    Decode.ignore draft
    .ok known

/-- Decode a trigger from an object. Without a context it has an empty one, and
it is persistent unless it says otherwise. -/
def ofObject : Decoder Trigger := fun reading draft => do
  let known ← Decode.fields "struct Trigger" {} field reading draft
  let id ← Decode.required "trigger_id" known.id
  let condition ← Decode.required "condition" known.condition
  let action ← Decode.required "action" known.action
  let dependencies ← Decode.required "depends_on_events" known.dependencies
  .ok {
    id, condition, action, dependencies
    context := known.context.getD []
    transient := known.transient.getD false }

/-- Decode a trigger from the items of an array. -/
def ofItems (reading : Reading) (rest : Decode.Positions) :
    Except DecodeError (Trigger × Decode.Positions) := do
  let expected := "struct Trigger with 6 elements"
  let (id, rest) ← Decode.requiredItem 0 expected Decode.string reading rest
  let (condition, rest) ← Decode.requiredItem 1 expected Decode.string reading rest
  let (action, rest) ← Decode.requiredItem 2 expected Decode.string reading rest
  let (context, rest) ← Decode.nextItem Decode.object reading rest
  let (dependencies, rest) ←
    Decode.requiredItem 4 expected (Decode.list EventKey.decoder) reading rest
  let (transient, rest) ← Decode.nextItem Decode.bool reading rest
  .ok ({
    id, condition, action, dependencies
    context := context.getD []
    transient := transient.getD false }, rest)

/-- Decode a trigger. -/
def decoder : Decoder Trigger :=
  Decode.record "struct Trigger" ofObject ofItems

end Trigger

/-- A trigger as it is handed in. -/
structure Submission where
  dependencies : List EventKey
  condition : String
  action : String
  context : Json
  transient : Bool
  id : Option String

namespace Submission

/-- A submission that waits for these events: transient, without a name, with
nothing to check and nothing to do. -/
def waitingFor (dependencies : List EventKey) : Submission where
  dependencies
  condition := Vocabulary.holds
  action := Vocabulary.pass
  context := .object []
  transient := true
  id := none

/-- The submission as a persistent trigger of that name. -/
def persistent (submission : Submission) (id : String) : Submission :=
  { submission with transient := false, id := some id }

/-- The trigger of a submission, once its id and its context are settled. -/
def toTrigger (submission : Submission) (id : String) (context : Dict Json) : Trigger where
  id
  condition := submission.condition
  action := submission.action
  context
  dependencies := submission.dependencies
  transient := submission.transient

end Submission

end EventFlow
