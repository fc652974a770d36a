import EventFlow.Json.Decode

/-!
# Namespaces and event sources

A namespace isolates a set of triggers. It has a read-only context for all of
them and one event source, which says where its events come from: a subject of a
message server, or a topic in memory.
-/

namespace EventFlow

/-- Where the events of a source come from. -/
inductive Location where
  | nats (url subject : String)
  | memory (topic : String)
deriving DecidableEq, Repr

/-- A named event source. -/
structure EventSource where
  name : String
  location : Location
deriving DecidableEq, Repr

namespace EventSource

/-- The type under which a source is stored. -/
def kind (source : EventSource) : String :=
  match source.location with
  | .nats _ _ => "nats"
  | .memory _ => "memory"

/-- A source as JSON, its fields in the order of their declaration. -/
def encode (source : EventSource) : Json :=
  let head : List (String × Json) :=
    [("name", .string source.name), ("event_source_type", .string source.kind)]
  match source.location with
  | .nats url subject => .object (head ++ [("url", .string url), ("subject", .string subject)])
  | .memory topic => .object (head ++ [("topic", .string topic)])

/-- The fields of a source as a JSON value. -/
def toFields (source : EventSource) : Dict Json :=
  source.encode.sorted.fields

/-- The two types of sources. -/
inductive Kind where
  | nats
  | memory

/-- The names of the types. -/
def kinds : List (String × Kind) :=
  [("nats", .nats), ("memory", .memory)]

/-- The type of a source: its name, or its number. -/
def kindOf : Decoder Kind := fun _ draft =>
  match draft with
  | .scalar (.ok (.string name)) _ => Decode.byName kinds name
  | .scalar (.ok (.number (.int 0))) _ => .ok .nats
  | .scalar (.ok (.number (.int 1))) _ => .ok .memory
  | .scalar (.ok (.number (.int value))) _ =>
    if value < 0 then .error (.wrongType (.number (.int value)) "variant identifier")
    else .error (.wrongValue (.number (.int value)) "variant index 0 <= i < 2")
  | other => Decode.wrongKind "variant identifier" other

/-- What is known of a source while its fields are walked: its name, and every
other field as it stands. -/
structure Partial where
  name : Option String := none
  others : List (String × Draft) := []

/-- Take up the next field of a source. -/
def field (known : Partial) (name : String) (reading : Reading) (draft : Draft) :
    Except DecodeError Partial :=
  if name = "name" then do
    let name ← Decode.once name known.name Decode.string reading draft
    .ok { known with name }
  else do
    let _ ← Decode.json reading draft
    .ok { known with others := known.others ++ [(name, draft)] }

/-- Split off the type of a source from its other fields. -/
def splitKind : Option Kind → List (String × Draft) → List (String × Draft) →
    Except DecodeError (Kind × List (String × Draft))
  | none, _, [] => .error (.missingField "event_source_type")
  | some kind, others, [] => .ok (kind, others)
  | found, others, (name, draft) :: rest =>
    if name = "event_source_type" then
      match found with
      | some _ => .error (.duplicateField name)
      | none => do
        let kind ← kindOf .value draft
        splitKind (some kind) others rest
    else splitKind found (others ++ [(name, draft)]) rest

/-- The string of the one field of that name. -/
def stringField (wanted : String) (slot : Option String) (entry : String × Draft) :
    Except DecodeError (Option String) :=
  if entry.1 = wanted then Decode.once wanted slot Decode.string .value entry.2 else .ok slot

/-- The place that a source of a type names with its fields. -/
def locationOf (kind : Kind) (fields : List (String × Draft)) : Except DecodeError Location :=
  match kind with
  | .memory => do
    let topic ← fields.foldlM (stringField "topic") none
    let topic ← Decode.required "topic" topic
    .ok (.memory topic)
  | .nats => do
    let step := fun (known : Option String × Option String) entry => do
      let url ← stringField "url" known.1 entry
      let subject ← stringField "subject" known.2 entry
      .ok (url, subject)
    let (url, subject) ← fields.foldlM step (none, none)
    let url ← Decode.required "url" url
    let subject ← Decode.required "subject" subject
    .ok (.nats url subject)

/-- Decode an event source. It is always an object. -/
def decoder : Decoder EventSource := fun reading draft => do
  let known ← Decode.fields "struct EventSource" {} field reading draft
  let name ← Decode.required "name" known.name
  let (kind, rest) ← splitKind none [] known.others
  let location ← locationOf kind rest
  .ok { name, location }

end EventSource

/-- A namespace with its context and its event source. -/
structure Namespace where
  name : String
  globalContext : Dict Json
  eventSource : Option EventSource

namespace Namespace

/-- The key under which a global context holds the name of its namespace. -/
def nameKey : String := "namespace"

/-- A namespace as JSON, its fields in the order of their declaration. -/
def encode (space : Namespace) : Json :=
  .object [
    ("name", .string space.name),
    ("global_context", .object space.globalContext),
    ("event_source",
      match space.eventSource with
      | none => .null
      | some source => source.encode)]

/-- What is known of a namespace while its fields are walked. -/
structure Partial where
  name : Option String := none
  globalContext : Option (Dict Json) := none
  eventSource : Option (Option EventSource) := none

/-- Decode the next field of a namespace. Unknown fields are passed over. -/
def field (known : Partial) (name : String) (reading : Reading) (draft : Draft) :
    Except DecodeError Partial :=
  match name with
  | "name" => do
    let name ← Decode.once name known.name Decode.string reading draft
    .ok { known with name }
  | "global_context" => do
    let globalContext ← Decode.once name known.globalContext Decode.object reading draft
    .ok { known with globalContext }
  | "event_source" => do
    let eventSource ←
      Decode.once name known.eventSource (Decode.option EventSource.decoder) reading draft
    .ok { known with eventSource }
  | _ => do
    Decode.ignore draft
    .ok known

/-- Decode a namespace from an object. -/
def ofObject : Decoder Namespace := fun reading draft => do
  let known ← Decode.fields "struct Namespace" {} field reading draft
  let name ← Decode.required "name" known.name
  .ok {
    name
    globalContext := known.globalContext.getD []
    eventSource := known.eventSource.getD none }

/-- Decode a namespace from the items of an array. -/
def ofItems (reading : Reading) (rest : Decode.Positions) :
    Except DecodeError (Namespace × Decode.Positions) := do
  let (name, rest) ←
    Decode.requiredItem 0 "struct Namespace with 3 elements" Decode.string reading rest
  let (globalContext, rest) ← Decode.nextItem Decode.object reading rest
  let (eventSource, rest) ← Decode.nextItem (Decode.option EventSource.decoder) reading rest
  .ok ({
    name
    globalContext := globalContext.getD []
    eventSource := eventSource.getD none }, rest)

/-- Decode a namespace. -/
def decoder : Decoder Namespace :=
  Decode.record "struct Namespace" ofObject ofItems

end Namespace

end EventFlow
