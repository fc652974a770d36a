import EventFlow.Json.Decode

/-!
# Events

An event on the wire is a JSON object. Only its subject and its type take part
in matching; together they are the key by which triggers wait for it.
-/

namespace EventFlow

/-- What a trigger waits for: a subject and a type. -/
structure EventKey where
  subject : String
  kind : String
deriving DecidableEq, Repr

namespace EventKey

/-- The type of an event that announces a completion. -/
def completionKind : String := "termination.event.success"

/-- The completion of a subject. -/
def completion (subject : String) : EventKey :=
  ⟨subject, completionKind⟩

/-- The key of a raw event, if it has a subject and a type that are strings. -/
def ofRaw? (raw : Json) : Option EventKey := do
  let subject ← (← raw.get? "subject").asString?
  let kind ← (← raw.get? "type").asString?
  some ⟨subject, kind⟩

/-- The text of a string field of a raw event. -/
def rawField? (raw : Json) (name : String) : Option String :=
  (raw.get? name).bind Json.asString?

/-- Whether a raw event has this subject and this type. -/
def isKeyOf (key : EventKey) (raw : Json) : Bool :=
  rawField? raw "subject" == some key.subject && rawField? raw "type" == some key.kind

/-- The raw event of this key that carries the data. -/
def toRaw (key : EventKey) (data : Json) : Json :=
  .object [("data", data), ("subject", .string key.subject), ("type", .string key.kind)]

/-- An event key as JSON, its fields in the order of their declaration. -/
def encode (key : EventKey) : Json :=
  .object [("subject", .string key.subject), ("type", .string key.kind)]

/-- What is known of an event key while its fields are walked. -/
structure Partial where
  subject : Option String := none
  kind : Option String := none

/-- Decode the next field of an event key. Unknown fields are passed over. -/
def field (known : Partial) (name : String) (reading : Reading) (draft : Draft) :
    Except DecodeError Partial :=
  match name with
  | "subject" => do
    let subject ← Decode.once name known.subject Decode.string reading draft
    .ok { known with subject }
  | "type" => do
    let kind ← Decode.once name known.kind Decode.string reading draft
    .ok { known with kind }
  | _ => do
    Decode.ignore draft
    .ok known

/-- Decode an event key from an object. -/
def ofObject : Decoder EventKey := fun reading draft => do
  let known ← Decode.fields "struct CloudEvent" {} field reading draft
  let subject ← Decode.required "subject" known.subject
  let kind ← Decode.required "type" known.kind
  .ok ⟨subject, kind⟩

/-- Decode an event key from the items of an array. -/
def ofItems (reading : Reading) (rest : Decode.Positions) :
    Except DecodeError (EventKey × Decode.Positions) := do
  let expected := "struct CloudEvent with 2 elements"
  let (subject, rest) ← Decode.requiredItem 0 expected Decode.string reading rest
  let (kind, rest) ← Decode.requiredItem 1 expected Decode.string reading rest
  .ok (⟨subject, kind⟩, rest)

/-- Decode an event key. -/
def decoder : Decoder EventKey :=
  Decode.record "struct CloudEvent" ofObject ofItems

end EventKey

/-- The data of a raw event, null if there is none. -/
def eventData (raw : Json) : Json :=
  (raw.get? "data").getD .null

end EventFlow
