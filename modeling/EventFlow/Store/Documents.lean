import EventFlow.Failure
import EventFlow.Trigger.Index
import EventFlow.Namespace

/-!
# Documents

What a namespace holds is kept as a few JSON documents: its global context, its
event source, all its event sources by name, its triggers by id, and the
source-events index. A namespace exists once its global context was written.
-/

namespace EventFlow

/-- The documents of every namespace, by namespace and by name. -/
abbrev Documents := Dict (Dict Json)

namespace Documents

/-! ## Names -/

/-- The document with the global context. -/
def globalContext : String := "global_context"

/-- The document with the event source that a worker reads from. -/
def eventSource : String := "event_source"

/-- The document with every event source, by name. -/
def eventSources : String := "event_sources"

/-- The document with the triggers, by id. -/
def triggers : String := "triggers"

/-- The document with the source-events index. -/
def sourceEvents : String := "source_events"

/-- The document with the status of a worker. -/
def workerStatus (worker : String) : String :=
  "worker_" ++ worker

/-! ## Access -/

/-- A document. -/
def get? (documents : Documents) (space name : String) : Option Json :=
  (Dict.get? documents space).bind (Dict.get? · name)

/-- Create or replace a document. -/
def put (documents : Documents) (space name : String) (document : Json) : Documents :=
  Dict.insert documents space
    (Dict.insert ((Dict.get? documents space).getD []) name document)

/-- Remove a document. -/
def delete (documents : Documents) (space name : String) : Documents :=
  match Dict.get? documents space with
  | none => documents
  | some held => Dict.insert documents space (Dict.erase held name)

/-- Remove a namespace with all its documents. -/
def deleteSpace (documents : Documents) (space : String) : Documents :=
  Dict.erase documents space

/-- Whether the namespace has a global context. -/
def spaceExists (documents : Documents) (space : String) : Bool :=
  (documents.get? space globalContext).isSome

/-- A document, decoded. -/
def load? {α : Type} (decoder : Decoder α) (documents : Documents) (space name : String) :
    Except Failure (Option α) :=
  match documents.get? space name with
  | none => .ok none
  | some document => (decoded (Decode.value decoder document)).map some

/-- The triggers of a namespace, by id. -/
def loadTriggers (documents : Documents) (space : String) : Except Failure (Dict Trigger) :=
  (load? (Decode.dict Trigger.decoder) documents space triggers).map (·.getD [])

/-- Triggers by id as a document. -/
def ofTriggers (stored : Dict Trigger) : Json :=
  .object (stored.map fun entry => (entry.1, entry.2.toJson))

/-- The source-events index of a namespace. -/
def loadIndex (documents : Documents) (space : String) : Except Failure SourceEvents :=
  (load? SourceEvents.decoder documents space sourceEvents).map (·.getD [])

/-- The event sources of a namespace, by name. -/
def loadSources (documents : Documents) (space : String) : Except Failure (Dict EventSource) :=
  (load? (Decode.dict EventSource.decoder) documents space eventSources).map (·.getD [])

/-- Event sources by name as a document. -/
def ofSources (sources : Dict EventSource) : Json :=
  .object (sources.map fun entry => (entry.1, .object entry.2.toFields))

section Laws

/-- What was put is found. -/
theorem get?_put_self (documents : Documents) (space name : String) (document : Json) :
    (documents.put space name document).get? space name = some document := by
  simp [put, get?]

/-- Another namespace keeps its documents when one is put. -/
theorem get?_put_of_space_ne (documents : Documents) {space other : String}
    (name wanted : String) (document : Json) (h : space ≠ other) :
    (documents.put space name document).get? other wanted = documents.get? other wanted := by
  simp [put, get?, Dict.get?_insert_of_ne _ _ h]

/-- Other documents stay when one is put. -/
theorem get?_put_of_name_ne (documents : Documents) (space : String) {name other : String}
    (document : Json) (h : name ≠ other) :
    (documents.put space name document).get? space other = documents.get? space other := by
  simp only [put, get?, Dict.get?_insert_self, Option.bind_some, Dict.get?_insert_of_ne _ _ h]
  cases Dict.get? documents space <;> simp

end Laws

end Documents

end EventFlow
