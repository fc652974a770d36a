import EventFlow.Failure
import EventFlow.Namespace

/-!
# Logs in memory

A topic is a log of payloads that only grows at its end, and the offset of the
first record that nobody has processed yet. A cursor reads one topic: it starts
at that offset and delivers one record after the other. Topics of message servers
are read in the same way.
-/

namespace EventFlow

/-- A log and how far it is processed. -/
structure Topic where
  log : List (List UInt8) := []
  committed : Nat := 0

/-- Topics by name. -/
abbrev Hub := Dict Topic

/-- A record of a log. -/
structure Record where
  offset : Nat
  payload : List UInt8

namespace Record

/-- The payload as JSON. -/
def json (record : Record) : Except Failure Json :=
  decoded (Decode.bytes Decode.json record.payload)

end Record

namespace Hub

/-- A topic; one that was never written to is empty. -/
def topic (hub : Hub) (name : String) : Topic :=
  (Dict.get? hub name).getD {}

/-- Append a payload to a topic. The result is its offset. -/
def publishRaw (hub : Hub) (name : String) (payload : List UInt8) : Nat × Hub :=
  let topic := hub.topic name
  (topic.log.length, Dict.insert hub name { topic with log := topic.log ++ [payload] })

/-- Append an event to a topic. The result is its offset. -/
def publish (hub : Hub) (name : String) (event : Json) : Nat × Hub :=
  hub.publishRaw name (Text.bytesOf event.compact)

/-- The payloads of a topic that are JSON. -/
def events (hub : Hub) (name : String) : List Json :=
  (hub.topic name).log.filterMap fun payload => (Decode.bytes Decode.json payload).toOption

/-- The offset of the first record that is not processed. -/
def committed (hub : Hub) (name : String) : Nat :=
  (hub.topic name).committed

/-- Mark the records of a topic up to the last of these offsets as processed. -/
def commit (hub : Hub) (name : String) (offsets : List Nat) : Hub :=
  match offsets.max? with
  | none => hub
  | some last =>
    let topic := hub.topic name
    Dict.insert hub name { topic with committed := max topic.committed (last + 1) }

end Hub

/-- A reader of one topic. Its position is settled with the first poll. -/
structure Cursor where
  topic : String
  position : Option Nat := none

namespace Cursor

/-- The next record, if there is one. -/
def poll (cursor : Cursor) (hub : Hub) : Option Record × Cursor :=
  let topic := hub.topic cursor.topic
  let offset := cursor.position.getD topic.committed
  match topic.log[offset]? with
  | some payload => (some ⟨offset, payload⟩, { cursor with position := some (offset + 1) })
  | none => (none, { cursor with position := some offset })

end Cursor

/-- Message servers: for a URL and a subject the topic that is read there, or why the
server cannot be reached. -/
abbrev Servers := String → String → Except String String

/-- No message server is there as long as there is no network. -/
def Servers.offline : Servers :=
  fun _ _ => .error "IO error: Network is unreachable (os error 101)"

namespace EventSource

/-- Open an event source. Topics in memory need a hub, and all others a server. -/
def open? (source : EventSource) (hasHub : Bool) (servers : Servers := .offline) :
    Except Failure Cursor :=
  match source.location with
  | .memory topic =>
    if hasHub then .ok { topic } else .error (.source (.noHub source.name))
  | .nats url subject =>
    match servers url subject with
    | .ok topic => .ok { topic }
    | .error reason => .error (.source (.unreachable reason))

end EventSource

end EventFlow
