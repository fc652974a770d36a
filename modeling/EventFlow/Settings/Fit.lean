import EventFlow.Failure
import EventFlow.Settings.Basic
import EventFlow.Settings.Entry

/-!
# Fitting settings

An entry is fitted to what its setting holds: numbers and truth values become
texts where a text is wanted, and counts are read from texts. What does not fit
is reported with its key and with the layer it comes from.
-/

namespace EventFlow

namespace Settings

/-- The key of a named part. -/
def partKey (key name : String) : String :=
  if key.isEmpty then name else key ++ "." ++ name

/-- The key of a numbered part. -/
def itemKey (key : String) (index : Nat) : String :=
  key ++ "[" ++ toString index ++ "]"

/-- Report an entry that does not fit. -/
def misfit {α : Type} (key expected : String) (entry : Entry) : Except Failure α :=
  .error (.settings (.unfit entry.shape expected key entry.origin))

/-- An entry as a text. -/
def fitText (key : String) (entry : Entry) : Except Failure String :=
  match entry with
  | .scalar (.string value) _ => .ok value
  | .scalar (.bool value) _ => .ok (String.ofList (Json.boolChars value))
  | .scalar (.number (.int value)) _ => .ok (String.ofList (Number.intText value))
  | .scalar (.number (.double value)) _ => .ok (String.ofList (Decimal.plainText value))
  | _ => misfit key "a string" entry

/-- The count that a text names. -/
def countOfText? (text : String) : Option Nat :=
  let small := Text.lowercase text
  if ["true", "on", "yes"].contains small then some 1
  else if ["false", "off", "no"].contains small then some 0
  else
    match text.toList with
    | '-' :: _ => none
    | chars => ((Decimal.integer? chars).map Int.toNat).filter (· < UInt64.size)

/-- An entry as a count. Doubles are rounded and kept within 64 bits. -/
def fitCount (key : String) (entry : Entry) : Except Failure Nat :=
  match entry with
  | .scalar (.number (.int count)) _ =>
    if 0 ≤ count then .ok count.toNat
    else misfit key "an unsigned 64 bit or less integer" entry
  | .scalar (.number (.double count)) _ => .ok count.round.toUInt64.toNat
  | .scalar (.bool count) _ => .ok (if count then 1 else 0)
  | .scalar (.string text) _ =>
    match countOfText? text with
    | some count => .ok count
    | none => misfit key "an integer" entry
  | _ => misfit key "an integer" entry

/-- The parts of a record with their keys: fields of a table by name, or items of
a list in the order of the names. -/
def parts (key expected : String) (names : List String) (entry : Entry) :
    Except Failure (List (String × Option Entry)) :=
  match entry with
  | .table fields _ => .ok (names.map fun name => (partKey key name, Dict.get? fields name))
  | .list items _ => .ok (names.mapIdx fun index _ => (itemKey key index, items[index]?))
  | .scalar _ _ => .error (.settings (.notRecord entry.shape expected))

/-- Fit a part if it is there. -/
def fitPart {α : Type} (fit : String → Entry → Except Failure α) (default : α)
    (part : Option (String × Option Entry)) : Except Failure α :=
  match part with
  | some (key, some entry) => fit key entry
  | _ => .ok default

/-- Fit the access to the trigger API. -/
def fitApi (key : String) (entry : Entry) : Except Failure ApiSettings := do
  let parts ← parts key "struct ApiConfig" ["endpoint", "user", "password"] entry
  let standard : ApiSettings := {}
  let endpoint ← fitPart fitText standard.endpoint parts[0]?
  let user ← fitPart fitText standard.user parts[1]?
  let password ← fitPart fitText standard.password parts[2]?
  .ok { endpoint, user, password }

/-- Fit the access to the message server. -/
def fitServer (key : String) (entry : Entry) : Except Failure ServerSettings := do
  let parts ← parts key "struct NatsConfig" ["url", "bucket", "stream_prefix"] entry
  let standard : ServerSettings := {}
  let url ← fitPart fitText standard.url parts[0]?
  let bucket ← fitPart fitText standard.bucket parts[1]?
  let streamPrefix ← fitPart fitText standard.streamPrefix parts[2]?
  .ok { url, bucket, streamPrefix }

/-- Fit the pace of a worker. -/
def fitWorker (key : String) (entry : Entry) : Except Failure WorkerSettings := do
  let parts ← parts key "struct WorkerConfig"
    ["idle_backoff_ms", "refresh_every", "max_idle_polls"] entry
  let standard : WorkerSettings := {}
  let idleBackoff ← fitPart fitCount standard.idleBackoff parts[0]?
  let refreshEvery ← fitPart fitCount standard.refreshEvery parts[1]?
  let maxIdlePolls ← fitPart fitCount standard.maxIdlePolls parts[2]?
  .ok { idleBackoff, refreshEvery, maxIdlePolls }

/-- Fit all settings. -/
def fit (entry : Entry) : Except Failure Settings := do
  let parts ← parts "" "struct TriggerflowConfig" ["api", "nats", "worker", "log_level"] entry
  let standard : Settings := {}
  let api ← fitPart fitApi standard.api parts[0]?
  let server ← fitPart fitServer standard.server parts[1]?
  let worker ← fitPart fitWorker standard.worker parts[2]?
  let logLevel ← fitPart fitText standard.logLevel parts[3]?
  .ok { api, server, worker, logLevel }

end Settings

end EventFlow
