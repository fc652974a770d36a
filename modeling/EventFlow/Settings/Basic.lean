import EventFlow.Json.Decode

/-!
# Settings

What the programs can be told: where the trigger API and the message server are,
how a worker paces itself, and how much is logged. Every setting has a default.
-/

namespace EventFlow

/-- Access to the trigger API. -/
structure ApiSettings where
  endpoint : String := "http://127.0.0.1:8080"
  user : String := ""
  password : String := ""
deriving DecidableEq

/-- Access to the message server. -/
structure ServerSettings where
  url : String := "nats://localhost:4222"
  bucket : String := "triggerflow"
  streamPrefix : String := "TRIGGERFLOW"
deriving DecidableEq

/-- The pace of a worker. -/
structure WorkerSettings where
  /-- How many milliseconds to pause after an empty poll. -/
  idleBackoff : Nat := 100
  /-- After how many polls triggers are loaded again; zero means never. -/
  refreshEvery : Nat := 50
  /-- After how many empty polls in a row to stop; zero means never. -/
  maxIdlePolls : Nat := 0
deriving DecidableEq

/-- All settings. -/
structure Settings where
  api : ApiSettings := {}
  server : ServerSettings := {}
  worker : WorkerSettings := {}
  logLevel : String := "info"
deriving DecidableEq

/-! ## Writing -/

namespace ApiSettings

/-- The settings as JSON, in the order of their declaration. -/
def encode (settings : ApiSettings) : Json :=
  .object [
    ("endpoint", .string settings.endpoint),
    ("user", .string settings.user),
    ("password", .string settings.password)]

end ApiSettings

namespace ServerSettings

/-- The settings as JSON, in the order of their declaration. -/
def encode (settings : ServerSettings) : Json :=
  .object [
    ("url", .string settings.url),
    ("bucket", .string settings.bucket),
    ("stream_prefix", .string settings.streamPrefix)]

end ServerSettings

namespace WorkerSettings

/-- The settings as JSON, in the order of their declaration. -/
def encode (settings : WorkerSettings) : Json :=
  .object [
    ("idle_backoff_ms", .nat settings.idleBackoff),
    ("refresh_every", .nat settings.refreshEvery),
    ("max_idle_polls", .nat settings.maxIdlePolls)]

end WorkerSettings

namespace Settings

/-- The settings as JSON, in the order of their declaration. -/
def encode (settings : Settings) : Json :=
  .object [
    ("api", settings.api.encode),
    ("nats", settings.server.encode),
    ("worker", settings.worker.encode),
    ("log_level", .string settings.logLevel)]

end Settings

/-! ## Decoding -/

namespace ApiSettings

/-- What is known of the settings while their fields are walked. -/
structure Partial where
  endpoint : Option String := none
  user : Option String := none
  password : Option String := none

/-- The settings, with defaults for what is not known. -/
def Partial.settled (known : Partial) : ApiSettings where
  endpoint := known.endpoint.getD ({} : ApiSettings).endpoint
  user := known.user.getD ({} : ApiSettings).user
  password := known.password.getD ({} : ApiSettings).password

/-- Decode the next field, given a way to decode texts. -/
def field (text : Decoder String) (known : Partial) (name : String) (reading : Reading)
    (draft : Draft) : Except DecodeError Partial :=
  match name with
  | "endpoint" => do
    let endpoint ← Decode.once name known.endpoint text reading draft
    .ok { known with endpoint }
  | "user" => do
    let user ← Decode.once name known.user text reading draft
    .ok { known with user }
  | "password" => do
    let password ← Decode.once name known.password text reading draft
    .ok { known with password }
  | _ => do
    Decode.ignore draft
    .ok known

/-- Decode the settings from the items of an array. -/
def ofItems (text : Decoder String) (reading : Reading) (rest : Decode.Positions) :
    Except DecodeError (ApiSettings × Decode.Positions) := do
  let (endpoint, rest) ← Decode.nextItem text reading rest
  let (user, rest) ← Decode.nextItem text reading rest
  let (password, rest) ← Decode.nextItem text reading rest
  .ok ((Partial.mk endpoint user password).settled, rest)

/-- Decode the settings, given a way to decode texts. -/
def decoderWith (text : Decoder String) : Decoder ApiSettings :=
  Decode.record "struct ApiConfig"
    (fun reading draft =>
      (Decode.fields "struct ApiConfig" {} (field text) reading draft).map Partial.settled)
    (ofItems text)

end ApiSettings

namespace ServerSettings

/-- What is known of the settings while their fields are walked. -/
structure Partial where
  url : Option String := none
  bucket : Option String := none
  streamPrefix : Option String := none

/-- The settings, with defaults for what is not known. -/
def Partial.settled (known : Partial) : ServerSettings where
  url := known.url.getD ({} : ServerSettings).url
  bucket := known.bucket.getD ({} : ServerSettings).bucket
  streamPrefix := known.streamPrefix.getD ({} : ServerSettings).streamPrefix

/-- Decode the next field, given a way to decode texts. -/
def field (text : Decoder String) (known : Partial) (name : String) (reading : Reading)
    (draft : Draft) : Except DecodeError Partial :=
  match name with
  | "url" => do
    let url ← Decode.once name known.url text reading draft
    .ok { known with url }
  | "bucket" => do
    let bucket ← Decode.once name known.bucket text reading draft
    .ok { known with bucket }
  | "stream_prefix" => do
    let streamPrefix ← Decode.once name known.streamPrefix text reading draft
    .ok { known with streamPrefix }
  | _ => do
    Decode.ignore draft
    .ok known

/-- Decode the settings from the items of an array. -/
def ofItems (text : Decoder String) (reading : Reading) (rest : Decode.Positions) :
    Except DecodeError (ServerSettings × Decode.Positions) := do
  let (url, rest) ← Decode.nextItem text reading rest
  let (bucket, rest) ← Decode.nextItem text reading rest
  let (streamPrefix, rest) ← Decode.nextItem text reading rest
  .ok ((Partial.mk url bucket streamPrefix).settled, rest)

/-- Decode the settings, given a way to decode texts. -/
def decoderWith (text : Decoder String) : Decoder ServerSettings :=
  Decode.record "struct NatsConfig"
    (fun reading draft =>
      (Decode.fields "struct NatsConfig" {} (field text) reading draft).map Partial.settled)
    (ofItems text)

end ServerSettings

namespace WorkerSettings

/-- What is known of the settings while their fields are walked. -/
structure Partial where
  idleBackoff : Option Nat := none
  refreshEvery : Option Nat := none
  maxIdlePolls : Option Nat := none

/-- The settings, with defaults for what is not known. -/
def Partial.settled (known : Partial) : WorkerSettings where
  idleBackoff := known.idleBackoff.getD ({} : WorkerSettings).idleBackoff
  refreshEvery := known.refreshEvery.getD ({} : WorkerSettings).refreshEvery
  maxIdlePolls := known.maxIdlePolls.getD ({} : WorkerSettings).maxIdlePolls

/-- Decode the next field, given a way to decode counts. -/
def field (count : Decoder Nat) (known : Partial) (name : String) (reading : Reading)
    (draft : Draft) : Except DecodeError Partial :=
  match name with
  | "idle_backoff_ms" => do
    let idleBackoff ← Decode.once name known.idleBackoff count reading draft
    .ok { known with idleBackoff }
  | "refresh_every" => do
    let refreshEvery ← Decode.once name known.refreshEvery count reading draft
    .ok { known with refreshEvery }
  | "max_idle_polls" => do
    let maxIdlePolls ← Decode.once name known.maxIdlePolls count reading draft
    .ok { known with maxIdlePolls }
  | _ => do
    Decode.ignore draft
    .ok known

/-- Decode the settings from the items of an array. -/
def ofItems (count : Decoder Nat) (reading : Reading) (rest : Decode.Positions) :
    Except DecodeError (WorkerSettings × Decode.Positions) := do
  let (idleBackoff, rest) ← Decode.nextItem count reading rest
  let (refreshEvery, rest) ← Decode.nextItem count reading rest
  let (maxIdlePolls, rest) ← Decode.nextItem count reading rest
  .ok ((Partial.mk idleBackoff refreshEvery maxIdlePolls).settled, rest)

/-- Decode the settings, given a way to decode counts. -/
def decoderWith (count : Decoder Nat) : Decoder WorkerSettings :=
  Decode.record "struct WorkerConfig"
    (fun reading draft =>
      (Decode.fields "struct WorkerConfig" {} (field count) reading draft).map Partial.settled)
    (ofItems count)

end WorkerSettings

namespace Settings

/-- What is known of the settings while their fields are walked. -/
structure Partial where
  api : Option ApiSettings := none
  server : Option ServerSettings := none
  worker : Option WorkerSettings := none
  logLevel : Option String := none

/-- The settings, with defaults for what is not known. -/
def Partial.settled (known : Partial) : Settings where
  api := known.api.getD {}
  server := known.server.getD {}
  worker := known.worker.getD {}
  logLevel := known.logLevel.getD ({} : Settings).logLevel

/-- Decode the next field, given ways to decode texts and counts. -/
def field (text : Decoder String) (count : Decoder Nat) (known : Partial) (name : String)
    (reading : Reading) (draft : Draft) : Except DecodeError Partial :=
  match name with
  | "api" => do
    let api ← Decode.once name known.api (ApiSettings.decoderWith text) reading draft
    .ok { known with api }
  | "nats" => do
    let server ← Decode.once name known.server (ServerSettings.decoderWith text) reading draft
    .ok { known with server }
  | "worker" => do
    let worker ← Decode.once name known.worker (WorkerSettings.decoderWith count) reading draft
    .ok { known with worker }
  | "log_level" => do
    let logLevel ← Decode.once name known.logLevel text reading draft
    .ok { known with logLevel }
  | _ => do
    Decode.ignore draft
    .ok known

/-- Decode the settings from the items of an array. -/
def ofItems (text : Decoder String) (count : Decoder Nat) (reading : Reading)
    (rest : Decode.Positions) : Except DecodeError (Settings × Decode.Positions) := do
  let (api, rest) ← Decode.nextItem (ApiSettings.decoderWith text) reading rest
  let (server, rest) ← Decode.nextItem (ServerSettings.decoderWith text) reading rest
  let (worker, rest) ← Decode.nextItem (WorkerSettings.decoderWith count) reading rest
  let (logLevel, rest) ← Decode.nextItem text reading rest
  .ok ((Partial.mk api server worker logLevel).settled, rest)

/-- Decode the settings, given ways to decode texts and counts. -/
def decoderWith (text : Decoder String) (count : Decoder Nat) : Decoder Settings :=
  Decode.record "struct TriggerflowConfig"
    (fun reading draft =>
      (Decode.fields "struct TriggerflowConfig" {} (field text count) reading draft).map
        Partial.settled)
    (ofItems text count)

/-- Decode the settings. -/
def decoder : Decoder Settings :=
  decoderWith Decode.string Decode.nat

end Settings

end EventFlow
