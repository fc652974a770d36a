import EventFlow.Api.Credentials
import EventFlow.Store.Documents
import EventFlow.Text.Space
import EventFlow.Web.Network

/-!
# Calls of the trigger API

Four calls write namespaces, event sources and triggers. Each is also a request by
which a server is asked to do so.
-/

namespace EventFlow

/-- A call of the trigger API. -/
inductive Call where
  | createNamespace (name : String) (globalContext : Dict Json) (source : Option EventSource)
  | deleteNamespace (name : String)
  | registerSource (space : String) (source : EventSource) (overwrite : Bool)
  | storeTriggers (space : String) (triggers : List Trigger)

namespace Call

/-- The first trigger whose id is taken, by a stored trigger or by an earlier
one of the batch. -/
def firstTaken? (taken : List String) : List Trigger → Option String
  | [] => none
  | trigger :: rest =>
    if taken.contains trigger.id then some trigger.id
    else firstTaken? (trigger.id :: taken) rest

/-! ## Calls as requests -/

/-- The method of the request for a call. -/
def method : Call → String
  | .createNamespace _ _ _ => "PUT"
  | .deleteNamespace _ => "DELETE"
  | .registerSource _ _ _ => "PUT"
  | .storeTriggers _ _ => "POST"

/-- The path segments that a call adds to the endpoint. -/
def segments : Call → List String
  | .createNamespace name _ _ => ["namespace", name]
  | .deleteNamespace name => ["namespace", name]
  | .registerSource space source _ => ["namespace", space, "eventsource", source.name]
  | .storeTriggers space _ => ["namespace", space, "trigger"]

/-- The URL of the request for a call. -/
def url (call : Call) (endpoint : Web.Url) : Web.Url :=
  let url := endpoint.extend call.segments
  match call with
  | .registerSource _ _ overwrite =>
    url.addQuery ("overwrite=" ++ String.ofList (Json.boolChars overwrite))
  | _ => url

/-- The body of the request for a call. -/
def body? : Call → Option Json
  | .createNamespace _ globalContext source =>
    some (.object [
      ("event_source", match source with
        | none => .null
        | some source => .object source.toFields),
      ("global_context", .object globalContext)])
  | .deleteNamespace _ => none
  | .registerSource _ source _ => some (.object [("eventsource", .object source.toFields)])
  | .storeTriggers _ triggers => some (.object [("triggers", .array (triggers.map Trigger.toJson))])

/-- The request for a call. -/
def request (call : Call) (endpoint : Web.Url) (credentials : Credentials) : Web.Request where
  method := call.method
  url := call.url endpoint
  authorization := some credentials.header
  body := call.body?

/-- What a response means: success with a body, which is JSON or else text, a
conflict, or another failure. -/
def outcome (response : Web.Response) : Except Failure Json :=
  if response.isSuccess then
    if response.body.toList.all Text.isSpace then .ok .null
    else
      match Decode.text Decode.json response.body with
      | .ok value => .ok value
      | .error _ => .ok (.string response.body)
  else if response.status = 409 then .error (.exists (.reported response.body))
  else .error (.transport (some response.status) response.body)

end Call

end EventFlow
