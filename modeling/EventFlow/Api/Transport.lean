import EventFlow.Api.Direct

/-!
# Transports

How calls of the trigger API reach what they write to: the documents at hand, or
a server behind an endpoint.
-/

namespace EventFlow

/-- A way to perform calls of the trigger API. -/
inductive Transport where
  | direct
  | http (endpoint : Web.Url) (credentials : Credentials)

namespace Transport

/-- A transport to the endpoint of that text, which has to be an http or https
URL. -/
def connect (endpoint : String) (credentials : Credentials) : Except Failure Transport :=
  match Web.Url.parse endpoint with
  | .error cause => .error (.rejected (.endpoint endpoint cause))
  | .ok url =>
    if url.isHttp then .ok (.http url credentials)
    else .error (.rejected (.endpointScheme url.text))

/-- Perform a call. -/
def perform (transport : Transport) (call : Call) : Effect Json :=
  match transport with
  | .direct => call.direct
  | .http endpoint credentials => do
    let around ← get
    let (response, network) := around.network.send (call.request endpoint credentials)
    set { around with network }
    match response with
    | .error cause => throw cause
    | .ok response => ExceptT.mk (pure (Call.outcome response))

end Transport

end EventFlow
