import EventFlow.Web.Url

/-!
# Requests and the network

A request goes out to the network, and a response comes back or it does not. A
network is either out of reach, or it has one peer that notes every request and gives
prepared responses in their order, and the same one to all requests behind them.
-/

namespace EventFlow.Web

/-- A request with an optional JSON body. -/
structure Request where
  method : String
  url : Url
  authorization : Option String := none
  body : Option Json := none

/-- A response. -/
structure Response where
  status : Nat
  body : String

namespace Response

/-- A response as it arrives: a mark of the byte order is no part of its text. -/
def received (response : Response) : Response :=
  { response with body := Text.withoutMark response.body }

/-- Whether the status reports success. -/
def isSuccess (response : Response) : Bool :=
  200 ≤ response.status && response.status < 300

end Response

/-- What requests go out to. -/
inductive Network where
  | unreachable
  | peer (prepared : List Response) (otherwise : Response) (received : List Request)

namespace Network

/-- Whether a host is known without asking a name server. -/
def isKnownHost : Host → Bool
  | .name text => text = "localhost" || text.endsWith ".localhost"
  | .ipv4 _ => true
  | .ipv6 _ => true

/-- Why a host cannot be reached. -/
def obstacle (host : Option Host) : String :=
  if (host.map isKnownHost).getD true then
    "tcp connect error: Network is unreachable (os error 101)"
  else
    "dns error: failed to lookup address information: Temporary failure in name resolution"

/-- The failure to reach the host of a URL. -/
def noConnection (url : Url) : Failure :=
  .transport none
    ("error sending request for url (" ++ url.withoutUser.text ++ "): error trying to connect: "
      ++ obstacle (url.authority.map Authority.host))

/-- Send a request. -/
def send (network : Network) (request : Request) : Except Failure Response × Network :=
  match network with
  | .unreachable => (.error (noConnection request.url), .unreachable)
  | .peer [] otherwise received =>
    (.ok otherwise.received, .peer [] otherwise (received ++ [request]))
  | .peer (next :: prepared) otherwise received =>
    (.ok next.received, .peer prepared otherwise (received ++ [request]))

/-- The requests that arrived somewhere. -/
def received : Network → List Request
  | .unreachable => []
  | .peer _ _ received => received

end Network

end EventFlow.Web
