import EventFlow.Api.Transport
import EventFlow.Proofs.Web.Targets

/-!
# What requests act on

Every call acts on one resource behind the endpoint: a namespace, an event source of one, or the
triggers of one. The target of the request for a call leads to this resource and to no other, as
long as path segments can stand for the names that the call gives.
-/

namespace EventFlow

/-- What there is behind an endpoint for calls to act on. -/
inductive Resource where
  | space (name : String)
  | source (owner name : String)
  | triggers (owner : String)
deriving DecidableEq

namespace Resource

/-- The path segments that lead to a resource. -/
def segments : Resource → List String
  | .space name => ["namespace", name]
  | .source owner name => ["namespace", owner, "eventsource", name]
  | .triggers owner => ["namespace", owner, "trigger"]

/-- Different resources have different paths. -/
theorem segments_injective {first second : Resource}
    (same : first.segments = second.segments) : first = second := by
  cases first <;> cases second <;> simp_all [segments]

end Resource

namespace Call

variable (call : Call) (endpoint : Web.Url)

/-- What a call acts on. -/
def resource : Call → Resource
  | .createNamespace name _ _ => .space name
  | .deleteNamespace name => .space name
  | .registerSource space source _ => .source space source.name
  | .storeTriggers space _ => .triggers space

/-- Segments can stand for all names that a call gives. -/
def Addressable : Prop :=
  ∀ name ∈ call.segments, Web.Url.Addressable name

instance : Decidable call.Addressable :=
  inferInstanceAs (Decidable (∀ name ∈ call.segments, Web.Url.Addressable name))

/-- A call adds the segments of its resource to the endpoint. -/
theorem segments_resource : call.resource.segments = call.segments := by
  cases call <;> rfl

/-- Calls that add the same segments act on one resource, and only they do. -/
theorem resource_eq_iff {other : Call} :
    call.resource = other.resource ↔ call.segments = other.segments := by
  rw [← segments_resource, ← segments_resource]
  exact ⟨congrArg Resource.segments, Resource.segments_injective⟩

/-- A call adds the segment of all namespaces first. -/
theorem exists_segments : ∃ names, call.segments = "namespace" :: names := by
  cases call <;> exact ⟨_, rfl⟩

/-- The path of a request is that of the endpoint with the segments of the call. -/
theorem path_url : (call.url endpoint).path = (endpoint.extend call.segments).path := by
  cases call with
  | registerSource space source overwrite => simp only [url, Web.Url.path_addQuery]
  | _ => rfl

/-- The authority of a request is that of the endpoint. -/
theorem authority_url : (call.url endpoint).authority = endpoint.authority := by
  cases call with
  | registerSource space source overwrite =>
      simp only [url, Web.Url.authority_addQuery, Web.Url.authority_extend]
  | _ => exact Web.Url.authority_extend endpoint _

variable {call endpoint} {list : List String}

/-- The path of a request goes on with the names that the call gives exactly if segments can stand
for all of them. -/
theorem path_url_eq_iff (path : endpoint.path = .segments list) :
    (call.url endpoint).path =
        .segments (endpoint.stem ++ call.segments.map Web.Url.escaped) ↔ call.Addressable := by
  obtain ⟨names, split⟩ := call.exists_segments
  have first : Web.Url.Addressable "namespace" := by decide
  rw [path_url, Addressable, split,
    Web.Url.path_extend_eq_iff path first (by decide) names]
  simp [first]

/-- The target of a request is made of the path of the endpoint, the names that the call gives, and
the query. -/
theorem target_url (authority : endpoint.authority.isSome = true)
    (path : endpoint.path = .segments list) (addressable : call.Addressable) :
    (call.url endpoint).target.toList = (Web.Url.segmentsText endpoint.stem).toList ++
      ((Web.Url.segmentsText (call.segments.map Web.Url.escaped)).toList ++
        (Web.Url.marked "?" (call.url endpoint).query).toList) := by
  have still : (call.url endpoint).authority.isSome = true := by
    rw [authority_url, authority]
  rw [Web.Url.target_eq still ((path_url_eq_iff path).mpr addressable),
    Web.Url.segmentsText_append, String.toList_append, String.toList_append, List.append_assoc]

/-- The names that a call gives can be told from the target of its request. -/
theorem segments_eq_of_target {other : Call} (authority : endpoint.authority.isSome = true)
    (path : endpoint.path = .segments list) (addressable : call.Addressable)
    (otherAddressable : other.Addressable)
    (same : (call.url endpoint).target = (other.url endpoint).target) :
    call.segments = other.segments := by
  have texts := congrArg String.toList same
  rw [target_url authority path addressable, target_url authority path otherAddressable] at texts
  exact Web.Url.names_eq_of_text (Web.Url.head?_marked _) (Web.Url.head?_marked _)
    (List.append_cancel_left texts)

end Call

/-- An endpoint to which a transport is connected has an authority and a path of segments. -/
theorem Transport.parts_of_connect {text : String} {credentials : Credentials}
    {endpoint : Web.Url}
    (connected : Transport.connect text credentials = .ok (.http endpoint credentials)) :
    endpoint.authority.isSome = true ∧ ∃ list, endpoint.path = .segments list := by
  unfold Transport.connect at connected
  split at connected
  · cases connected
  · next url parsed =>
    split at connected
    · next http =>
      cases connected
      exact Web.Url.parts_of_parse parsed http
    · cases connected

/-- At every endpoint that is accepted, the path of a request is the path of the endpoint, without
empty segments at its end, followed by the percent-encoded segments of the call, exactly if
segments can stand for all names that the call gives. Requests for such calls have one path only
if the calls act on one resource, none has the path of all namespaces, and requests for calls that
act on different resources, as calls of one kind with different names do, have different
targets. -/
theorem requests_lead_to_resources {text : String} {credentials : Credentials}
    {endpoint : Web.Url}
    (connected : Transport.connect text credentials = .ok (.http endpoint credentials)) :
    (∃ blanks, endpoint.path = .segments (endpoint.stem ++ blanks) ∧
        ∀ blank ∈ blanks, blank = "") ∧
      (∀ call : Call,
        (call.request endpoint credentials).url.path =
            .segments (endpoint.stem ++ call.segments.map Web.Url.escaped) ↔
          call.Addressable) ∧
      ∀ call other : Call, call.Addressable → other.Addressable →
        (call.request endpoint credentials).url.path ≠
            .segments (endpoint.stem ++ ["namespace"]) ∧
          ((call.request endpoint credentials).url.path =
              (other.request endpoint credentials).url.path ↔ call.resource = other.resource) ∧
          ((call.request endpoint credentials).url.target =
              (other.request endpoint credentials).url.target → call.resource = other.resource) := by
  obtain ⟨authority, list, path⟩ := Transport.parts_of_connect connected
  have written : ∀ call : Call, call.Addressable → (call.url endpoint).path =
      .segments (endpoint.stem ++ call.segments.map Web.Url.escaped) :=
    fun call addressable => (Call.path_url_eq_iff path).mpr addressable
  refine ⟨Web.Url.exists_blanks path, fun call => Call.path_url_eq_iff path,
    fun call other addressable otherAddressable => ⟨?_, ?_, ?_⟩⟩
  · intro collection
    have short := (written call addressable).symm.trans collection
    have lengths := congrArg List.length
      (List.append_cancel_left (Web.UrlPath.segments.inj short))
    cases call <;> simp [Call.segments] at lengths
  · rw [Call.resource_eq_iff]
    constructor
    · intro same
      have paths := (written call addressable).symm.trans (same.trans (written other otherAddressable))
      have names := List.append_cancel_left (Web.UrlPath.segments.inj paths)
      exact (List.map_inj_right fun _ _ => Web.Url.escaped_injective).mp names
    · intro same
      exact (written call addressable).trans (same ▸ (written other otherAddressable).symm)
  · intro same
    exact (Call.resource_eq_iff call).mpr
      (Call.segments_eq_of_target authority path addressable otherAddressable same)

/-- Credentials for requests. -/
def sampleCredentials : Credentials where
  user := "tester"
  password := "secret1"

/-- An endpoint below the root of its host. -/
def sampleEndpoint : Web.Url where
  scheme := "http"
  authority := some { host := .ipv6 [0, 0, 0, 0, 0, 0, 0, 1], portNumber := some 8080 }
  path := .segments ["v1", ""]

/-- The target of the request for a call at the sample endpoint. -/
def sampleTarget (call : Call) : String :=
  (call.request sampleEndpoint sampleCredentials).url.target

/-- A name with a slash and one that looks like its encoded form have different targets. -/
theorem sample_lead_to_resources :
    Transport.connect "http://[::1]:8080/v1/" sampleCredentials =
        .ok (.http sampleEndpoint sampleCredentials) ∧
      (Call.deleteNamespace "a/b").Addressable ∧ (Call.deleteNamespace "a%2Fb").Addressable ∧
      sampleTarget (.deleteNamespace "a/b") ≠ sampleTarget (.deleteNamespace "a%2Fb") := by
  have connected : Transport.connect "http://[::1]:8080/v1/" sampleCredentials =
      .ok (.http sampleEndpoint sampleCredentials) := rfl
  have slash : (Call.deleteNamespace "a/b").Addressable := by decide
  have encoded : (Call.deleteNamespace "a%2Fb").Addressable := by decide
  refine ⟨connected, slash, encoded, fun same => ?_⟩
  have resources := ((requests_lead_to_resources connected).2.2 _ _ slash encoded).2.2 same
  exact absurd resources (by decide)

/-- A dot leads to all namespaces and to a namespace of another name, and what a URL passes over
does not tell names apart. -/
theorem dots_lead_elsewhere :
    Transport.connect "http://[::1]:8080/v1/" sampleCredentials =
        .ok (.http sampleEndpoint sampleCredentials) ∧
      sampleTarget (.deleteNamespace ".") = "/v1/namespace" ∧
      sampleTarget (.deleteNamespace "..") = sampleTarget (.deleteNamespace ".") ∧
      sampleTarget (.storeTriggers "." []) = sampleTarget (.deleteNamespace "trigger") ∧
      sampleTarget (.deleteNamespace "a\tb") = sampleTarget (.deleteNamespace "ab") :=
  ⟨rfl, rfl, rfl, rfl, rfl⟩

end EventFlow
