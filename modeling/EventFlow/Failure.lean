import EventFlow.Decimal.Plain
import EventFlow.Json.Decode

/-!
# Failures

Every way in which an operation of the engine can fail, and the words for it.
A failure keeps its cause as data; the words are made in one place.
-/

namespace EventFlow

/-- Why a text is no URL. -/
inductive UrlError where
  | emptyHost
  | invalidPort
  | invalidDomain
  | invalidIpv4
  | invalidIpv6
  | invalidCharacter
  | noBase
deriving DecidableEq, Repr

namespace UrlError

/-- The words for a URL error. -/
def message : UrlError → String
  | .emptyHost => "empty host"
  | .invalidPort => "invalid port number"
  | .invalidDomain => "invalid international domain name"
  | .invalidIpv4 => "invalid IPv4 address"
  | .invalidIpv6 => "invalid IPv6 address"
  | .invalidCharacter => "invalid domain character"
  | .noBase => "relative URL without a base"

end UrlError

/-- What a caller gave that is not acceptable. -/
inductive Rejection where
  | userName (name : String)
  | password
  | globalContext (found : Json)
  | triggerContext (found : Json)
  | endpoint (text : String) (cause : UrlError)
  | endpointScheme (url : String)
  | documentKey (space document : String)
  | secondRun (worker : String)

/-- What is there already. -/
inductive Conflict where
  | space (name : String)
  | eventSource (name : String)
  | trigger (id : String)
  | reported (body : String)

/-- What was looked for in vain. -/
inductive Missing where
  | space (name : String)
  | trigger (id : String)

/-- What the engine does not do. -/
inductive Unsupported where
  | remoteOperation (name : String)
  | state (kind name : String) (state : Json)
  | comparison (operator : String) (rule : Json)

/-- What is wrong with a workflow definition or one of its rules. -/
inductive DefinitionError where
  | unknownStart (state : String)
  | unknownTarget (source target : String)
  | endAndNext (name : String) (state : Json)
  | noEnd (start : String)
  | intoStart (source target : String)
  | twoPredecessors (target first second : String)
  | cycle (name : String)
  | unreachable (name : String)
  | unresolved (name : String)
  | noBranches (name : String) (state : Json)
  | noIterator (name : String) (state : Json)
  | notRule (found : Json)
  | notRuleList (found : Json)
  | noVariable (rule : Json)
  | noComparison (rule : Json)
  | conditionNotRule (found : Json)

/-- The two kinds of handlers. -/
inductive HandlerKind where
  | condition
  | action
deriving DecidableEq, Repr

/-- Why an event source cannot be opened or used. -/
inductive SourceError where
  | noHub (source : String)
  | unreachable (reason : String)

/-- Why a handler did not do its work. -/
inductive HandlerError where
  | noSubject
  | noResource (state : Json)
  | reported (message : String)

/-- Why settings cannot be loaded. -/
inductive SettingsError where
  | noNamespaceSource (name : String)
  | fileMissing (file : String)
  | fileFormat (file : String)
  | unreadable (cause : DecodeError)
  | notTable (found : Shape) (file : String)
  | notRecord (found : Shape) (expected : String)
  | unfit (found : Shape) (expected key : String) (origin : Option String)

/-- A failure of the engine. -/
inductive Failure where
  | rejected (cause : Rejection)
  | exists (cause : Conflict)
  | missing (cause : Missing)
  | noNamespace
  | namedTransient (id : String)
  | duplicateTrigger (id : String)
  | cachingDisabled
  | emptyCache
  | unsupported (cause : Unsupported)
  | definition (cause : DefinitionError)
  | unknownHandler (kind : HandlerKind) (name : String)
  | transport (status : Option Nat) (body : String)
  | source (cause : SourceError)
  | handler (trigger : String) (cause : HandlerError)
  | settings (cause : SettingsError)
  | decoding (cause : DecodeError)

namespace Rejection

/-- The words for a rejection. -/
def message : Rejection → String
  | .userName name => "Invalid username '" ++ name ++ "'"
  | .password => "Invalid password"
  | .globalContext found => "Global context must be a JSON object, got " ++ found.compact
  | .triggerContext found => "Trigger context must be a JSON object, got " ++ found.compact
  | .endpoint text cause => "Invalid API endpoint '" ++ text ++ "': " ++ cause.message
  | .endpointScheme url => "API endpoint must be an http(s) URL: " ++ url
  | .documentKey space document =>
    "'" ++ space ++ "' / '" ++ document ++ "' cannot be used as a document key"
  | .secondRun worker => "worker " ++ worker ++ " has already run"

end Rejection

/-- The body with which the trigger API reports an error. -/
def errorBody (text : String) : String :=
  (Json.object [("error", .string text)]).compact

namespace Conflict

/-- The body that reports a conflict. -/
def message : Conflict → String
  | .space name => errorBody ("Namespace " ++ name ++ " already exists")
  | .eventSource name => errorBody ("Event source " ++ name ++ " already exists")
  | .trigger id => errorBody ("Trigger " ++ id ++ " already exists")
  | .reported body => body

end Conflict

namespace Missing

/-- The words for something missing. -/
def message : Missing → String
  | .space name => "Namespace " ++ name ++ " not found"
  | .trigger id => "Trigger " ++ id ++ " does not exist"

end Missing

namespace Unsupported

/-- The words for something that is not done. -/
def message : Unsupported → String
  | .remoteOperation name => "remote " ++ name
  | .state kind name spec => kind ++ " state " ++ name ++ ": " ++ spec.compact
  | .comparison operator rule => "choice comparison " ++ operator ++ " in " ++ rule.compact

end Unsupported

namespace DefinitionError

/-- The words for what is wrong with a definition. -/
def message : DefinitionError → String
  | .unknownStart state => "StartAt names unknown state " ++ state
  | .unknownTarget source target =>
    "state " ++ source ++ " transitions to unknown state " ++ target
  | .endAndNext name state => "state " ++ name ++ " has both End and Next: " ++ state.compact
  | .noEnd start => "workflow starting at " ++ start ++ " has no End state"
  | .intoStart source target =>
    "state " ++ source ++ " transitions back to the start state " ++ target
  | .twoPredecessors target first second =>
    "state " ++ target ++ " has more than one predecessor (" ++ first ++ " and " ++ second ++ ")"
  | .cycle name => "cycle through state " ++ name
  | .unreachable name => "state " ++ name ++ " is unreachable"
  | .unresolved name => "unresolved state " ++ name
  | .noBranches name state => "Parallel state " ++ name ++ " has no branches: " ++ state.compact
  | .noIterator name state => "Map state " ++ name ++ " has no Iterator: " ++ state.compact
  | .notRule found => "Not must hold a rule object: " ++ found.compact
  | .notRuleList found => "expected a list of rules: " ++ found.compact
  | .noVariable rule => "choice rule has no Variable: " ++ rule.compact
  | .noComparison rule => "choice rule has no comparison: " ++ rule.compact
  | .conditionNotRule found => "Condition must be a rule object: " ++ found.compact

end DefinitionError

namespace HandlerKind

/-- The name of the kind. -/
def name : HandlerKind → String
  | .condition => "condition"
  | .action => "action"

end HandlerKind

namespace SourceError

/-- The words for a source error. -/
def message : SourceError → String
  | .noHub source =>
    "event source " ++ source ++ " is in-memory but no memory hub is configured"
  | .unreachable reason => "Failed to connect to NATS: " ++ reason

end SourceError

namespace HandlerError

/-- The words for a handler error. -/
def message : HandlerError → String
  | .noSubject => "context has no subject"
  | .noResource state => "task state has no Resource: " ++ state.compact
  | .reported message => message

end HandlerError

namespace SettingsError

/-- The words for a value that does not fit. -/
def foundText : Shape → String
  | .null => "unit value"
  | .bool value => "boolean " ++ DecodeError.ticked (String.ofList (Json.boolChars value))
  | .number (.int value) =>
    "64-bit integer " ++ DecodeError.ticked (String.ofList (Number.intText value))
  | .number (.double value) =>
    "floating point " ++ DecodeError.ticked (String.ofList (Decimal.plainText value))
  | .string value => "string " ++ Text.quoted value
  | .sequence => "sequence"
  | .map => "map"

/-- A double without an exponent, with a point unless it is not finite. -/
def pointedText (value : Float) : List Char :=
  let plain := Decimal.plainText value
  if value.isFinite && !plain.contains '.' then plain ++ ['.', '0'] else plain

/-- The words for a value where a record is expected. -/
def foundForRecord : Shape → String
  | .number (.int value) =>
    "integer " ++ DecodeError.ticked (String.ofList (Number.intText value))
  | .number (.double value) =>
    "floating point " ++ DecodeError.ticked (String.ofList (pointedText value))
  | other => foundText other

/-- Where a value comes from. -/
def originText : Option String → String
  | none => ""
  | some origin => " in " ++ origin

/-- The words for a settings error. -/
def message : SettingsError → String
  | .noNamespaceSource name => "Namespace " ++ name ++ " has no event source"
  | .fileMissing file => "configuration file \"" ++ file ++ "\" not found"
  | .fileFormat file =>
    "configuration file \"" ++ file ++ "\" is not of a registered file format"
  | .unreadable cause => cause.message
  | .notTable found file =>
    "invalid type: " ++ foundText found ++ ", expected a map in " ++ file ++ " in " ++ file
  | .notRecord found expected =>
    "invalid type: " ++ foundForRecord found ++ ", expected " ++ expected
  | .unfit found expected key origin =>
    "invalid type: " ++ foundText found ++ ", expected " ++ expected ++ " for key "
      ++ DecodeError.ticked key ++ originText origin

end SettingsError

namespace Failure

/-- A status as messages show it. -/
def statusText : Option Nat → String
  | none => "None"
  | some status => "Some(" ++ toString status ++ ")"

/-- The words for a failure. -/
def message : Failure → String
  | .rejected cause => "Validation error: " ++ cause.message
  | .exists cause => "Resource already exists: " ++ cause.message
  | .missing cause => "Not found: " ++ cause.message
  | .noNamespace => "No namespace is active; create or target one first"
  | .namedTransient id => "Transient triggers cannot be named (got trigger id " ++ id ++ ")"
  | .duplicateTrigger id => "Trigger " ++ id ++ " already exists"
  | .cachingDisabled => "No trigger caching is being used"
  | .emptyCache => "Trigger cache empty"
  | .unsupported cause => "Not implemented: " ++ cause.message
  | .definition cause => "Invalid workflow definition: " ++ cause.message
  | .unknownHandler kind name => "Unknown " ++ kind.name ++ " handler: " ++ name
  | .transport status body => "Transport error (status " ++ statusText status ++ "): " ++ body
  | .source cause => "Broker error: " ++ cause.message
  | .handler trigger cause =>
    "Handler failed for trigger " ++ trigger ++ ": " ++ cause.message
  | .settings cause => "Configuration error: " ++ cause.message
  | .decoding cause => "Serialization error: " ++ cause.message

/-- The trigger API's answer that a namespace does not exist. -/
def namespaceAbsent (name : String) : Failure :=
  .transport (some 404) (errorBody ("Namespace " ++ name ++ " not found"))

end Failure

/-- Let decoding errors be failures. -/
def decoded {α : Type} : Except DecodeError α → Except Failure α
  | .ok value => .ok value
  | .error cause => .error (.decoding cause)

end EventFlow
