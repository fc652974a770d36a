import EventFlow.Engine.Evaluation
import EventFlow.Surroundings

/-!
# Handlers

The conditions and the actions behind the names in triggers. A handler works on
an evaluation and on the event that led to it. What it changed stays changed
when it fails.
-/

namespace EventFlow

/-- What a handler comes to. -/
structure Handled (α : Type) where
  result : Except Failure α
  context : Evaluation
  around : Surroundings

/-- A handler: it has an evaluation, an event and the surroundings at hand. -/
abbrev Handler (α : Type) := Evaluation → Json → Surroundings → Handled α

/-- A condition decides whether a trigger fires. -/
abbrev Condition := Handler Bool

/-- An action is what a trigger does. -/
abbrev Action := Handler Unit

namespace Handler

/-- A handler that acts through the evaluation alone. -/
def confined {α : Type} (act : Evaluation → Json → Except Failure α × Evaluation) : Handler α :=
  fun context event around =>
    let (result, context) := act context event
    { result, context, around }

/-- A handler that only looks. -/
def judging {α : Type} (judge : Evaluation → Json → Except Failure α) : Handler α :=
  confined fun context event => (judge context event, context)

/-- A failure of the handler of an evaluation. -/
def failure (context : Evaluation) (cause : HandlerError) : Failure :=
  .handler context.trigger cause

end Handler

/-! ## Tasks -/

/-- What becomes of a task: it is done, or somebody else will announce its
completion. -/
inductive TaskOutcome where
  | completed (output : Json)
  | dispatched

/-- A way to run tasks, given the evaluation, the state and its input. -/
abbrev Invoker :=
  Evaluation → Json → Json → Surroundings → Except Failure TaskOutcome × Surroundings

namespace Invoker

/-- Complete every task at once, with its input as its output. -/
def direct : Invoker := fun _ _ input around =>
  (.ok (.completed input), around)

/-- An optional value; null stands for none. -/
def orNull : Option Json → Json
  | some value => value
  | none => .null

/-- The request body that hands a task to a server. -/
def taskBody (context : Evaluation) (state input : Json) : Json :=
  .object [
    ("input", input),
    ("namespace", orNull (context.get? "namespace")),
    ("state", state),
    ("subject", orNull (context.subject?.map .string)),
    ("trigger_id", .string context.trigger)]

/-- The URL of a task server. -/
def serverUrl (resource : String) : Except Failure Web.Url :=
  match Web.Url.parse resource with
  | .error cause => .error (.transport none ("builder error: " ++ cause.message))
  | .ok url =>
    if url.isHttp then .ok url
    else
      .error (.transport none
        ("builder error for url (" ++ url.withoutUser.text ++ "): URL scheme is not allowed"))

/-- Post every task to the URL that its state names as its resource. -/
def http : Invoker := fun context state input around =>
  match (state.get? "Resource").bind Json.asString? with
  | none => (.error (Handler.failure context (.noResource state)), around)
  | some resource =>
    match serverUrl resource with
    | .error cause => (.error cause, around)
    | .ok url =>
      let request : Web.Request := {
        method := "POST"
        url := url.withoutUser
        body := some (taskBody context state input) }
      let (response, network) := around.network.send request
      let around := { around with network }
      match response with
      | .error cause => (.error cause, around)
      | .ok response =>
        if response.isSuccess then (.ok .dispatched, around)
        else (.error (.transport (some response.status) response.body), around)

end Invoker

end EventFlow
