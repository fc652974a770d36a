import EventFlow.Engine.Handler
import EventFlow.Workflow.Predicate

/-!
# Built-in handlers

The conditions and actions that run compiled workflows. All of them act through
the evaluation alone, apart from tasks, which are left to an invoker.
-/

namespace EventFlow.Builtins

/-- The condition that always holds. -/
def holds : Condition :=
  Handler.judging fun _ _ => .ok true

/-- The condition of a compiled state: the rule in its context, evaluated on the
data of the event. Without a rule it holds. -/
def stateCondition : Condition :=
  Handler.judging fun context event =>
    match context.get? "Condition" with
    | some (.object rule) => Predicate.evaluate rule (eventData event)
    | some .null => .ok true
    | none => .ok true
    | some other => .error (.definition (.conditionNotRule other))

/-- The action that does nothing. -/
def pass : Action :=
  Handler.judging fun _ _ => .ok ()

/-- Announce the completion of the trigger's subject with an output. -/
def complete (context : Evaluation) (output : Json) : Except Failure Unit × Evaluation :=
  match context.subject? with
  | none => (.error (Handler.failure context .noSubject), context)
  | some subject => (.ok (), context.emit ((EventKey.completion subject).toRaw output))

/-- The output of a pass state: its result, written at its place into the
input. -/
def passOutput (state : Option Json) (input : Json) : Json :=
  match state.bind fun state => (state.get? "Result").map fun result => (state, result) with
  | none => input
  | some (state, result) =>
    let path := ((state.get? "ResultPath").bind Json.asString?).getD "$"
    input.write path result

/-- The action of pass and parallel states. -/
def statePass : Action :=
  Handler.confined fun context event =>
    complete context (passOutput (context.get? "State") (context.input event))

/-- The action of task, wait and map states: an invoker runs them. -/
def task (invoker : Invoker) : Action := fun context event around =>
  let state := (context.get? "State").getD .null
  let (outcome, around) := invoker context state (context.input event) around
  match outcome with
  | .error cause => { result := .error cause, context, around }
  | .ok .dispatched => { result := .ok (), context, around }
  | .ok (.completed output) =>
    let (result, context) := complete context output
    { result, context, around }

/-- The action that closes a level: it announces its completion with the data of
the event, and stops the worker behind the root level. -/
def closeLevel : Action :=
  Handler.confined fun context event =>
    match complete context (eventData event) with
    | (.error cause, context) => (.error cause, context)
    | (.ok (), context) =>
      let isRoot := ((context.get? "root").bind Json.asBool?).getD false
      (.ok (), if isRoot then context.requestTermination else context)

/-- The action that stops the worker. -/
def terminate : Action :=
  Handler.confined fun context _ => (.ok (), context.requestTermination)

end EventFlow.Builtins
