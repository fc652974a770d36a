import EventFlow.Engine.Builtins
import EventFlow.Text.Lowercase
import EventFlow.Trigger.Vocabulary

/-!
# Registries

Handlers by name. Names count without regard to case: they are kept in lower
case, and lookups lower what they are asked for.
-/

namespace EventFlow

/-- Conditions and actions by name. -/
structure Registry where
  conditions : Dict Condition := []
  actions : Dict Action := []

namespace Registry

/-- Register a condition, in place of any other of that name. -/
def registerCondition (registry : Registry) (name : String) (condition : Condition) : Registry :=
  { registry with conditions := Dict.insert registry.conditions (Text.lowercase name) condition }

/-- Register an action, in place of any other of that name. -/
def registerAction (registry : Registry) (name : String) (action : Action) : Registry :=
  { registry with actions := Dict.insert registry.actions (Text.lowercase name) action }

/-- The condition of a name. -/
def condition (registry : Registry) (name : String) : Except Failure Condition :=
  match Dict.get? registry.conditions (Text.lowercase name) with
  | some condition => .ok condition
  | none => .error (.unknownHandler .condition name)

/-- The action of a name. -/
def action (registry : Registry) (name : String) : Except Failure Action :=
  match Dict.get? registry.actions (Text.lowercase name) with
  | some action => .ok action
  | none => .error (.unknownHandler .action name)

/-- The registry of the built-in handlers, with an invoker for tasks. -/
def withInvoker (invoker : Invoker) : Registry where
  conditions := Dict.ofList [
    (Vocabulary.holds, Builtins.holds),
    (Vocabulary.stateCondition, Builtins.stateCondition)]
  actions := Dict.ofList [
    (Vocabulary.pass, Builtins.pass),
    (Vocabulary.statePass, Builtins.statePass),
    (Vocabulary.task, Builtins.task invoker),
    (Vocabulary.closeLevel, Builtins.closeLevel),
    (Vocabulary.terminate, Builtins.terminate)]

/-- The registry of the built-in handlers, with tasks completed at once. -/
def builtin : Registry :=
  withInvoker Invoker.direct

end Registry

end EventFlow
