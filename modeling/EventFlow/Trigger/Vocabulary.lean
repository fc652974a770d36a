/-!
# The vocabulary of triggers

The names under which the conditions and actions that every registry has are
known. Triggers refer to them by these names only.
-/

namespace EventFlow.Vocabulary

/-- The condition that always holds. -/
def holds : String := "true"

/-- The condition of a compiled state: the choice route that leads to it. -/
def stateCondition : String := "state_condition"

/-- The action that does nothing. -/
def pass : String := "pass"

/-- The action of compiled pass and parallel states. -/
def statePass : String := "state_pass"

/-- The action of compiled task, wait and map states. -/
def task : String := "task"

/-- The action that closes a level of a workflow. -/
def closeLevel : String := "end_statemachine"

/-- The action that stops the worker. -/
def terminate : String := "terminate"

end EventFlow.Vocabulary
