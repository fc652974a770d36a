import EventFlow.Failure

/-!
# Changes

What is done to a state step by step may fail half-way. A failure does not bring the state
back: whoever wants it back has to restore it.
-/

namespace EventFlow

/-- Something that changes a state and may fail. What was changed before a failure stays
changed. -/
abbrev Change (σ α : Type) := ExceptT Failure (StateM σ) α

namespace Change

variable {σ α : Type}

/-- What a change comes to, and the state after it. -/
def perform (change : Change σ α) (state : σ) : Except Failure α × σ :=
  change.run state

/-- A result as a change of nothing. -/
def lift (result : Except Failure α) : Change σ α :=
  ExceptT.mk (pure result)

/-- The value of a change and the state after it, for those who stop at a failure. -/
def success (change : Change σ α) (state : σ) : Except Failure (α × σ) :=
  match change.perform state with
  | (.ok value, after) => .ok (value, after)
  | (.error cause, _) => .error cause

end Change

end EventFlow
