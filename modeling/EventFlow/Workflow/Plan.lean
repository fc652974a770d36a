import EventFlow.Change
import EventFlow.Trigger.Basic
import EventFlow.Workflow.Links

/-!
# Plans

A plan is the list of triggers that runs a workflow. Each state waits for the
completion of the state before it; a choice has no trigger of its own but puts a
condition on the states behind it; a parallel state waits for all its branches;
a level is closed by a trigger that waits for its last states. Closing triggers
are numbered through all levels and all plans of one compiler, which takes the numbers
of a plan back if it fails.
-/

namespace EventFlow

/-- The triggers planned so far, and the number of the next closing trigger. -/
structure Progress where
  sequence : Nat
  triggers : List Submission

namespace Progress

/-- Plan one more trigger. -/
def push (progress : Progress) (submission : Submission) : Progress :=
  { progress with triggers := progress.triggers ++ [submission] }

end Progress

namespace Plan

/-- The subject of the event that starts a workflow unless another is named. -/
def initialSubject : String := "$init"

/-- The id of a closing trigger. -/
def closingId (number : Nat) : String :=
  "StateMachine" ++ toString number

/-- What the states behind a state build on: whose completion they wait for,
and a condition that they inherit. -/
structure Outcome where
  completion : String
  inherited : Option Json

/-- Where the triggers of a state are planned: what it waits for, on which
condition, and how deep its level is. -/
structure Site where
  input : String
  gate : Option Json
  depth : Nat

/-- Planning adds to the progress, and may fail half-way. -/
abbrev Planning (α : Type) := Change Progress α

/-- The plan of a part of a workflow at a site. -/
abbrev Step (α : Type) := Site → Planning α

/-- Take the number of the next closing trigger. -/
def takeNumber : Planning Nat :=
  modifyGet fun progress =>
    (progress.sequence, { progress with sequence := progress.sequence + 1 })

/-- Plan one more trigger. -/
def emit (submission : Submission) : Planning Unit :=
  modify (·.push submission)

/-- The context of the trigger of a state. -/
def stateContext (name : String) (state : State) : Dict Json :=
  Dict.ofList [("State", state.toJson), ("subject", .string name)]

/-- Add the condition of a state to its context. -/
def gated (context : Dict Json) : Option Json → Dict Json
  | none => context
  | some gate => Dict.insert context "Condition" gate

/-- A persistent trigger named for a state. -/
def stateTrigger (name : String) (waitsFor : List String) (action : String)
    (context : Dict Json) : Submission :=
  { Submission.waitingFor (waitsFor.map EventKey.completion) with
    condition := Vocabulary.stateCondition
    action
    context := .object context }.persistent name

/-- The context of a closing trigger. With several last states the first one to
complete closes the level; closing the root level stops the worker. -/
def closingContext (id : String) (terminals depth : Nat) : Dict Json :=
  let context : Dict Json := [("subject", .string id)]
  let context := if terminals > 1 then Dict.insert context "join" (.string "any") else context
  if depth = 0 then Dict.insert context "root" (.bool true) else context

/-- The trigger that closes a level. -/
def closingTrigger (id : String) (completions : List String) (depth : Nat) : Submission :=
  { Submission.waitingFor (completions.map EventKey.completion) with
    condition := Vocabulary.stateCondition
    action := Vocabulary.closeLevel
    context := .object (closingContext id completions.length depth) }.persistent id

/-- Where a state of a level is planned: the entry of the level for the state
that starts it, and the outcome of its predecessor for all others. -/
def siteOf (links : Links) (entry : Site) (done : Dict Outcome) (name : String) :
    Except Failure Site :=
  match Dict.get? links.entrances name with
  | none => .error (.definition (.unreachable name))
  | some .entry =>
    .ok { entry with gate := Route.both entry.gate (Dict.get? links.routes name) }
  | some (.state previous) =>
    match Dict.get? done previous with
    | none => .error (.definition (.unresolved previous))
    | some outcome => .ok {
        entry with
        input := outcome.completion
        gate := Route.both outcome.inherited (Dict.get? links.routes name) }

/-- Plan one state of a level by the step that belongs to its name. -/
def planState (links : Links) (entry : Site) (steps : List (String × Step Outcome))
    (done : Dict Outcome) (name : String) : Planning (Dict Outcome) :=
  match Dict.get? steps name with
  | none => throw (.definition (.unresolved name))
  | some step => do
    let site ← Change.lift (siteOf links entry done name)
    let outcome ← step site
    return Dict.insert done name outcome

/-- The completion of a state. -/
def completionOf (done : Dict Outcome) (name : String) : Except Failure String :=
  match Dict.get? done name with
  | some outcome => .ok outcome.completion
  | none => .error (.definition (.unresolved name))

/-- Plan a level whose states are planned by the steps: number it, plan its
states in their order, and close it. The result is the id of the closing
trigger. -/
def planLevel (level : Level) (steps : List (String × Step Outcome)) : Step String :=
  fun entry => do
    let id := closingId (← takeNumber)
    let links ← Change.lift (Links.ofLevel level)
    let order ← Change.lift (Links.order level.names links.entrances)
    let done ← order.foldlM (planState links entry steps) []
    let completions ← Change.lift (links.terminals.mapM (completionOf done))
    emit (closingTrigger id completions entry.depth)
    return id

/-- Plan a state that is one trigger. -/
def planSingle (name action : String) (state : State) : Step Outcome :=
  fun site => do
    let context := gated (stateContext name state) site.gate
    emit (stateTrigger name [site.input] action context)
    return ⟨name, none⟩

/-- Plan a choice: the states behind it inherit its input and its condition. -/
def planChoice : Step Outcome :=
  fun site => return ⟨site.input, site.gate⟩

/-- Plan branches one after the other; the result is the list of their closing
triggers. -/
def planBranches : List (Step String) → Step (List String)
  | [], _ => return []
  | branch :: rest, site => do
    let id ← branch site
    let ids ← planBranches rest site
    return id :: ids

/-- Plan a parallel state: its branches, which take over its input and its
condition, and a trigger that waits for all of them. -/
def planParallel (name : String) (state : State) (branches : List (Step String)) : Step Outcome :=
  fun site =>
    match branches with
    | [] => throw (.definition (.noBranches name state.toJson))
    | _ :: _ => do
      let ids ← planBranches branches { site with depth := site.depth + 1 }
      let context := stateContext name state
      emit (stateTrigger name ids Vocabulary.statePass context)
      return ⟨name, none⟩

/-- Plan a map state: a trigger of its own, and an iterator that starts on its
completion. Whatever waits for the state waits for the iterator. -/
def planMap (name : String) (state : State) (iterator : Option (Step String)) : Step Outcome :=
  fun site =>
    match iterator with
    | none => throw (.definition (.noIterator name state.toJson))
    | some iterator => do
      let _ ← planSingle name Vocabulary.task state site
      let id ← iterator ⟨name, none, site.depth + 1⟩
      return ⟨id, none⟩

/-- Plan a state of any kind, given the plans of the levels inside it. -/
def planKind (name : String) (state : State) (branches : List (Step String))
    (iterator : Option (Step String)) : Step Outcome :=
  match state.kind with
  | .pass => planSingle name Vocabulary.statePass state
  | .task | .wait => planSingle name Vocabulary.task state
  | .choice => planChoice
  | .parallel => planParallel name state branches
  | .map => planMap name state iterator
  | .succeed | .fail =>
    fun _ => throw (.unsupported (.state state.kind.name name state.toJson))

mutual

/-- The step of a level. -/
def levelStep : LevelOf State → Step String
  | ⟨comment, startAt, states⟩ => planLevel ⟨comment, startAt, states⟩ (stateSteps states)

/-- The steps of the states of a level, by name. -/
def stateSteps : List (String × State) → List (String × Step Outcome)
  | [] => []
  | (name, state) :: rest => (name, stateStep name state) :: stateSteps rest

/-- The step of a state. -/
def stateStep (name : String) : State → Step Outcome
  | ⟨kind, next, ends, choices, default, branches, iterator, extra⟩ =>
    planKind name ⟨kind, next, ends, choices, default, branches, iterator, extra⟩
      (branchSteps branches) (iteratorStep? iterator)

/-- The steps of branches. -/
def branchSteps : List (LevelOf State) → List (Step String)
  | [] => []
  | branch :: rest => levelStep branch :: branchSteps rest

/-- The step of an iterator, if there is one. -/
def iteratorStep? : Option (LevelOf State) → Option (Step String)
  | none => none
  | some level => some (levelStep level)

end

end Plan

/-- The triggers of a workflow, in an order in which each waits only for earlier
ones, and the id of the one that closes it. -/
structure Plan where
  completion : String
  triggers : List Submission

/-- A compiler numbers the closing triggers of all its plans. -/
structure Compiler where
  sequence : Nat := 0

namespace Compiler

/-- Plan a workflow that starts on an event. The numbers of closing triggers that the
plan has taken are given back where it fails. -/
def planning (workflow : Level) (initial : String) : Change Compiler Plan := do
  let checkpoint := (← get).sequence
  let (result, progress) := (Plan.levelStep workflow ⟨initial, none, 0⟩).perform ⟨checkpoint, []⟩
  set (Compiler.mk progress.sequence)
  match result with
  | .ok completion => return ⟨completion, progress.triggers⟩
  | .error cause => do
    set (Compiler.mk checkpoint)
    throw cause

/-- Plan a workflow and go on with the compiler in any case. -/
def attempt (compiler : Compiler) (workflow : Level) (initial : String) :
    Except Failure Plan × Compiler :=
  (planning workflow initial).perform compiler

/-- Plan a workflow, and go on with the compiler if that succeeds. -/
def plan (compiler : Compiler) (workflow : Level) (initial : String) :
    Except Failure (Plan × Compiler) :=
  (planning workflow initial).success compiler

end Compiler

end EventFlow
