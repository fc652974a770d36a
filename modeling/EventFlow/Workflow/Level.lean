import EventFlow.Workflow.Predicate

/-!
# Workflow definitions

A workflow is a level of named states. Parallel states hold further levels as
branches, and map states hold one as their iterator. States are kept in the
order of their declaration; fields that the compiler does not interpret stay with
their state.
-/

namespace EventFlow

/-- The kinds of states. -/
inductive StateKind where
  | pass
  | task
  | choice
  | parallel
  | map
  | wait
  | succeed
  | fail
deriving DecidableEq, Repr

namespace StateKind

/-- The kinds by name. -/
def named : List (String × StateKind) := [
  ("Pass", .pass), ("Task", .task), ("Choice", .choice), ("Parallel", .parallel),
  ("Map", .map), ("Wait", .wait), ("Succeed", .succeed), ("Fail", .fail)]

/-- The name of a kind. -/
def name : StateKind → String
  | .pass => "Pass"
  | .task => "Task"
  | .choice => "Choice"
  | .parallel => "Parallel"
  | .map => "Map"
  | .wait => "Wait"
  | .succeed => "Succeed"
  | .fail => "Fail"

/-- Decode a kind. -/
def decoder : Decoder StateKind :=
  Decode.choice named

end StateKind

/-- A rule of a choice state: a predicate, and the state entered when it
holds. -/
structure ChoiceRule where
  next : String
  predicate : Dict Json

/-- A level of a workflow over some type of states. -/
structure LevelOf (σ : Type) where
  comment : Option String
  startAt : String
  states : List (String × σ)

/-- A state. -/
structure State where
  kind : StateKind
  next : Option String
  ends : Bool
  choices : List ChoiceRule
  default : Option String
  branches : List (LevelOf State)
  iterator : Option (LevelOf State)
  extra : Dict Json

/-- A level of a workflow; the root level is the workflow itself. -/
abbrev Level := LevelOf State

namespace ChoiceRule

/-- Evaluate the predicate of a rule. -/
def evaluate (rule : ChoiceRule) (input : Json) : Except Failure Bool :=
  Predicate.evaluate rule.predicate input

/-- A rule as JSON, its target first. -/
def encode (rule : ChoiceRule) : Json :=
  .object (("Next", .string rule.next) :: rule.predicate)

/-- What is known of a rule while its fields are walked. -/
structure Partial where
  next : Option String := none
  predicate : Dict Json := []

/-- Decode the next field of a rule; all but the target belong to the
predicate. -/
def field (known : Partial) (name : String) (reading : Reading) (draft : Draft) :
    Except DecodeError Partial :=
  if name = "Next" then do
    let next ← Decode.once name known.next Decode.string reading draft
    .ok { known with next }
  else do
    let value ← Decode.json reading draft
    .ok { known with predicate := Dict.insert known.predicate name value }

/-- Decode a rule. -/
def decoder : Decoder ChoiceRule := fun reading draft => do
  let known ← Decode.fields "struct ChoiceRule" {} field reading draft
  let next ← Decode.required "Next" known.next
  .ok { next, predicate := known.predicate }

end ChoiceRule

namespace State

/-- A state of a kind with nothing else said about it. -/
def ofKind (kind : StateKind) : State where
  kind
  next := none
  ends := false
  choices := []
  default := none
  branches := []
  iterator := none
  extra := []

/-- The states that a choice names: the targets of its rules, and its default
last. -/
def choiceTargets (state : State) : List String :=
  state.choices.map ChoiceRule.next ++ state.default.toList

end State

/-- A field that is only written when it says something. -/
def optionalField (name : String) : Option Json → List (String × Json)
  | none => []
  | some value => [(name, value)]

/-- A list that is only written when it is not empty. -/
def listField (name : String) : List Json → List (String × Json)
  | [] => []
  | items => [(name, .array items)]

mutual

/-- A state as JSON: its own fields in the order of their declaration, then the
others. -/
def State.encode : State → Json
  | ⟨kind, next, ends, choices, default, branches, iterator, extra⟩ =>
    .object (
      [("Type", .string kind.name)]
        ++ optionalField "Next" (next.map .string)
        ++ (if ends then [("End", .bool true)] else [])
        ++ listField "Choices" (choices.map ChoiceRule.encode)
        ++ optionalField "Default" (default.map .string)
        ++ listField "Branches" (encodeBranches branches)
        ++ encodeIterator iterator
        ++ extra)

/-- The branches of a state as JSON. -/
def encodeBranches : List (LevelOf State) → List Json
  | [] => []
  | branch :: rest => encodeLevel branch :: encodeBranches rest

/-- The field of an iterator, if there is one. -/
def encodeIterator : Option (LevelOf State) → List (String × Json)
  | none => []
  | some level => [("Iterator", encodeLevel level)]

/-- A level as JSON, its states in the order of their declaration. -/
def encodeLevel : LevelOf State → Json
  | ⟨comment, startAt, states⟩ =>
    .object (
      optionalField "Comment" (comment.map .string)
        ++ [("StartAt", .string startAt), ("States", .object (encodeStates states))])

/-- The states of a level as JSON. -/
def encodeStates : List (String × State) → List (String × Json)
  | [] => []
  | (name, state) :: rest => (name, state.encode) :: encodeStates rest

end

/-- A state as a JSON value. -/
def State.toJson (state : State) : Json :=
  state.encode.sorted

namespace Level

/-- The state of that name. -/
def state? (level : Level) (name : String) : Option State :=
  Dict.get? level.states name

/-- The names of the states, in the order of their declaration. -/
def names (level : Level) : List String :=
  level.states.map Prod.fst

/-- A level as text. -/
def text (level : Level) : String :=
  (encodeLevel level).compact

end Level

/-! ## Decoding -/

namespace State

/-- What is known of a state while its fields are walked. -/
structure Partial where
  kind : Option StateKind := none
  next : Option (Option String) := none
  ends : Option Bool := none
  choices : Option (List ChoiceRule) := none
  default : Option (Option String) := none
  branches : Option (List Level) := none
  iterator : Option (Option Level) := none
  extra : Dict Json := []

/-- Decode the next field of a state, given a decoder for the levels in it. -/
def field (level : Decoder Level) (known : Partial) (name : String) (reading : Reading)
    (draft : Draft) : Except DecodeError Partial :=
  match name with
  | "Type" => do
    let kind ← Decode.once name known.kind StateKind.decoder reading draft
    .ok { known with kind }
  | "Next" => do
    let next ← Decode.once name known.next (Decode.option Decode.string) reading draft
    .ok { known with next }
  | "End" => do
    let ends ← Decode.once name known.ends Decode.bool reading draft
    .ok { known with ends }
  | "Choices" => do
    let choices ← Decode.once name known.choices (Decode.list ChoiceRule.decoder) reading draft
    .ok { known with choices }
  | "Default" => do
    let default ← Decode.once name known.default (Decode.option Decode.string) reading draft
    .ok { known with default }
  | "Branches" => do
    let branches ← Decode.once name known.branches (Decode.list level) reading draft
    .ok { known with branches }
  | "Iterator" => do
    let iterator ← Decode.once name known.iterator (Decode.option level) reading draft
    .ok { known with iterator }
  | _ => do
    let value ← Decode.json reading draft
    .ok { known with extra := Dict.insert known.extra name value }

/-- Decode a state, given a decoder for the levels in it. It is always an
object. -/
def decoderWith (level : Decoder Level) : Decoder State := fun reading draft => do
  let known ← Decode.fields "struct StateSpec" {} (field level) reading draft
  let kind ← Decode.required "Type" known.kind
  .ok {
    kind
    next := known.next.getD none
    ends := known.ends.getD false
    choices := known.choices.getD []
    default := known.default.getD none
    branches := known.branches.getD []
    iterator := known.iterator.getD none
    extra := known.extra }

end State

namespace Level

/-- Decode the states of a level, given a decoder for one. No name may stand
twice. -/
def statesDecoder (state : Decoder State) : Decoder (List (String × State)) :=
  Decode.fields "a map of state names to state definitions" [] fun done name reading draft => do
    let value ← state reading draft
    if (done.map Prod.fst).contains name then .error (.duplicateState name)
    else .ok (done ++ [(name, value)])

/-- What is known of a level while its fields are walked. -/
structure Partial where
  comment : Option (Option String) := none
  startAt : Option String := none
  states : Option (List (String × State)) := none

/-- Decode the next field of a level. Unknown fields are passed over. -/
def field (state : Decoder State) (known : Partial) (name : String) (reading : Reading)
    (draft : Draft) : Except DecodeError Partial :=
  match name with
  | "Comment" => do
    let comment ← Decode.once name known.comment (Decode.option Decode.string) reading draft
    .ok { known with comment }
  | "StartAt" => do
    let startAt ← Decode.once name known.startAt Decode.string reading draft
    .ok { known with startAt }
  | "States" => do
    let states ← Decode.once name known.states (statesDecoder state) reading draft
    .ok { known with states }
  | _ => do
    Decode.ignore draft
    .ok known

/-- Decode a level from an object. -/
def ofObject (state : Decoder State) : Decoder Level := fun reading draft => do
  let known ← Decode.fields "struct StateMachineDefinition" {} (field state) reading draft
  let startAt ← Decode.required "StartAt" known.startAt
  let states ← Decode.required "States" known.states
  .ok { comment := known.comment.getD none, startAt, states }

/-- Decode a level from the items of an array. -/
def ofItems (state : Decoder State) (reading : Reading) (rest : Decode.Positions) :
    Except DecodeError (Level × Decode.Positions) := do
  let expected := "struct StateMachineDefinition with 3 elements"
  let (comment, rest) ← Decode.nextItem (Decode.option Decode.string) reading rest
  let (startAt, rest) ← Decode.requiredItem 1 expected Decode.string reading rest
  let (states, rest) ← Decode.requiredItem 2 expected (statesDecoder state) reading rest
  .ok ({ comment := comment.getD none, startAt, states }, rest)

/-- Decode a level, given a decoder for its states. -/
def decoderWith (state : Decoder State) : Decoder Level :=
  Decode.record "struct StateMachineDefinition" (ofObject state) (ofItems state)

/-- Decode a level in which levels are nested at most that deep. -/
def decoderWithin : Nat → Decoder Level
  | 0 => fun _ _ => .error (.fault .tooDeep)
  | depth + 1 => decoderWith (State.decoderWith (decoderWithin depth))

/-- Decode a level. Levels nest less deeply than the draft is high. -/
def decoder : Decoder Level := fun reading draft =>
  decoderWithin draft.height reading draft

/-- The workflow of a text. -/
def ofText (text : String) : Except DecodeError Level :=
  Decode.text decoder text

end Level

namespace State

/-- Decode a state. -/
def decoder : Decoder State := fun reading draft =>
  decoderWith (Level.decoderWithin draft.height) reading draft

end State

end EventFlow
