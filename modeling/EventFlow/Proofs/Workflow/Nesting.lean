import EventFlow.Workflow.Plan

/-!
# Levels inside levels

Parallel states hold levels as branches and map states hold one as their
iterator. This module says which levels are planned together with a state, what
it means that something holds throughout a workflow, and how the steps of a plan
and the encoding of a workflow follow the nesting.
-/

namespace EventFlow

/-- The levels that are planned together with a state. What other kinds of
states hold besides is never looked at. -/
def State.sublevels (state : State) : List Level :=
  match state.kind with
  | .parallel => state.branches
  | .map => state.iterator.toList
  | _ => []

namespace Level

/-- A property of a level and of all levels that are planned inside it. -/
inductive Throughout (property : Level → Prop) : Level → Prop where
  | intro {level : Level} (here : property level)
      (inside : ∀ name state, (name, state) ∈ level.states →
        ∀ sub ∈ state.sublevels, Throughout property sub) :
      Throughout property level

/-- The property holds of the outermost level. -/
theorem Throughout.here {property : Level → Prop} {level : Level}
    (throughout : Throughout property level) : property level := by
  cases throughout with
  | intro here _ => exact here

/-- The property holds throughout every level that is planned inside. -/
theorem Throughout.inside {property : Level → Prop} {level sub : Level} {name : String}
    {state : State} (throughout : Throughout property level)
    (declared : (name, state) ∈ level.states) (planned : sub ∈ state.sublevels) :
    Throughout property sub := by
  cases throughout with
  | intro _ inside => exact inside name state declared sub planned

/-- What follows from a property holds throughout what the property holds
throughout. -/
theorem Throughout.mono {property weaker : Level → Prop} {level : Level}
    (throughout : Throughout property level) (follows : ∀ level, property level → weaker level) :
    Throughout weaker level := by
  induction throughout with
  | intro here _ ih => exact .intro (follows _ here) ih

/-- Two properties that hold throughout a level hold together. -/
theorem Throughout.and {first second : Level → Prop} {level : Level}
    (left : Throughout first level) (right : Throughout second level) :
    Throughout (fun level => first level ∧ second level) level := by
  induction left with
  | intro here _ ih =>
      exact .intro ⟨here, right.here⟩ fun name state declared sub listed =>
        ih name state declared sub listed (right.inside declared listed)

/-- A level is larger than any branch of its states. -/
theorem sizeOf_branch {level sub : Level} {name : String} {state : State}
    (declared : (name, state) ∈ level.states) (branch : sub ∈ state.branches) :
    sizeOf sub < sizeOf level := by
  have entrySmaller := List.sizeOf_lt_of_mem declared
  have branchSmaller := List.sizeOf_lt_of_mem branch
  cases level
  cases state
  simp at *
  omega

/-- A level is larger than any iterator of its states. -/
theorem sizeOf_iterator {level sub : Level} {name : String} {state : State}
    (declared : (name, state) ∈ level.states) (iterator : state.iterator = some sub) :
    sizeOf sub < sizeOf level := by
  have entrySmaller := List.sizeOf_lt_of_mem declared
  cases level
  cases state
  simp at *
  subst iterator
  simp at *
  omega

/-- A level is larger than any level that is planned inside it. -/
theorem sizeOf_sublevel {level sub : Level} {name : String} {state : State}
    (declared : (name, state) ∈ level.states) (planned : sub ∈ state.sublevels) :
    sizeOf sub < sizeOf level := by
  unfold State.sublevels at planned
  split at planned
  · exact sizeOf_branch declared planned
  · exact sizeOf_iterator declared (Option.mem_toList.mp planned)
  · exact absurd planned List.not_mem_nil

/-- Induction over the nesting of levels: a level may count on the levels that
are planned inside it. -/
theorem nestingInduction {motive : Level → Prop}
    (step : ∀ level, (∀ name state, (name, state) ∈ level.states →
      ∀ sub ∈ state.sublevels, motive sub) → motive level) (level : Level) : motive level :=
  step level fun _ _ declared sub planned =>
    have := sizeOf_sublevel declared planned
    nestingInduction step sub
termination_by sizeOf level

end Level

/-- All levels in a state, whether its kind plans them or not. -/
def State.levels (state : State) : List Level :=
  state.branches ++ state.iterator.toList

/-- What is planned together with a state is in it. -/
theorem State.mem_levels_of_mem_sublevels {state : State} {sub : Level}
    (planned : sub ∈ state.sublevels) : sub ∈ state.levels := by
  unfold State.sublevels at planned
  unfold State.levels
  split at planned
  · exact List.mem_append_left _ planned
  · exact List.mem_append_right _ planned
  · exact absurd planned List.not_mem_nil

namespace Level

/-- A property of a level and of all levels inside it, planned or not. -/
inductive Everywhere (property : Level → Prop) : Level → Prop where
  | intro {level : Level} (here : property level)
      (inside : ∀ name state, (name, state) ∈ level.states →
        ∀ sub ∈ state.levels, Everywhere property sub) :
      Everywhere property level

/-- The property holds of the outermost level. -/
theorem Everywhere.here {property : Level → Prop} {level : Level}
    (everywhere : Everywhere property level) : property level := by
  cases everywhere with
  | intro here _ => exact here

/-- The property holds everywhere in a level that is inside. -/
theorem Everywhere.inside {property : Level → Prop} {level sub : Level} {name : String}
    {state : State} (everywhere : Everywhere property level)
    (declared : (name, state) ∈ level.states) (listed : sub ∈ state.levels) :
    Everywhere property sub := by
  cases everywhere with
  | intro _ inside => exact inside name state declared sub listed

/-- What follows from a property holds everywhere where the property does. -/
theorem Everywhere.mono {property weaker : Level → Prop} {level : Level}
    (everywhere : Everywhere property level) (follows : ∀ level, property level → weaker level) :
    Everywhere weaker level := by
  induction everywhere with
  | intro here _ ih => exact .intro (follows _ here) ih

/-- What holds everywhere holds throughout what is planned. -/
theorem Everywhere.throughout {property : Level → Prop} {level : Level}
    (everywhere : Everywhere property level) : Throughout property level := by
  induction everywhere with
  | intro here _ ih =>
      exact .intro here fun name state declared sub planned =>
        ih name state declared sub (State.mem_levels_of_mem_sublevels planned)

/-- Induction over all levels in a level. -/
theorem inclusionInduction {motive : Level → Prop}
    (step : ∀ level, (∀ name state, (name, state) ∈ level.states →
      ∀ sub ∈ state.levels, motive sub) → motive level) (level : Level) : motive level :=
  step level fun _ _ declared sub listed =>
    have : sizeOf sub < sizeOf level := by
      rcases List.mem_append.mp listed with branch | iterator
      · exact sizeOf_branch declared branch
      · exact sizeOf_iterator declared (Option.mem_toList.mp iterator)
    inclusionInduction step sub
termination_by sizeOf level

end Level

/-- A workflow with every kind of nesting. A choice goes to a parallel state, whose
second branch starts with a choice of its own, and from there to a map state, or
it skips both. -/
def Level.sample : Level where
  comment := none
  startAt := "Check"
  states := [
    ("Check", { State.ofKind .choice with
      choices := [⟨"Both", [("BooleanEquals", .bool true), ("Variable", "$.ok")]⟩]
      default := some "Skip" }),
    ("Both", { State.ofKind .parallel with
      next := some "Each"
      branches := [
        ⟨none, "Left", [("Left", { State.ofKind .pass with ends := true })]⟩,
        ⟨none, "Right", [
          ("Right", { State.ofKind .choice with
            choices := [⟨"Wait", [("BooleanEquals", .bool true), ("Variable", "$.slow")]⟩]
            default := some "Go" }),
          ("Wait", { State.ofKind .wait with ends := true }),
          ("Go", { State.ofKind .pass with ends := true })]⟩] }),
    ("Each", { State.ofKind .map with
      ends := true
      iterator := some ⟨none, "Item", [("Item", { State.ofKind .task with ends := true })]⟩ }),
    ("Skip", { State.ofKind .pass with ends := true })]

/-- What holds of the sample and of the levels inside it holds throughout it. -/
theorem Level.sample_throughout {property : Level → Prop} (root : property sample)
    (nested : ∀ entry ∈ sample.states, ∀ sub ∈ entry.2.sublevels, property sub) :
    sample.Throughout property := by
  have flat : ∀ entry ∈ sample.states, ∀ sub ∈ entry.2.sublevels, ∀ inner ∈ sub.states,
      inner.2.sublevels.isEmpty = true := by
    decide
  refine .intro root fun name state declared sub planned => ?_
  refine .intro (nested (name, state) declared sub planned) ?_
  intro innerName inner innerDeclared deeper deeperPlanned
  have empty := flat (name, state) declared sub planned (innerName, inner) innerDeclared
  rw [List.isEmpty_iff.mp empty] at deeperPlanned
  exact absurd deeperPlanned List.not_mem_nil

/-- All levels in the sample are planned, so what holds throughout it holds everywhere in it. -/
theorem Level.sample_everywhere {property : Level → Prop} (throughout : sample.Throughout property) :
    sample.Everywhere property := by
  have allPlanned : ∀ entry ∈ sample.states, entry.2.levels = entry.2.sublevels := by
    simp only [sample, List.forall_mem_cons]
    exact ⟨rfl, rfl, rfl, rfl, nofun⟩
  have flat : ∀ entry ∈ sample.states, ∀ sub ∈ entry.2.levels, ∀ inner ∈ sub.states,
      inner.2.levels.isEmpty = true := by
    decide
  refine .intro throughout.here fun name state declared sub listed => ?_
  have planned : sub ∈ state.sublevels := allPlanned (name, state) declared ▸ listed
  refine .intro (throughout.inside declared planned).here ?_
  intro innerName inner innerDeclared deeper deeperListed
  have empty := flat (name, state) declared sub listed (innerName, inner) innerDeclared
  rw [List.isEmpty_iff.mp empty] at deeperListed
  exact absurd deeperListed List.not_mem_nil

/-- The states of the sample have distinct names on every level. -/
theorem Level.sample_distinct : sample.Throughout fun level => level.names.Nodup :=
  sample_throughout (by decide) (by decide)

/-- The compiler makes a plan for the sample. -/
theorem Compiler.sample_planned :
    ∃ plan after, ({} : Compiler).plan Level.sample "$init" = .ok (plan, after) := by
  have succeeds : (({} : Compiler).plan Level.sample "$init").isOk = true := by decide +kernel
  cases planned : ({} : Compiler).plan Level.sample "$init" with
  | error failure => simp [planned, Except.isOk, Except.toBool] at succeeds
  | ok made => exact ⟨made.1, made.2, rfl⟩

namespace Plan

/-- The steps of states are listed under the names of the states. -/
theorem stateSteps_eq (states : List (String × State)) :
    stateSteps states = states.map fun entry => (entry.1, stateStep entry.1 entry.2) := by
  induction states with
  | nil => rfl
  | cons entry rest ih => simp [stateSteps, ih]

/-- The steps of branches are those of the levels. -/
theorem branchSteps_eq (branches : List Level) : branchSteps branches = branches.map levelStep := by
  induction branches with
  | nil => rfl
  | cons branch rest ih => simp [branchSteps, ih]

/-- The step of a state is made of the steps of the levels in it. -/
theorem stateStep_eq (name : String) (state : State) :
    stateStep name state =
      planKind name state (state.branches.map levelStep) (state.iterator.map levelStep) := by
  obtain ⟨kind, next, ends, choices, default, branches, iterator, extra⟩ := state
  cases iterator <;> simp [stateStep, branchSteps_eq, iteratorStep?]

/-- The step of a level is made of the steps of its states. -/
theorem levelStep_eq (level : Level) :
    levelStep level =
      planLevel level (level.states.map fun entry => (entry.1, stateStep entry.1 entry.2)) := by
  cases level
  simp [levelStep, stateSteps_eq]

end Plan

/-! ## Encodings -/

/-- Branches are written one by one. -/
theorem encodeBranches_eq_map (branches : List Level) :
    encodeBranches branches = branches.map encodeLevel := by
  induction branches with
  | nil => rfl
  | cons branch rest ih => rw [encodeBranches, ih, List.map_cons]

/-- States are written one by one, under their names. -/
theorem encodeStates_eq_map (states : List (String × State)) :
    encodeStates states = states.map fun entry => (entry.1, entry.2.encode) := by
  induction states with
  | nil => rfl
  | cons entry rest ih => rw [encodeStates, ih, List.map_cons]

/-- An optional field is written if it has a value. -/
theorem mem_optionalField_iff {name : String} {value : Option Json} {field : String × Json} :
    field ∈ optionalField name value ↔ ∃ present, value = some present ∧ field = (name, present) := by
  cases value <;> simp [optionalField]

/-- A list is written if it has an item. -/
theorem mem_listField_iff {name : String} {items : List Json} {field : String × Json} :
    field ∈ listField name items ↔ items ≠ [] ∧ field = (name, .array items) := by
  cases items <;> simp [listField]

/-- An iterator is written if there is one. -/
theorem mem_encodeIterator_iff {iterator : Option Level} {field : String × Json} :
    field ∈ encodeIterator iterator ↔
      ∃ sub, iterator = some sub ∧ field = ("Iterator", encodeLevel sub) := by
  cases iterator <;> simp [encodeIterator]

/-- The fields that are written for a state. -/
def State.encodedFields (state : State) : List (String × Json) :=
  [("Type", .string state.kind.name)]
    ++ optionalField "Next" (state.next.map .string)
    ++ (if state.ends then [("End", .bool true)] else [])
    ++ listField "Choices" (state.choices.map ChoiceRule.encode)
    ++ optionalField "Default" (state.default.map .string)
    ++ listField "Branches" (state.branches.map encodeLevel)
    ++ encodeIterator state.iterator
    ++ state.extra

/-- A state is written field by field. -/
theorem State.encode_eq (state : State) : state.encode = .object state.encodedFields := by
  cases state
  rw [encode, encodeBranches_eq_map]
  rfl

/-- The fields that are written for a level. -/
def Level.encodedFields (level : Level) : List (String × Json) :=
  optionalField "Comment" (level.comment.map .string)
    ++ [("StartAt", .string level.startAt),
      ("States", .object (level.states.map fun entry => (entry.1, entry.2.encode)))]

/-- A level is written field by field. -/
theorem Level.encode_eq (level : Level) : encodeLevel level = .object level.encodedFields := by
  cases level
  rw [encodeLevel, encodeStates_eq_map]
  rfl

end EventFlow
