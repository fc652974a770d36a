import EventFlow.Proofs.Change
import EventFlow.Proofs.Workflow.Order
import EventFlow.Proofs.Workflow.Transitions

/-!
# Successful steps of a plan

Each function that plans a part of a workflow is taken apart once: what it has
done when it succeeds, and on what. Nothing else needs to open them.
-/

namespace EventFlow

namespace Links

variable {level : Level} {links : Links}

/-- What a declared state is entered from is declared too. -/
theorem Describes.closed (described : Describes level links level.states) :
    Closed links.entrances level.names := by
  intro name _ previous entered
  rcases (described.records name _).mp entered with ⟨_, equal⟩ | ⟨source, seen, equal⟩
  · cases equal
  · cases equal
    obtain ⟨state, declared, _⟩ := mem_transitionsOf_iff.mp seen
    exact List.mem_map.mpr ⟨_, declared, rfl⟩

/-- A transition is the only one into its target. -/
theorem Describes.entered (described : Describes level links level.states) {source target : String}
    (transition : level.Transition source target) :
    Dict.get? links.entrances target = some (.state source) :=
  (described.records target _).mpr (.inr ⟨source, mem_transitionsOf_iff.mpr transition, rfl⟩)

/-- What a state is entered from leads to it. -/
theorem Describes.transition (described : Describes level links level.states)
    {source target : String} (entered : Dict.get? links.entrances target = some (.state source)) :
    level.Transition source target := by
  rcases (described.records target _).mp entered with ⟨_, equal⟩ | ⟨_, seen, equal⟩
  · cases equal
  · cases equal
    exact mem_transitionsOf_iff.mp seen

/-- Only the start of a level is entered from outside. -/
theorem Describes.entry_iff (described : Describes level links level.states) {name : String} :
    Dict.get? links.entrances name = some .entry ↔ name = level.startAt := by
  rw [described.records name]
  simp

/-- A state is reached by transitions exactly when the walk back from it comes to
the entry. -/
theorem Describes.reached_iff (described : Describes level links level.states) {name : String} :
    level.Reached name ↔ ∃ depth, Depth links.entrances depth name := by
  constructor
  · intro reached
    induction reached with
    | refl => exact ⟨0, .entry (described.entry_iff.mpr rfl)⟩
    | tail _ transition ih =>
        obtain ⟨depth, deep⟩ := ih
        exact ⟨depth + 1, .state (described.entered transition) deep⟩
  · rintro ⟨depth, deep⟩
    induction deep with
    | entry entered =>
        rw [described.entry_iff.mp entered]
        exact Relation.ReflTransGen.refl
    | state entered _ ih => exact ih.tail (described.transition entered)

end Links

namespace Plan

variable {entry site : Site} {progress next : Progress}

/-- The step of a declared state is found under its name. -/
theorem get?_stateSteps (states : List (String × State)) (name : String) :
    Dict.get? (states.map fun entry => (entry.1, stateStep entry.1 entry.2)) name =
      (Dict.get? states name).map (stateStep name) := by
  induction states with
  | nil => rfl
  | cons entry rest ih =>
      obtain ⟨other, state⟩ := entry
      by_cases same : other = name
      · subst same
        simp
      · simpa [same] using ih

/-- A number that was taken is the one that was next. -/
@[simp] theorem success_takeNumber :
    takeNumber.success progress =
      .ok (progress.sequence, { progress with sequence := progress.sequence + 1 }) :=
  rfl

/-- A trigger that was planned is the last one. -/
@[simp] theorem success_emit (submission : Submission) :
    (emit submission).success progress = .ok ((), progress.push submission) :=
  rfl

/-- A state of a level is planned by the step under its name, at the site that
its predecessor leaves to it. -/
theorem planState_eq_ok_iff {links : Links} {steps : List (String × Step Outcome)}
    {done after : Dict Outcome} {name : String} :
    (planState links entry steps done name).success progress = .ok (after, next) ↔
      ∃ step site outcome, Dict.get? steps name = some step ∧
        siteOf links entry done name = .ok site ∧ (step site).success progress = .ok (outcome, next) ∧
        after = Dict.insert done name outcome := by
  unfold planState
  cases Dict.get? steps name with
  | none => simp
  | some step =>
      simp only [↓Change.success_lift_bind, Change.success_bind, Change.success_pure,
        Failing.bind_eq_ok, Prod.exists, Except.ok.injEq, Prod.mk.injEq, Option.some.injEq]
      constructor
      · rintro ⟨site, sited, outcome, _, planned, rfl, rfl⟩
        exact ⟨step, site, outcome, rfl, sited, planned, rfl⟩
      · rintro ⟨_, site, outcome, rfl, sited, planned, rfl⟩
        exact ⟨site, sited, outcome, next, planned, rfl, rfl⟩

/-- A level is planned in its order between taking its number and adding its
closing trigger. -/
theorem planLevel_eq_ok_iff {level : Level} {steps : List (String × Step Outcome)} {id : String} :
    (planLevel level steps entry).success progress = .ok (id, next) ↔
      ∃ links order done middle completions, Links.ofLevel level = .ok links ∧
        Links.order level.names links.entrances = .ok order ∧
        (order.foldlM (planState links entry steps) []).success
          { progress with sequence := progress.sequence + 1 } = .ok (done, middle) ∧
        links.terminals.mapM (completionOf done) = .ok completions ∧
        id = closingId progress.sequence ∧
        next = middle.push (closingTrigger id completions entry.depth) := by
  unfold planLevel
  simp only [↓Change.success_lift_bind, Change.success_bind, Change.success_pure,
    success_takeNumber, success_emit, Failing.ok_bind, Failing.bind_eq_ok, Prod.exists,
    Except.ok.injEq, Prod.mk.injEq]
  constructor
  · rintro ⟨links, linked, order, ordered, done, middle, folded, completions, completed, rfl, rfl⟩
    exact ⟨links, order, done, middle, completions, linked, ordered, folded, completed, rfl, rfl⟩
  · rintro ⟨links, order, done, middle, completions, linked, ordered, folded, completed, rfl, rfl⟩
    exact ⟨links, linked, order, ordered, done, middle, folded, completions, completed, rfl, rfl⟩

/-- A state that is one trigger is planned by it, whatever is planned already. -/
theorem planSingle_eq_ok_iff {name action : String} {state : State} {outcome : Outcome} :
    (planSingle name action state site).success progress = .ok (outcome, next) ↔
      outcome = ⟨name, none⟩ ∧
        next = progress.push
          (stateTrigger name [site.input] action (gated (stateContext name state) site.gate)) := by
  simp only [planSingle, Change.success_bind, Change.success_pure, success_emit, Failing.ok_bind,
    Except.ok.injEq, Prod.mk.injEq, eq_comm]

/-- A parallel state is planned by planning its branches, of which there is one
at least, and then its join. -/
theorem planParallel_eq_ok_iff {name : String} {state : State} {branches : List (Step String)}
    {outcome : Outcome} :
    (planParallel name state branches site).success progress = .ok (outcome, next) ↔
      branches ≠ [] ∧ ∃ ids middle,
        (planBranches branches { site with depth := site.depth + 1 }).success progress =
          .ok (ids, middle) ∧
        outcome = ⟨name, none⟩ ∧
        next = middle.push
          (stateTrigger name ids Vocabulary.statePass (stateContext name state)) := by
  unfold planParallel
  cases branches with
  | nil => simp
  | cons branch rest =>
      simp only [Change.success_bind, Change.success_pure, success_emit, Failing.ok_bind,
        Failing.bind_eq_ok, Prod.exists, Except.ok.injEq, Prod.mk.injEq, ne_eq,
        List.cons_ne_nil, not_false_eq_true, true_and]
      constructor
      · rintro ⟨ids, middle, planned, rfl, rfl⟩
        exact ⟨ids, middle, planned, rfl, rfl⟩
      · rintro ⟨ids, middle, planned, rfl, rfl⟩
        exact ⟨ids, middle, planned, rfl, rfl⟩

/-- A map state is planned by its own trigger and then its iterator, which there
has to be. -/
theorem planMap_eq_ok_iff {name : String} {state : State} {iterator : Option (Step String)}
    {outcome : Outcome} :
    (planMap name state iterator site).success progress = .ok (outcome, next) ↔
      ∃ step id, iterator = some step ∧
        (step ⟨name, none, site.depth + 1⟩).success
          (progress.push (stateTrigger name [site.input] Vocabulary.task
            (gated (stateContext name state) site.gate))) = .ok (id, next) ∧
        outcome = ⟨id, none⟩ := by
  unfold planMap
  cases iterator with
  | none => simp
  | some step =>
      simp only [Change.success_bind, Change.success_pure, Failing.bind_eq_ok, Prod.exists,
        planSingle_eq_ok_iff, Except.ok.injEq, Prod.mk.injEq, Option.some.injEq]
      constructor
      · rintro ⟨_, _, ⟨rfl, rfl⟩, id, _, planned, rfl, rfl⟩
        exact ⟨step, id, rfl, planned, rfl⟩
      · rintro ⟨_, id, rfl, planned, rfl⟩
        exact ⟨_, _, ⟨rfl, rfl⟩, id, next, planned, rfl, rfl⟩

/-- Branches are planned one after the other. -/
theorem planBranches_cons_eq_ok_iff {branch : Step String} {rest : List (Step String)}
    {ids : List String} :
    (planBranches (branch :: rest) site).success progress = .ok (ids, next) ↔
      ∃ id middle others, (branch site).success progress = .ok (id, middle) ∧
        (planBranches rest site).success middle = .ok (others, next) ∧ ids = id :: others := by
  simp only [planBranches, Change.success_bind, Change.success_pure, Failing.bind_eq_ok,
    Prod.exists, Except.ok.injEq, Prod.mk.injEq]
  constructor
  · rintro ⟨id, middle, first, others, _, later, rfl, rfl⟩
    exact ⟨id, middle, others, first, later, rfl⟩
  · rintro ⟨id, middle, others, first, later, rfl⟩
    exact ⟨id, middle, first, others, next, later, rfl, rfl⟩

/-- The context of a state's trigger holds its condition. -/
theorem get?_condition_gated (name : String) (state : State) (gate : Option Json) :
    Dict.get? (gated (stateContext name state) gate) "Condition" = gate := by
  have absent : Dict.get? (stateContext name state) "Condition" = none := by
    simp [stateContext, Dict.ofList, Dict.get?_insert]
  cases gate with
  | none => exact absent
  | some rule => exact Dict.get?_insert_self _ _ _

/-- The context of a state's trigger holds the state. -/
theorem get?_state_gated (name : String) (state : State) (gate : Option Json) :
    Dict.get? (gated (stateContext name state) gate) "State" = some state.toJson := by
  have present : Dict.get? (stateContext name state) "State" = some state.toJson := by
    simp [stateContext, Dict.ofList, Dict.get?_insert]
  cases gate with
  | none => exact present
  | some rule => rw [gated, Dict.get?_insert_of_ne _ _ (by decide), present]

/-- The states of a level that have been planned one after the other, with what
the states behind them build on. -/
inductive Run (level : Level) (links : Links) (entry : Site) (start : Progress) :
    List String → Dict Outcome → Progress → Prop where
  | nil : Run level links entry start [] [] start
  | snoc {names : List String} {done : Dict Outcome} {progress : Progress} {name : String}
      {state : State} {site : Site} {outcome : Outcome} {next : Progress}
      (before : Run level links entry start names done progress)
      (declared : level.state? name = some state)
      (sited : siteOf links entry done name = .ok site)
      (planned : (stateStep name state site).success progress = .ok (outcome, next)) :
      Run level links entry start (names ++ [name]) (Dict.insert done name outcome) next

/-- A fold over the states of a level that has succeeded is a run. -/
theorem Run.of_foldlM {level : Level} {links : Links} {start : Progress} {order : List String}
    {done : Dict Outcome}
    (folded : (order.foldlM (planState links entry
      (level.states.map fun entry => (entry.1, stateStep entry.1 entry.2))) []).success start =
        .ok (done, next)) : Run level links entry start order done next := by
  rw [Change.success_foldlM] at folded
  refine Failing.foldlM_ok
    (motive := fun names (state : Dict Outcome × Progress) =>
      Run level links entry start names state.1 state.2) .nil ?_ folded
  intro names name behind state after _ before stepped
  obtain ⟨step, site, outcome, found, sited, planned, equal⟩ := planState_eq_ok_iff.mp stepped
  rw [get?_stateSteps, Option.map_eq_some_iff] at found
  obtain ⟨state, declared, rfl⟩ := found
  rw [equal]
  exact before.snoc declared sited planned

/-- Every state of a run has been planned somewhere. -/
theorem Run.planned {level : Level} {links : Links} {start : Progress} {names : List String}
    {done : Dict Outcome} (run : Run level links entry start names done next) :
    ∀ name ∈ names, ∃ state site before planned, level.state? name = some state ∧
      (stateStep name state site).success before = .ok planned := by
  induction run with
  | nil => simp
  | snoc _ declared _ planned ih =>
      intro name member
      rcases List.mem_append.mp member with earlier | now
      · exact ih name earlier
      · cases List.mem_singleton.mp now
        exact ⟨_, _, _, _, declared, planned⟩

/-- A state has been planned before its outcome is there. -/
theorem Run.mem_of_get? {level : Level} {links : Links} {start : Progress} {names : List String}
    {done : Dict Outcome} (run : Run level links entry start names done progress) {name : String}
    {outcome : Outcome} (found : Dict.get? done name = some outcome) : name ∈ names := by
  induction run generalizing outcome with
  | nil => cases found
  | @snoc names done progress last _ _ _ _ _ _ _ _ ih =>
      rw [Dict.get?_insert] at found
      split at found
      · next same =>
        subst same
        exact List.mem_append_right _ List.mem_cons_self
      · exact List.mem_append_left _ (ih found)

/-- The states of a level in the order in which they are planned, if it has a plan. -/
def planningOrder (level : Level) : List String :=
  match Links.ofLevel level with
  | .error _ => []
  | .ok links => (Links.order level.names links.entrances).toOption.getD []

/-- A level that has been planned: its links, the order of its states, what they
left to each other, and its closing trigger. -/
structure Planned (level : Level) (entry : Site) (progress : Progress) (id : String)
    (next : Progress) (links : Links) (order : List String) (done : Dict Outcome)
    (middle : Progress) (completions : List String) : Prop where
  start : level.startAt ∈ level.names
  described : Links.Describes level links level.states
  admissible : ∀ entry ∈ level.states, Links.Admissible level entry.2
  ended : links.terminals ≠ []
  planning : planningOrder level = order
  ordered : Links.Ordered links.entrances order
  complete : ∀ name, name ∈ order ↔ name ∈ level.names
  run : Run level links entry { progress with sequence := progress.sequence + 1 } order done middle
  completed : List.Forall₂ (fun name completion => completionOf done name = .ok completion)
    links.terminals completions
  id_eq : id = closingId progress.sequence
  next_eq : next = middle.push (closingTrigger id completions entry.depth)

/-- A step of a level that has succeeded has planned the level. -/
theorem levelStep_ok {level : Level} {id : String}
    (made : (levelStep level entry).success progress = .ok (id, next)) :
    ∃ links order done middle completions,
      Planned level entry progress id next links order done middle completions := by
  rw [levelStep_eq] at made
  obtain ⟨links, order, done, middle, completions, linked, orderMade, folded, completed, id_eq,
    next_eq⟩ := planLevel_eq_ok_iff.mp made
  obtain ⟨start, described, admissible, ended⟩ := Links.ofLevel_ok linked
  obtain ⟨ordered, complete⟩ := Links.order_ok described.closed orderMade
  have planning : planningOrder level = order := by
    simp [planningOrder, linked, orderMade, Except.toOption]
  exact ⟨links, order, done, middle, completions, {
    start, described, admissible, ended, planning, ordered, complete, id_eq, next_eq
    run := .of_foldlM folded
    completed := Failing.mapM_eq_ok_iff.mp completed }⟩

end Plan

namespace Compiler

variable {compiler after : Compiler} {workflow : Level} {initial : String} {plan : Plan}

/-- An attempt comes to what the step of the workflow comes to on the root level. Where
that has failed, whatever numbers it has taken, the compiler is as it was. -/
theorem attempt_eq (compiler : Compiler) (workflow : Level) (initial : String) :
    compiler.attempt workflow initial =
      match (Plan.levelStep workflow ⟨initial, none, 0⟩).perform ⟨compiler.sequence, []⟩ with
      | (.ok completion, progress) => (.ok ⟨completion, progress.triggers⟩, ⟨progress.sequence⟩)
      | (.error cause, _) => (.error cause, compiler) := by
  rcases came : (Plan.levelStep workflow ⟨initial, none, 0⟩).perform ⟨compiler.sequence, []⟩ with
    ⟨cause | completion, progress⟩ <;>
    simp only [attempt, planning, Change.perform_bind, Change.perform_get, Change.perform_set,
      Change.perform_pure, Change.perform_throw, came]

/-- An attempt that succeeds is a plan. -/
theorem attempt_eq_ok_iff :
    compiler.attempt workflow initial = (.ok plan, after) ↔
      compiler.plan workflow initial = .ok (plan, after) :=
  Change.success_eq_ok_iff.symm

/-- Without a plan an attempt leaves the compiler as it was. -/
theorem attempt_of_error {cause : Failure}
    (refused : compiler.plan workflow initial = .error cause) :
    compiler.attempt workflow initial = (.error cause, compiler) := by
  obtain ⟨after, failed⟩ := Change.success_eq_error_iff.mp refused
  change compiler.attempt workflow initial = _ at failed
  rw [attempt_eq] at failed ⊢
  rcases came : (Plan.levelStep workflow ⟨initial, none, 0⟩).perform ⟨compiler.sequence, []⟩ with
    ⟨reason | completion, progress⟩ <;> rw [came] at failed <;> cases failed
  rfl

/-- A plan is what the step of the workflow has planned on the root level. -/
theorem plan_eq_ok_iff :
    compiler.plan workflow initial = .ok (plan, after) ↔
      (Plan.levelStep workflow ⟨initial, none, 0⟩).success ⟨compiler.sequence, []⟩ =
        .ok (plan.completion, ⟨after.sequence, plan.triggers⟩) := by
  rw [← attempt_eq_ok_iff, attempt_eq, Change.success_eq_ok_iff]
  rcases (Plan.levelStep workflow ⟨initial, none, 0⟩).perform ⟨compiler.sequence, []⟩ with
    ⟨cause | completion, progress⟩
  · simp
  · cases plan; cases after; cases progress
    simp only [Prod.mk.injEq, Except.ok.injEq, Plan.mk.injEq, Compiler.mk.injEq,
      Progress.mk.injEq]
    exact and_assoc.trans (and_congr_right' and_comm)

/-- A workflow has a plan if its step succeeds on the root level. -/
theorem exists_plan {planned : String × Progress}
    (made : (Plan.levelStep workflow ⟨initial, none, 0⟩).success ⟨compiler.sequence, []⟩ =
      .ok planned) : ∃ plan after, compiler.plan workflow initial = .ok (plan, after) :=
  ⟨⟨planned.1, planned.2.triggers⟩, ⟨planned.2.sequence⟩, plan_eq_ok_iff.mpr made⟩

end Compiler

end EventFlow
