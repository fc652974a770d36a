import EventFlow.Proofs.Workflow.Steps

/-!
# Which workflows have a plan

A workflow has a plan exactly when it is well-formed throughout: on its root
level and on every level that is planned inside it. Neither the event on which
it starts nor the numbers given out before have a say in it.
-/

namespace EventFlow

namespace Plan

variable {entry site : Site} {progress next : Progress} {level : Level} {links : Links}

/-- The site of a state that is settled by the states planned before it. -/
theorem siteOf_total {done : Dict Outcome} {before : List String} {name : String}
    (known : ∀ other ∈ before, ∃ outcome, Dict.get? done other = some outcome)
    (settled : Links.Settled links.entrances before name) :
    ∃ site, siteOf links entry done name = .ok site := by
  rcases settled with entered | ⟨previous, placed, entered⟩
  · exact ⟨_, by simp only [siteOf, entered]; rfl⟩
  · obtain ⟨outcome, found⟩ := known previous placed
    exact ⟨_, by simp only [siteOf, entered, found]; rfl⟩

/-- The states of an order are all planned if each of their steps succeeds
anywhere. -/
theorem foldlM_planState_total (entry : Site) (progress : Progress)
    {steps : List (String × Step Outcome)} {order : List String}
    (ordered : Links.Ordered links.entrances order)
    (succeeds : ∀ name ∈ order, ∃ step, Dict.get? steps name = some step ∧
      ∀ site progress, ∃ planned, (step site).success progress = .ok planned) :
    ∃ result, (order.foldlM (planState links entry steps) []).success progress = .ok result ∧
      ∀ name ∈ order, ∃ outcome, Dict.get? result.1 name = some outcome := by
  rw [Change.success_foldlM]
  refine Failing.foldlM_total _ _ _
    (fun before (state : Dict Outcome × Progress) =>
      ∀ name ∈ before, ∃ outcome, Dict.get? state.1 name = some outcome) (by simp) ?_
  intro before name behind state split known
  obtain ⟨step, found, total⟩ := succeeds name (by simp [split])
  obtain ⟨site, sited⟩ : ∃ site, siteOf links entry state.1 name = .ok site :=
    siteOf_total known (ordered.settled split)
  obtain ⟨⟨outcome, next⟩, planned⟩ := total site state.2
  refine ⟨_, planState_eq_ok_iff.mpr ⟨step, site, outcome, found, sited, planned, rfl⟩, ?_⟩
  intro other member
  by_cases same : name = other
  · subst same
    exact ⟨outcome, Dict.get?_insert_self _ _ _⟩
  · rw [Dict.get?_insert_of_ne _ _ same]
    rcases List.mem_append.mp member with earlier | now
    · exact known other earlier
    · exact absurd (List.mem_singleton.mp now).symm same

/-- Branches that can all be planned are planned. -/
theorem planBranches_total (branches : List (Step String))
    (succeeds : ∀ branch ∈ branches, ∀ site progress,
      ∃ planned, (branch site).success progress = .ok planned)
    (site : Site) (progress : Progress) :
    ∃ planned, (planBranches branches site).success progress = .ok planned := by
  induction branches generalizing progress with
  | nil => exact ⟨_, rfl⟩
  | cons branch rest ih =>
      obtain ⟨⟨id, middle⟩, first⟩ := succeeds branch List.mem_cons_self site progress
      obtain ⟨⟨ids, next⟩, later⟩ :=
        ih (fun other member => succeeds other (List.mem_cons_of_mem _ member)) middle
      exact ⟨(id :: ids, next), planBranches_cons_eq_ok_iff.mpr ⟨id, middle, ids, first, later, rfl⟩⟩

/-- Planned branches have each been planned somewhere. -/
theorem planBranches_ok {branches : List (Step String)} {ids : List String}
    (planned : (planBranches branches site).success progress = .ok (ids, next)) :
    ∀ branch ∈ branches, ∃ site before planned, (branch site).success before = .ok planned := by
  induction branches generalizing progress ids with
  | nil => simp
  | cons branch rest ih =>
      obtain ⟨id, middle, others, first, later, _⟩ := planBranches_cons_eq_ok_iff.mp planned
      rintro other (_ | ⟨_, member⟩)
      · exact ⟨site, progress, _, first⟩
      · exact ih later other member

/-- A planned state has the levels that its kind asks for, and each of them has
been planned somewhere. -/
theorem stateStep_ok {name : String} {state : State} {planned : Outcome × Progress}
    (made : (stateStep name state site).success progress = .ok planned) :
    (state.kind = .parallel → state.branches ≠ []) ∧
      (state.kind = .map → state.iterator.isSome = true) ∧
      ∀ sub ∈ state.sublevels,
        ∃ site before planned, (levelStep sub site).success before = .ok planned := by
  rw [stateStep_eq, planKind] at made
  unfold State.sublevels
  cases kind : state.kind with
  | parallel =>
      simp only [kind] at made ⊢
      obtain ⟨nonempty, ids, middle, branches, _⟩ := planParallel_eq_ok_iff.mp made
      refine ⟨fun _ => by simpa using nonempty, by simp, fun sub member => ?_⟩
      exact planBranches_ok branches (levelStep sub) (List.mem_map_of_mem member)
  | map =>
      simp only [kind] at made ⊢
      obtain ⟨step, id, present, planned, _⟩ := planMap_eq_ok_iff.mp made
      cases iterator : state.iterator with
      | none => simp [iterator] at present
      | some sub =>
          rw [iterator, Option.map_some, Option.some.injEq] at present
          subst present
          refine ⟨by simp, by simp, fun other member => ?_⟩
          cases List.mem_singleton.mp member
          exact ⟨_, _, _, planned⟩
  | _ => simp

/-- A supported state with the levels that its kind asks for is planned anywhere
if each of these levels is. -/
theorem stateStep_total {name : String} {state : State}
    (supported : state.kind ≠ .succeed ∧ state.kind ≠ .fail)
    (hasBranches : state.kind = .parallel → state.branches ≠ [])
    (hasIterator : state.kind = .map → state.iterator.isSome = true)
    (succeeds : ∀ sub ∈ state.sublevels, ∀ site progress,
      ∃ planned, (levelStep sub site).success progress = .ok planned)
    (site : Site) (progress : Progress) :
    ∃ planned, (stateStep name state site).success progress = .ok planned := by
  rw [stateStep_eq, planKind]
  unfold State.sublevels at succeeds
  cases kind : state.kind with
  | succeed => exact absurd kind supported.1
  | fail => exact absurd kind supported.2
  | parallel =>
      simp only [kind] at succeeds ⊢
      obtain ⟨⟨ids, middle⟩, branches⟩ := planBranches_total (state.branches.map levelStep)
        (fun branch member => by
          obtain ⟨sub, inside, rfl⟩ := List.mem_map.mp member
          exact succeeds sub inside)
        { site with depth := site.depth + 1 } progress
      exact ⟨_, planParallel_eq_ok_iff.mpr
        ⟨by simpa using hasBranches kind, ids, middle, branches, rfl, rfl⟩⟩
  | map =>
      obtain ⟨sub, iterator⟩ := Option.isSome_iff_exists.mp (hasIterator kind)
      simp only [kind, iterator, Option.map_some, Option.toList_some, List.mem_singleton,
        forall_eq] at succeeds ⊢
      obtain ⟨⟨id, next⟩, planned⟩ := succeeds ⟨name, none, site.depth + 1⟩
        (progress.push (stateTrigger name [site.input] Vocabulary.task
          (gated (stateContext name state) site.gate)))
      exact ⟨_, planMap_eq_ok_iff.mpr ⟨levelStep sub, id, rfl, planned, rfl⟩⟩
  | _ => exact ⟨_, rfl⟩

/-- A level that has been planned somewhere is well-formed throughout. -/
theorem wellFormed_of_levelStep {level : Level}
    (distinct : level.Throughout fun level => level.names.Nodup) {entry : Site} {progress : Progress}
    {planned : String × Progress} (made : (levelStep level entry).success progress = .ok planned) :
    level.Throughout Level.WellFormed := by
  induction level using Level.nestingInduction generalizing entry progress planned with
  | step level ih =>
  obtain ⟨links, order, done, middle, completions, plan⟩ := levelStep_ok made
  have described := plan.described
  have stepped : ∀ name state, (name, state) ∈ level.states →
      ∃ site before planned, (stateStep name state site).success before = .ok planned := by
    intro name state declared
    have member : name ∈ order := (plan.complete name).mpr (List.mem_map.mpr ⟨_, declared, rfl⟩)
    obtain ⟨other, site, before, planned, found, made⟩ := plan.run.planned name member
    rw [Level.state?_of_mem_states distinct.here declared] at found
    cases found
    exact ⟨site, before, planned, made⟩
  refine .intro {
    startDeclared := plan.start
    supported := fun name state declared => (plan.admissible _ declared).supported
    endsOrContinues := fun name state declared => (plan.admissible _ declared).endsOrContinues
    hasEnd := ?_
    targetsDeclared := fun source target ⟨state, declared, targeted⟩ =>
      (plan.admissible _ declared).declared target targeted
    startNotEntered := fun source transition => by
      have entered := described.entered transition
      rw [described.entry_iff.mpr rfl] at entered
      cases entered
    enteredOnce := fun first second target left right => by
      have entered := described.entered left
      rw [described.entered right] at entered
      cases entered
      rfl
    reached := fun name member =>
      described.reached_iff.mpr (plan.ordered.depth name ((plan.complete name).mpr member))
    hasBranches := fun name state declared => by
      obtain ⟨_, _, _, made⟩ := stepped name state declared
      exact (stateStep_ok made).1
    hasIterator := fun name state declared => by
      obtain ⟨_, _, _, made⟩ := stepped name state declared
      exact (stateStep_ok made).2.1 } ?_
  · obtain ⟨name, member⟩ := List.exists_mem_of_ne_nil _ plan.ended
    rw [described.terminals] at member
    obtain ⟨⟨_, state⟩, kept, rfl⟩ := List.mem_map.mp member
    obtain ⟨declared, ends⟩ := List.mem_filter.mp kept
    exact ⟨_, state, declared, ends⟩
  · intro name state declared sub inside
    obtain ⟨_, _, _, made⟩ := stepped name state declared
    obtain ⟨_, _, _, planned⟩ := (stateStep_ok made).2.2 sub inside
    exact ih name state declared sub inside (distinct.inside declared inside) planned

/-- A level that is well-formed throughout is planned anywhere. -/
theorem levelStep_total {level : Level}
    (wellFormed : level.Throughout Level.WellFormed) (entry : Site) (progress : Progress) :
    ∃ planned, (levelStep level entry).success progress = .ok planned := by
  induction level using Level.nestingInduction generalizing entry progress with
  | step level ih =>
  have here := wellFormed.here
  obtain ⟨links, linked⟩ := Links.ofLevel_total here.startDeclared
    (fun state declared => {
      supported := here.supported _ _ declared
      endsOrContinues := here.endsOrContinues _ _ declared
      declared := fun target targeted => here.targetsDeclared _ target ⟨_, declared, targeted⟩ })
    here.startNotEntered here.enteredOnce
    (let ⟨name, state, declared, ends⟩ := here.hasEnd; ⟨(name, state), declared, ends⟩)
  obtain ⟨_, described, _, _⟩ := Links.ofLevel_ok linked
  obtain ⟨order, orderMade⟩ := Links.order_total described.closed fun name member =>
    described.reached_iff.mp (here.reached name member)
  obtain ⟨ordered, complete⟩ := Links.order_ok described.closed orderMade
  have stepped : ∀ name ∈ order, ∃ step,
      Dict.get? (level.states.map fun entry => (entry.1, stateStep entry.1 entry.2)) name =
        some step ∧ ∀ site progress, ∃ planned, (step site).success progress = .ok planned := by
    intro name member
    obtain ⟨state, found⟩ := Level.mem_names_iff.mp ((complete name).mp member)
    have declared := Level.mem_states_of_state? found
    have lookup : Dict.get? level.states name = some state := found
    refine ⟨stateStep name state, by rw [get?_stateSteps, lookup, Option.map_some], ?_⟩
    exact stateStep_total (here.supported _ _ declared) (here.hasBranches _ _ declared)
      (here.hasIterator _ _ declared) fun sub inside =>
        ih name state declared sub inside (wellFormed.inside declared inside)
  obtain ⟨⟨done, middle⟩, folded, known⟩ := foldlM_planState_total entry
    { progress with sequence := progress.sequence + 1 } ordered stepped
  obtain ⟨completions, completed⟩ := Failing.mapM_total (completionOf done)
    links.terminals fun name terminal => by
      rw [described.terminals] at terminal
      obtain ⟨entry, kept, rfl⟩ := List.mem_map.mp terminal
      have declared : entry.1 ∈ level.names := List.mem_map_of_mem (List.mem_filter.mp kept).1
      obtain ⟨outcome, found⟩ := known entry.1 ((complete _).mpr declared)
      exact ⟨outcome.completion, by simp only [completionOf, found]⟩
  rw [levelStep_eq]
  exact ⟨_, planLevel_eq_ok_iff.mpr
    ⟨links, order, done, middle, completions, linked, orderMade, folded, completed, rfl, rfl⟩⟩

end Plan

/-- A workflow has a plan exactly when it is well-formed throughout, whatever event
it starts on and whatever numbers were given out before. -/
theorem Compiler.plan_succeeds_iff_wellFormed (compiler : Compiler) (workflow : Level)
    (initial : String) (distinct : workflow.Throughout fun level => level.names.Nodup) :
    (∃ plan after, compiler.plan workflow initial = .ok (plan, after)) ↔
      workflow.Throughout Level.WellFormed := by
  constructor
  · rintro ⟨plan, after, planned⟩
    exact Plan.wellFormed_of_levelStep distinct (plan_eq_ok_iff.mp planned)
  · intro wellFormed
    obtain ⟨_, made⟩ := Plan.levelStep_total wellFormed ⟨initial, none, 0⟩ ⟨compiler.sequence, []⟩
    exact exists_plan made

/-- The sample has a plan, hence it is well-formed throughout. -/
theorem Compiler.sample_wellFormed :
    (Level.sample.Throughout fun level => level.names.Nodup) ∧
      Level.sample.Throughout Level.WellFormed :=
  ⟨Level.sample_distinct,
    (plan_succeeds_iff_wellFormed {} Level.sample "$init" Level.sample_distinct).mp sample_planned⟩

end EventFlow
