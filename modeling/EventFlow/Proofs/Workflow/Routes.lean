import EventFlow.Proofs.Workflow.Gates

/-!
# Routes through choices

Between the event that a state waits for and the state itself there may lie
choices: those of its own level, and those in front of the parallel states whose
branches start on the same event. The condition of the trigger of the state holds
on exactly the inputs on which every one of these choices turns towards it.
-/

namespace EventFlow

namespace Plan

/-- The turns taken on the way from an event to a state: the choices passed, each
with the state that it has to select. -/
abbrev Turns := List (State × String)

/-- What announces that a state is done. A map state is done with its iterator,
whose closing trigger has some number. -/
def Completes (name : String) (state : State) (completion : String) : Prop :=
  if state.kind = .map then ∃ number, completion = closingId number else completion = name

/-- How a state of a level is come to: which event it waits for, and the turns
taken since that event. Behind a choice the event stays the same. -/
inductive Passes (level : Level) (event : String) (turns : Turns) :
    String → String → Turns → Prop where
  | start : Passes level event turns level.startAt event turns
  | choice {name target waits : String} {state : State} {taken : Turns}
      (before : Passes level event turns name waits taken)
      (declared : (name, state) ∈ level.states) (kind : state.kind = .choice)
      (targeted : target ∈ state.choiceTargets) :
      Passes level event turns target waits (taken ++ [(state, target)])
  | next {name target waits completion : String} {state : State} {taken : Turns}
      (before : Passes level event turns name waits taken)
      (declared : (name, state) ∈ level.states) (kind : state.kind ≠ .choice)
      (following : state.next = some target) (completes : Completes name state completion) :
      Passes level event turns target completion []

/-- How a level of a workflow is come to. Branches start on the event that their
parallel state waits for, with the turns taken towards it; an iterator starts on
the completion of its map state. -/
inductive Enters (workflow : Level) (initial : String) : Level → String → Turns → Prop where
  | root : Enters workflow initial workflow initial []
  | branch {level branch : Level} {event name waits : String} {state : State} {turns taken : Turns}
      (entered : Enters workflow initial level event turns)
      (passed : Passes level event turns name waits taken)
      (declared : (name, state) ∈ level.states) (kind : state.kind = .parallel)
      (inside : branch ∈ state.branches) : Enters workflow initial branch waits taken
  | iterator {level iterator : Level} {event name waits : String} {state : State}
      {turns taken : Turns} (entered : Enters workflow initial level event turns)
      (passed : Passes level event turns name waits taken)
      (declared : (name, state) ∈ level.states) (kind : state.kind = .map)
      (inside : state.iterator = some iterator) : Enters workflow initial iterator name []

/-- How a state of a workflow is come to, on whichever level. -/
def Reaches (workflow : Level) (initial name : String) (state : State) (waits : String)
    (taken : Turns) : Prop :=
  ∃ level event turns, Enters workflow initial level event turns ∧
    Passes level event turns name waits taken ∧ (name, state) ∈ level.states

/-- A condition follows turns: there is none where no turn is taken, and otherwise
it holds on exactly the inputs on which every choice takes its turn. -/
def Follows (condition : Option Json) : Turns → Prop
  | [] => condition = none
  | turn :: rest => ∃ predicate, condition = some (.object predicate) ∧
      ∀ input, Predicate.evaluate predicate input = .ok true ↔
        ∀ step ∈ turn :: rest, step.1.selected input = some step.2

/-- A condition that follows turns holds on inputs on which they are taken. -/
theorem Follows.selected {predicate : Dict Json} {turns : Turns} {input : Json}
    (follows : Follows (some (.object predicate)) turns)
    (holds : Predicate.evaluate predicate input = .ok true) :
    ∀ step ∈ turns, step.1.selected input = some step.2 := by
  cases turns with
  | nil => cases follows
  | cons turn rest =>
      obtain ⟨_, equal, taken⟩ := follows
      cases equal
      exact (taken input).mp holds

/-- Behind a choice the condition follows one more turn. -/
theorem Follows.turn {condition : Option Json} {turns : Turns} {state : State} {target : String}
    (follows : Follows condition turns) (targeted : target ∈ state.choiceTargets) :
    Follows (Route.both condition (state.choiceRoute target none)) (turns ++ [(state, target)]) := by
  obtain ⟨inner, found⟩ := State.exists_choiceRoute targeted
  have taken : ∀ input, Predicate.evaluate inner input = .ok true ↔
      state.selected input = some target := by
    intro input
    rw [← State.admits_choiceRoute_iff, found]
    simp [State.Admits, Predicate.holds_object]
  rw [found]
  cases turns with
  | nil =>
      cases follows
      exact ⟨inner, rfl, by simpa using taken⟩
  | cons turn rest =>
      obtain ⟨outer, rfl, before⟩ := follows
      refine ⟨_, rfl, fun input => ?_⟩
      rw [← Predicate.holds_object]
      refine (Route.holds_both_eq_true_iff (show Predicate.IsRule (.object outer) from True.intro)
        (show Predicate.IsRule (.object inner) from True.intro)).trans ?_
      rw [Predicate.holds_object, Predicate.holds_object, before input, taken input]
      simp [or_imp, forall_and, and_assoc]

/-! ## Plans -/

/-- The condition of a trigger. -/
def conditionOf (submission : Submission) : Option Json :=
  submission.context.get? "Condition"

/-- A trigger is the one of a state of the workflow that is come to by these turns.
Unless it joins the branches of a parallel state, which it does on no condition, it
waits for the one event that the state waits for, on a condition that follows the
turns since. -/
def RoutedBy (workflow : Level) (initial : String) (submission : Submission) (taken : Turns) :
    Prop :=
  ∃ name state waits, Reaches workflow initial name state waits taken ∧
    submission.id = some name ∧ submission.context.get? "State" = some state.toJson ∧
    (state.kind ≠ .parallel → submission.dependencies = [EventKey.completion waits] ∧
      Follows (conditionOf submission) taken) ∧
    (state.kind = .parallel → conditionOf submission = none)

/-- A trigger of a plan closes a level, or it is the trigger of a state of the
workflow, which is come to by some turns. -/
def Routed (workflow : Level) (initial : String) (submission : Submission) : Prop :=
  submission.action = Vocabulary.closeLevel ∨ ∃ taken, RoutedBy workflow initial submission taken

/-- A trigger is open to an input if its condition holds on it. -/
def OpenTo (submission : Submission) (input : Json) : Prop :=
  ∃ predicate, conditionOf submission = some (.object predicate) ∧
    Predicate.evaluate predicate input = .ok true

/-- A trigger whose condition follows turns is open only to inputs on which they are
taken. -/
theorem OpenTo.selected {submission : Submission} {input : Json} {turns : Turns}
    (opened : OpenTo submission input) (follows : Follows (conditionOf submission) turns) :
    ∀ step ∈ turns, step.1.selected input = some step.2 := by
  obtain ⟨predicate, condition, holds⟩ := opened
  rw [condition] at follows
  exact follows.selected holds

/-- On one input a choice turns to one target, so triggers that are open to it lie behind
the same one. -/
theorem OpenTo.same_target {first second : Submission} {input : Json} {choice : State}
    {left right : String} {firstTurns secondTurns : Turns} (firstOpen : OpenTo first input)
    (secondOpen : OpenTo second input) (firstFollows : Follows (conditionOf first) firstTurns)
    (firstTurn : (choice, left) ∈ firstTurns)
    (secondFollows : Follows (conditionOf second) secondTurns)
    (secondTurn : (choice, right) ∈ secondTurns) : left = right := by
  have selectedLeft := firstOpen.selected firstFollows _ firstTurn
  have selectedRight := secondOpen.selected secondFollows _ secondTurn
  exact Option.some.inj (selectedLeft.symm.trans selectedRight)

/-- The condition of a trigger that is open to some input follows the turns of its
route. -/
theorem RoutedBy.follows {workflow : Level} {initial : String} {submission : Submission}
    {input : Json} {turns : Turns} (routed : RoutedBy workflow initial submission turns)
    (opened : OpenTo submission input) : Follows (conditionOf submission) turns := by
  obtain ⟨name, state, waits, -, -, -, single, join⟩ := routed
  by_cases parallel : state.kind = .parallel
  · obtain ⟨_, condition, _⟩ := opened
    rw [join parallel] at condition
    cases condition
  · exact (single parallel).2

/-- The triggers of a plan have grown by triggers with a property. -/
def Grows (property : Submission → Prop) (progress next : Progress) : Prop :=
  ∃ added, next.triggers = progress.triggers ++ added ∧ ∀ submission ∈ added, property submission

section Grows

variable {property : Submission → Prop} {progress middle next : Progress}

theorem Grows.refl {sequence : Nat} :
    Grows property progress { progress with sequence := sequence } :=
  ⟨[], by simp, by simp⟩

theorem Grows.trans (first : Grows property progress middle) (second : Grows property middle next) :
    Grows property progress next := by
  obtain ⟨earlier, firstEq, firstHolds⟩ := first
  obtain ⟨later, secondEq, secondHolds⟩ := second
  refine ⟨earlier ++ later, by rw [secondEq, firstEq, List.append_assoc], fun submission member => ?_⟩
  exact (List.mem_append.mp member).elim (firstHolds submission) (secondHolds submission)

theorem Grows.push {submission : Submission} (holds : property submission) :
    Grows property progress (progress.push submission) :=
  ⟨[submission], rfl, by simpa using holds⟩

end Grows

section Following

variable {workflow level : Level} {initial : String} {turns : Turns} {entry site : Site}
  {links : Links} {progress next : Progress}

/-- What a planned state leaves to the states behind it: how it was come to, and
for a choice the event and the condition that it hands on. -/
def Leaves (level : Level) (entry : Site) (turns : Turns) (name : String) (outcome : Outcome) :
    Prop :=
  ∃ state waits taken, (name, state) ∈ level.states ∧
    Passes level entry.input turns name waits taken ∧
    if state.kind = .choice then outcome.completion = waits ∧ Follows outcome.inherited taken
    else Completes name state outcome.completion ∧ outcome.inherited = none

/-- The site of a state is the event and the condition of the way to it. -/
theorem siteOf_follows {done : Dict Outcome} {name : String} (distinct : level.names.Nodup)
    (endless : ∀ name state, (name, state) ∈ level.states → state.kind = .choice → state.next = none)
    (described : Links.Describes level links level.states) (follows : Follows entry.gate turns)
    (left : ∀ other outcome, Dict.get? done other = some outcome → Leaves level entry turns other outcome)
    (sited : siteOf links entry done name = .ok site) :
    ∃ taken, Passes level entry.input turns name site.input taken ∧ Follows site.gate taken := by
  unfold siteOf at sited
  split at sited
  · cases sited
  · next entered =>
    cases sited
    have atStart := described.entry_iff.mp entered
    have unconditional : Dict.get? links.routes name = none :=
      described.routes_of_not_entered fun source transition => by
        rw [described.entered transition] at entered
        cases entered
    rw [unconditional, atStart]
    refine ⟨turns, .start, ?_⟩
    cases gate : entry.gate <;> simpa [Route.both, gate] using follows
  · next previous entered =>
    split at sited
    · cases sited
    next outcome found =>
    cases sited
    obtain ⟨state, waits, taken, declared, passed, leaves⟩ := left previous outcome found
    obtain ⟨other, otherDeclared, targeted⟩ := described.transition entered
    have same : other = state := by
      have found := Level.state?_of_mem_states distinct otherDeclared
      rw [Level.state?_of_mem_states distinct declared] at found
      exact (Option.some.inj found).symm
    subst same
    rw [described.routes_of_transition distinct declared targeted, State.routeOnto]
    unfold State.targets at targeted
    by_cases choice : other.kind = .choice
    · simp only [choice, if_true, endless previous other declared choice, Option.toList_none,
        List.nil_append] at leaves targeted ⊢
      obtain ⟨rfl, followed⟩ := leaves
      exact ⟨_, passed.choice declared choice targeted, followed.turn targeted⟩
    · simp only [choice, if_false, List.append_nil, Option.mem_toList] at leaves targeted ⊢
      obtain ⟨completes, inherited⟩ := leaves
      refine ⟨[], passed.next declared choice targeted completes, ?_⟩
      rw [inherited]
      rfl

/-- The trigger of a state that waits for the one event of the way to it is
routed. -/
theorem routed_single (action : String) {name waits : String} {state : State} {taken : Turns}
    {gate : Option Json} (single : state.kind ≠ .parallel)
    (reaches : Reaches workflow initial name state waits taken) (follows : Follows gate taken) :
    Routed workflow initial
      (stateTrigger name [waits] action (gated (stateContext name state) gate)) :=
  .inr ⟨taken, name, state, waits, reaches, rfl, get?_state_gated name state gate, fun _ =>
    ⟨rfl, by
      have condition : conditionOf (stateTrigger name [waits] action
          (gated (stateContext name state) gate)) = gate := get?_condition_gated name state gate
      rw [condition]
      exact follows⟩, fun parallel => absurd parallel single⟩

/-- Branches grow the triggers as each of them does. -/
theorem planBranches_grows {property : Submission → Prop} {branches : List Level} {ids : List String}
    (grows : ∀ branch ∈ branches, ∀ progress id next,
      (levelStep branch site).success progress = .ok (id, next) → Grows property progress next)
    (planned : (planBranches (branches.map levelStep) site).success progress = .ok (ids, next)) :
    Grows property progress next := by
  induction branches generalizing progress ids with
  | nil =>
      cases planned
      exact Grows.refl
  | cons branch rest ih =>
      obtain ⟨id, middle, others, first, later, _⟩ := planBranches_cons_eq_ok_iff.mp planned
      exact (grows branch List.mem_cons_self progress id middle first).trans
        (ih (fun other member => grows other (List.mem_cons_of_mem _ member)) later)

/-- A level inside a state is planned with routed triggers wherever the way to it
leads. -/
def FollowsInside (workflow : Level) (initial : String) (sub : Level) : Prop :=
  ∀ (entry : Site) (turns : Turns) (progress : Progress) (id : String) (next : Progress),
    Enters workflow initial sub entry.input turns → Follows entry.gate turns →
    (levelStep sub entry).success progress = .ok (id, next) →
      Grows (Routed workflow initial) progress next

/-- A planned state leaves what it should, and its triggers are routed. -/
theorem stateStep_follows {name : String} {state : State} {taken : Turns} {outcome : Outcome}
    (entered : Enters workflow initial level entry.input turns)
    (declared : (name, state) ∈ level.states)
    (passed : Passes level entry.input turns name site.input taken)
    (follows : Follows site.gate taken)
    (inside : ∀ sub ∈ state.sublevels, FollowsInside workflow initial sub)
    (planned : (stateStep name state site).success progress = .ok (outcome, next)) :
    Leaves level entry turns name outcome ∧ Grows (Routed workflow initial) progress next := by
  have reaches : Reaches workflow initial name state site.input taken :=
    ⟨level, entry.input, turns, entered, passed, declared⟩
  rw [stateStep_eq, planKind] at planned
  unfold State.sublevels at inside
  cases kind : state.kind with
  | choice =>
      simp only [kind] at planned
      cases planned
      exact ⟨⟨state, site.input, taken, declared, passed, by simpa [kind] using follows⟩, Grows.refl⟩
  | parallel =>
      simp only [kind] at planned inside
      obtain ⟨_, ids, middle, branches, rfl, rfl⟩ := planParallel_eq_ok_iff.mp planned
      refine ⟨⟨state, site.input, taken, declared, passed, by simp [kind, Completes]⟩, ?_⟩
      have grown := planBranches_grows (fun branch member progress id next planned =>
        inside branch member { site with depth := site.depth + 1 } taken progress id next
          (entered.branch passed declared kind member) follows planned) branches
      refine grown.trans (Grows.push (.inr ⟨taken, name, state, site.input, reaches, rfl, ?_, ?_, ?_⟩))
      · exact get?_state_gated name state none
      · exact fun other => absurd kind other
      · exact fun _ => get?_condition_gated name state none
  | map =>
      simp only [kind] at planned inside
      obtain ⟨step, id, present, iterated, rfl⟩ := planMap_eq_ok_iff.mp planned
      obtain ⟨sub, iterator, rfl⟩ := Option.map_eq_some_iff.mp present
      obtain ⟨_, _, _, _, _, level⟩ := levelStep_ok iterated
      refine ⟨⟨state, site.input, taken, declared, passed, by
        simpa [kind, Completes] using ⟨_, level.id_eq⟩⟩, ?_⟩
      have own : Grows (Routed workflow initial) progress _ :=
        Grows.push (routed_single Vocabulary.task (by simp [kind]) reaches follows)
      exact own.trans (inside sub (by simp [iterator]) ⟨name, none, site.depth + 1⟩ [] _ id next
        (entered.iterator passed declared kind iterator) rfl iterated)
  | succeed =>
      simp only [kind] at planned
      cases planned
  | fail =>
      simp only [kind] at planned
      cases planned
  | _ =>
      simp only [kind] at planned
      cases planned
      exact ⟨⟨state, site.input, taken, declared, passed, by simp [kind, Completes]⟩,
        Grows.push (routed_single _ (by simp [kind]) reaches follows)⟩

/-- The states of a level leave what they should, and their triggers are
routed. -/
theorem Run.follows {start : Progress} {names : List String} {done : Dict Outcome}
    (distinct : level.names.Nodup)
    (endless : ∀ name state, (name, state) ∈ level.states → state.kind = .choice → state.next = none)
    (described : Links.Describes level links level.states)
    (entered : Enters workflow initial level entry.input turns) (follows : Follows entry.gate turns)
    (inside : ∀ name state, (name, state) ∈ level.states →
      ∀ sub ∈ state.sublevels, FollowsInside workflow initial sub)
    (run : Run level links entry start names done progress) :
    (∀ name outcome, Dict.get? done name = some outcome → Leaves level entry turns name outcome) ∧
      Grows (Routed workflow initial) start progress := by
  induction run with
  | nil => exact ⟨by simp, Grows.refl⟩
  | @snoc names done progress name state site outcome next before found sited planned ih =>
      obtain ⟨left, grown⟩ := ih
      have declared := Level.mem_states_of_state? found
      obtain ⟨taken, passed, followed⟩ :=
        siteOf_follows distinct endless described follows left sited
      obtain ⟨leaves, more⟩ := stateStep_follows entered declared passed followed
        (inside name state declared) planned
      refine ⟨fun other result known => ?_, grown.trans more⟩
      rw [Dict.get?_insert] at known
      split at known
      · next same =>
        cases known
        subst same
        exact leaves
      · exact left other result known

/-- The triggers of a level are routed, and so are those of all levels inside
it. -/
theorem levelStep_follows (distinct : level.Throughout fun level => level.names.Nodup)
    (endless : level.Throughout fun level => ∀ name state, (name, state) ∈ level.states →
      state.kind = .choice → state.next = none) : FollowsInside workflow initial level := by
  induction level using Level.nestingInduction with
  | step level ih =>
  intro entry turns progress id next entered follows made
  obtain ⟨links, order, done, middle, completions, plan⟩ := levelStep_ok made
  have grown := (plan.run.follows distinct.here endless.here plan.described entered follows
    fun name state declared sub inside => ih name state declared sub inside
      (distinct.inside declared inside) (endless.inside declared inside)).2
  rw [plan.next_eq]
  exact (Grows.refl.trans grown).trans (Grows.push (.inl rfl))

end Following

end Plan

/-- Every trigger of a plan that neither closes a level nor joins branches has a
condition exactly if choices lie between the event that it waits for and its
state, and the condition then holds on exactly the inputs on which each of these
choices selects the next state of the way. Hence triggers that lie behind
different targets of one choice are never open to the same input, neither by the
turns that their conditions follow nor by those of the ways to their states. -/
theorem Compiler.conditions_follow_turns {compiler after : Compiler} {workflow : Level}
    {initial : String} {plan : Plan}
    (distinct : workflow.Throughout fun level => level.names.Nodup)
    (endless : workflow.Throughout fun level => ∀ name state, (name, state) ∈ level.states →
      state.kind = .choice → state.next = none)
    (planned : compiler.plan workflow initial = .ok (plan, after)) :
    (∀ submission ∈ plan.triggers, Plan.Routed workflow initial submission) ∧
      (∀ first ∈ plan.triggers, ∀ second ∈ plan.triggers,
        ∀ (choice : State) (left right : String) (firstTurns secondTurns : Plan.Turns),
          Plan.Follows (Plan.conditionOf first) firstTurns → (choice, left) ∈ firstTurns →
          Plan.Follows (Plan.conditionOf second) secondTurns → (choice, right) ∈ secondTurns →
          left ≠ right → ∀ input, ¬ (Plan.OpenTo first input ∧ Plan.OpenTo second input)) ∧
      ∀ first ∈ plan.triggers, ∀ second ∈ plan.triggers,
        ∀ (choice : State) (left right : String) (firstTurns secondTurns : Plan.Turns),
          Plan.RoutedBy workflow initial first firstTurns → (choice, left) ∈ firstTurns →
          Plan.RoutedBy workflow initial second secondTurns → (choice, right) ∈ secondTurns →
          left ≠ right → ∀ input, ¬ (Plan.OpenTo first input ∧ Plan.OpenTo second input) := by
  obtain ⟨added, triggers, routed⟩ := Plan.levelStep_follows distinct endless
    ⟨initial, none, 0⟩ [] _ _ _ .root rfl (plan_eq_ok_iff.mp planned)
  have whole : plan.triggers = added := triggers
  refine ⟨fun submission member => routed submission (whole ▸ member), ?_, ?_⟩
  · rintro first _ second _ choice left right firstTurns secondTurns firstFollows firstTurn
      secondFollows secondTurn different input ⟨firstOpen, secondOpen⟩
    exact different (firstOpen.same_target secondOpen firstFollows firstTurn secondFollows secondTurn)
  · rintro first _ second _ choice left right firstTurns secondTurns firstRouted firstTurn
      secondRouted secondTurn different input ⟨firstOpen, secondOpen⟩
    exact different (firstOpen.same_target secondOpen (firstRouted.follows firstOpen) firstTurn
      (secondRouted.follows secondOpen) secondTurn)

/-- All triggers of the sample's plan are routed. -/
theorem Compiler.sample_routed : ∃ plan after,
    ({} : Compiler).plan Level.sample "$init" = .ok (plan, after) ∧
      ∀ submission ∈ plan.triggers, Plan.Routed Level.sample "$init" submission := by
  obtain ⟨plan, after, planned⟩ := sample_planned
  have endless : Level.sample.Throughout fun level => ∀ name state, (name, state) ∈ level.states →
      state.kind = .choice → state.next = none := by
    have root : ∀ entry ∈ Level.sample.states, entry.2.kind = .choice → entry.2.next = none := by
      decide
    have nested : ∀ entry ∈ Level.sample.states, ∀ sub ∈ entry.2.sublevels,
        ∀ inner ∈ sub.states, inner.2.kind = .choice → inner.2.next = none := by
      decide
    exact Level.sample_throughout (fun name state declared => root (name, state) declared)
      fun entry declared sub planned name state inner =>
        nested entry declared sub planned (name, state) inner
  exact ⟨plan, after, planned,
    (conditions_follow_turns Level.sample_distinct endless planned).1⟩

end EventFlow
