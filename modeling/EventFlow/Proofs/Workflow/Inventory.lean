import EventFlow.Proofs.Workflow.Emission
import EventFlow.Proofs.Workflow.Numbers

/-!
# Inventory of a plan

Which triggers a plan has: one for every state that is no choice, on all levels that are
planned, and one for closing each of these levels. What a part of a plan adds is accounted
for as two lists, the names of its states and the numbers of its levels; both are followed
through the branches, the states and the levels, up to the order in which they come. The
numbers go on without a gap from one plan of a compiler to the next.
-/

namespace EventFlow

/-! ## Levels of a workflow -/

mutual

/-- The levels that are planned with a level, itself first. -/
def levelsOf : LevelOf State → List Level
  | ⟨comment, startAt, states⟩ => ⟨comment, startAt, states⟩ :: levelsOfStates states

/-- The levels that are planned inside states. -/
def levelsOfStates : List (String × State) → List Level
  | [] => []
  | (_, state) :: rest => levelsOfState state ++ levelsOfStates rest

/-- The levels that are planned inside a state. -/
def levelsOfState : State → List Level
  | ⟨.parallel, _, _, _, _, branches, _, _⟩ => levelsOfBranches branches
  | ⟨.map, _, _, _, _, _, iterator, _⟩ => levelsOfIterator iterator
  | _ => []

/-- The levels that are planned with branches. -/
def levelsOfBranches : List (LevelOf State) → List Level
  | [] => []
  | branch :: rest => levelsOf branch ++ levelsOfBranches rest

/-- The levels that are planned with an iterator, if there is one. -/
def levelsOfIterator : Option (LevelOf State) → List Level
  | none => []
  | some level => levelsOf level

end

/-- The levels inside a state are those of its sublevels. -/
theorem levelsOfState_eq (state : State) : levelsOfState state = state.sublevels.flatMap levelsOf := by
  have ofBranches : ∀ branches : List Level,
      levelsOfBranches branches = branches.flatMap levelsOf := by
    intro branches
    induction branches with
    | nil => rfl
    | cons branch rest ih => simp [levelsOfBranches, ih]
  obtain ⟨kind, next, ends, choices, default, branches, iterator, extra⟩ := state
  cases kind with
  | parallel => exact ofBranches branches
  | map => cases iterator <;> simp [levelsOfState, levelsOfIterator, State.sublevels]
  | _ => rfl

/-- The levels of a level are itself and those inside its states. -/
theorem levelsOf_eq (level : Level) :
    levelsOf level = level :: level.states.flatMap fun entry => levelsOfState entry.2 := by
  have ofStates : ∀ states : List (String × State),
      levelsOfStates states = states.flatMap fun entry => levelsOfState entry.2 := by
    intro states
    induction states with
    | nil => rfl
    | cons entry rest ih => simp [levelsOfStates, ih]
  cases level
  rw [levelsOf, ofStates]

/-- There are as many levels as are counted. -/
theorem length_levelsOf (level : Level) : (levelsOf level).length = countLevel level := by
  induction level using Level.nestingInduction with
  | step level ih =>
  rw [levelsOf_eq, countLevel_eq, List.length_cons, List.length_flatMap]
  congr 2
  refine List.map_congr_left fun entry declared => ?_
  rw [levelsOfState_eq, countState_eq, List.length_flatMap]
  refine congrArg List.sum (List.map_congr_left fun sub inside => ?_)
  exact ih entry.1 entry.2 declared sub inside

/-- The name of a state that has a trigger of its own: choices have none. -/
def State.ownName (name : String) (state : State) : List String :=
  if state.kind = .choice then [] else [name]

namespace Level

/-- The names of the states of a level that are no choices. -/
def stateNames (level : Level) : List String :=
  level.states.flatMap fun entry => entry.2.ownName entry.1

/-- The names of all states that are no choices, on every level that is planned. -/
def allNames (level : Level) : List String :=
  (levelsOf level).flatMap stateNames

end Level

/-- The names that are planned with a state: its own and those on the levels inside it. -/
def State.allNames (name : String) (state : State) : List String :=
  state.ownName name ++ state.sublevels.flatMap Level.allNames

namespace Level

/-- The names on all levels are those that are planned with the states. -/
theorem allNames_perm (level : Level) :
    level.allNames.Perm (level.states.flatMap fun entry => entry.2.allNames entry.1) := by
  have inside : (fun entry : String × State => (levelsOfState entry.2).flatMap stateNames) =
      fun entry => entry.2.sublevels.flatMap allNames := by
    funext entry
    rw [levelsOfState_eq, List.flatMap_assoc]
    rfl
  rw [allNames, levelsOf_eq, List.flatMap_cons, List.flatMap_assoc, inside]
  exact List.flatMap_append_perm level.states _ _

/-- The names that are planned with the states of these names. -/
def namesWith (level : Level) (names : List String) : List String :=
  names.flatMap fun name => ((level.state? name).map (State.allNames name)).getD []

/-- The names that are planned with all states, in any order, are those on all levels. -/
theorem namesWith_complete {level : Level} {order : List String} (distinct : level.names.Nodup)
    (nodup : order.Nodup) (complete : ∀ name, name ∈ order ↔ name ∈ level.names) :
    (level.namesWith order).Perm level.allNames := by
  have permuted : order.Perm level.names := (List.perm_ext_iff_of_nodup nodup distinct).mpr complete
  have byState : level.namesWith level.names =
      level.states.flatMap fun entry => entry.2.allNames entry.1 := by
    rw [namesWith, names, List.flatMap_map]
    refine List.flatMap_congr fun entry declared => ?_
    rw [state?_of_mem_states distinct declared]
    rfl
  exact (permuted.flatMap_right _).trans ((List.Perm.of_eq byState).trans level.allNames_perm.symm)

end Level

/-! ## Accounts -/

namespace Plan

/-- The ids of closing triggers. -/
def closingIds (triggers : List Submission) : List String :=
  (triggers.filter fun submission => submission.action = Vocabulary.closeLevel).filterMap
    Submission.id

/-- The ids of all other triggers. -/
def stateIds (triggers : List Submission) : List String :=
  (triggers.filter fun submission => ¬ submission.action = Vocabulary.closeLevel).filterMap
    Submission.id

/-- The ids of closing triggers that are numbered from a number on. -/
def closingIdsFrom (number levels : Nat) : List String :=
  (List.range' number levels).map closingId

theorem closingIds_append (front rest : List Submission) :
    closingIds (front ++ rest) = closingIds front ++ closingIds rest := by
  rw [closingIds, List.filter_append, List.filterMap_append]
  rfl

theorem stateIds_append (front rest : List Submission) :
    stateIds (front ++ rest) = stateIds front ++ stateIds rest := by
  rw [stateIds, List.filter_append, List.filterMap_append]
  rfl

theorem closingIdsFrom_append (number first second : Nat) :
    closingIdsFrom number (first + second) =
      closingIdsFrom number first ++ closingIdsFrom (number + first) second := by
  rw [closingIdsFrom, ← List.range'_append_1, List.map_append]
  rfl

/-- Closing triggers of different numbers have different ids. -/
theorem closingId_injective : Function.Injective closingId := by
  intro first second same
  have numerals : toString first = toString second := (String.append_right_inj _).mp same
  have digits : Nat.toDigits 10 first = Nat.toDigits 10 second := String.ofList_injective numerals
  have read := congrArg (Nat.ofDigitChars 10 · 0) digits
  simpa only [Nat.ofDigitChars_ten_toDigits] using read

theorem nodup_closingIdsFrom (number levels : Nat) : (closingIdsFrom number levels).Nodup :=
  (List.nodup_range' 1).map closingId_injective

/-- The triggers that a part of a plan has added are those of states of these names, and
those that close so many levels, numbered on from what was planned before. -/
structure Accounts (progress next : Progress) (names : List String) (levels : Nat)
    (added : List Submission) : Prop where
  triggers : next.triggers = progress.triggers ++ added
  states : (stateIds added).Perm names
  closings : (closingIds added).Perm (closingIdsFrom progress.sequence levels)
  sequence : next.sequence = progress.sequence + levels

variable {progress middle next : Progress}

namespace Accounts

variable {names more : List String} {first second : Nat} {added later : List Submission}

theorem refl : Accounts progress progress [] 0 [] :=
  ⟨(List.append_nil _).symm, .nil, .nil, rfl⟩

theorem trans (left : Accounts progress middle names first added)
    (right : Accounts middle next more second later) :
    Accounts progress next (names ++ more) (first + second) (added ++ later) where
  triggers := by rw [right.triggers, left.triggers, List.append_assoc]
  states := stateIds_append added later ▸ left.states.append right.states
  closings := by
    rw [closingIds_append, closingIdsFrom_append, ← left.sequence]
    exact left.closings.append right.closings
  sequence := by rw [right.sequence, left.sequence, Nat.add_assoc]

/-- The trigger of a state accounts for its name. -/
theorem push_state {name action : String} {waits : List String} {context : Dict Json}
    (acts : action ≠ Vocabulary.closeLevel) :
    Accounts progress (progress.push (stateTrigger name waits action context)) [name] 0
      [stateTrigger name waits action context] := by
  have other : (stateTrigger name waits action context).action ≠ Vocabulary.closeLevel := acts
  refine ⟨rfl, ?_, ?_, rfl⟩
  · rw [stateIds, List.filter_cons_of_pos (by simpa using other)]
    exact .refl _
  · rw [closingIds, List.filter_cons_of_neg (by simpa using other)]
    exact .refl _

/-- The names may come in any order. -/
theorem perm (accounts : Accounts progress next names first added) (permuted : names.Perm more) :
    Accounts progress next more first added :=
  { accounts with states := accounts.states.trans permuted }

end Accounts

variable {entry site : Site}

/-- Branches account for the names and the levels of all of them. -/
theorem planBranches_accounts {branches : List Level} {ids : List String}
    (inside : ∀ branch ∈ branches, ∀ progress id next,
      (levelStep branch site).success progress = .ok (id, next) →
      ∃ added, Accounts progress next branch.allNames (countLevel branch) added)
    (planned : (planBranches (branches.map levelStep) site).success progress = .ok (ids, next)) :
    ∃ added, Accounts progress next (branches.flatMap Level.allNames)
      (branches.map countLevel).sum added := by
  induction branches generalizing progress ids with
  | nil =>
      cases planned
      exact ⟨_, .refl⟩
  | cons branch rest ih =>
      obtain ⟨id, middle, others, first, later, _⟩ := planBranches_cons_eq_ok_iff.mp planned
      obtain ⟨_, here⟩ := inside branch List.mem_cons_self progress id middle first
      obtain ⟨_, behind⟩ := ih (fun other member => inside other (List.mem_cons_of_mem _ member)) later
      exact ⟨_, here.trans behind⟩

/-- A state accounts for its own name, and for the names and the levels inside it. -/
theorem stateStep_accounts {name : String} {state : State} {outcome : Outcome}
    (inside : ∀ sub ∈ state.sublevels, ∀ site progress id next,
      (levelStep sub site).success progress = .ok (id, next) →
      ∃ added, Accounts progress next sub.allNames (countLevel sub) added)
    (planned : (stateStep name state site).success progress = .ok (outcome, next)) :
    ∃ added, Accounts progress next (state.allNames name) (countState state) added := by
  rw [stateStep_eq, planKind] at planned
  rw [countState_eq, State.allNames, State.ownName]
  unfold State.sublevels at inside ⊢
  cases kind : state.kind with
  | pass | task | wait =>
      simp only [kind] at planned
      cases planned
      exact ⟨_, .push_state (by decide)⟩
  | choice =>
      simp only [kind] at planned
      cases planned
      exact ⟨_, .refl⟩
  | parallel =>
      simp only [kind] at planned inside ⊢
      obtain ⟨_, ids, middle, branches, _, rfl⟩ := planParallel_eq_ok_iff.mp planned
      obtain ⟨_, accounts⟩ := planBranches_accounts (fun branch member progress id next planned =>
        inside branch member _ progress id next planned) branches
      exact ⟨_, (accounts.trans (.push_state (by decide))).perm List.perm_append_comm⟩
  | map =>
      simp only [kind] at planned inside ⊢
      obtain ⟨step, id, present, iterated, _⟩ := planMap_eq_ok_iff.mp planned
      obtain ⟨sub, iterator, rfl⟩ := Option.map_eq_some_iff.mp present
      obtain ⟨_, behind⟩ := inside sub (by simp [iterator]) _ _ id next iterated
      have both := (Accounts.push_state (by decide)).trans behind
      exact ⟨_, by simpa [iterator] using both⟩
  | succeed | fail =>
      simp only [kind] at planned
      cases planned

/-- The states of a run account for their names and for all names and levels inside them. -/
theorem Run.accounts {level : Level} {links : Links} {start : Progress} {names : List String}
    {done : Dict Outcome}
    (inside : ∀ name state, (name, state) ∈ level.states → ∀ sub ∈ state.sublevels,
      ∀ site progress id next, (levelStep sub site).success progress = .ok (id, next) →
        ∃ added, Accounts progress next sub.allNames (countLevel sub) added)
    (run : Run level links entry start names done progress) :
    ∃ added, Accounts start progress (level.namesWith names) (level.countNames names) added := by
  induction run with
  | nil => exact ⟨_, .refl⟩
  | @snoc names _ _ name state _ _ _ _ found _ planned ih =>
      obtain ⟨_, before⟩ := ih
      obtain ⟨_, here⟩ := stateStep_accounts (inside _ _ (Level.mem_states_of_state? found)) planned
      have named : level.namesWith (names ++ [name]) =
          level.namesWith names ++ state.allNames name := by
        rw [Level.namesWith, List.flatMap_append, List.flatMap_singleton, found]
        rfl
      rw [Level.countNames_append, Level.countNames_singleton found, named]
      exact ⟨_, before.trans here⟩

/-- A level accounts for the names and the levels that are planned with it. -/
theorem levelStep_accounts {level : Level} {id : String}
    (distinct : level.Throughout fun level => level.names.Nodup)
    (made : (levelStep level entry).success progress = .ok (id, next)) :
    ∃ added, Accounts progress next level.allNames (countLevel level) added := by
  induction level using Level.nestingInduction generalizing entry progress id next with
  | step level ih =>
  obtain ⟨links, order, done, middle, completions, plan⟩ := levelStep_ok made
  obtain ⟨added, states⟩ := plan.run.accounts fun name state declared sub inside site progress id next made =>
    ih name state declared sub inside (distinct.inside declared inside) made
  have counted := Level.countNames_complete distinct.here plan.ordered.nodup plan.complete
  have named := Level.namesWith_complete distinct.here plan.ordered.nodup plan.complete
  have moved : middle.sequence = progress.sequence + 1 + level.countNames order := states.sequence
  have closing : closingIds [closingTrigger id completions entry.depth] = [id] := rfl
  have noState : stateIds [closingTrigger id completions entry.depth] = [] := rfl
  refine ⟨added ++ [closingTrigger id completions entry.depth], ?_, ?_, ?_, ?_⟩
  · rw [plan.next_eq, Progress.push, states.triggers, List.append_assoc]
  · rw [stateIds_append, noState, List.append_nil]
    exact states.states.trans named
  · have numbers : closingIdsFrom progress.sequence (countLevel level) =
        id :: closingIdsFrom (progress.sequence + 1) (level.countNames order) := by
      rw [← counted, closingIdsFrom, List.range'_succ, List.map_cons, plan.id_eq]
      rfl
    rw [closingIds_append, closing, numbers]
    exact List.perm_append_comm.trans (states.closings.cons id)
  · rw [plan.next_eq, Progress.push, moved, ← counted]
    omega

/-- The ids of planned triggers are those of states and those of closing triggers. -/
theorem InOrder.ids_perm {initial : String} {triggers : List Submission}
    (ordered : InOrder initial triggers) :
    (triggers.map Submission.id).Perm ((stateIds triggers ++ closingIds triggers).map some) := by
  have named : ∀ submissions : List Submission, (∀ submission ∈ submissions, submission ∈ triggers) →
      (submissions.filterMap Submission.id).map some = submissions.map Submission.id := by
    intro submissions within
    induction submissions with
    | nil => rfl
    | cons submission rest ih =>
        obtain ⟨id, shape⟩ := ordered.isPlanned submission (within submission List.mem_cons_self)
        rw [List.filterMap_cons_some shape.named, List.map_cons, List.map_cons, shape.named,
          ih fun other member => within other (List.mem_cons_of_mem _ member)]
  rw [List.map_append, stateIds, closingIds, named _ fun _ member => (List.mem_filter.mp member).1,
    named _ fun _ member => (List.mem_filter.mp member).1, ← List.map_append]
  have split := List.filter_append_perm
    (fun submission : Submission => decide (¬ submission.action = Vocabulary.closeLevel)) triggers
  simp only [decide_not, Bool.not_not] at split ⊢
  exact (split.map _).symm

end Plan

/-! ## Plans of one compiler -/

namespace Compiler

/-- Plan workflows one after the other with one compiler, whether they have plans or not.
The result has the plans that were made. -/
def series (compiler : Compiler) : List (Level × String) → List Plan × Compiler
  | [] => ([], compiler)
  | (workflow, initial) :: rest =>
    let (result, compiler) := compiler.attempt workflow initial
    let (plans, compiler) := compiler.series rest
    (result.toOption.toList ++ plans, compiler)

variable {compiler after : Compiler} {workflow : Level} {initial : String} {plan : Plan}

/-- A plan accounts for the names and the levels of its workflow. -/
theorem plan_accounts (distinct : workflow.Throughout fun level => level.names.Nodup)
    (planned : compiler.plan workflow initial = .ok (plan, after)) :
    Plan.Accounts ⟨compiler.sequence, []⟩ ⟨after.sequence, plan.triggers⟩ workflow.allNames
      (countLevel workflow) plan.triggers := by
  obtain ⟨added, accounts⟩ := Plan.levelStep_accounts distinct (plan_eq_ok_iff.mp planned)
  have all : plan.triggers = added := accounts.triggers
  rwa [← all] at accounts

/-- The plans of a series number their closing triggers on from the compiler, without gaps
and up to where it is left. -/
theorem series_closingIds (compiler : Compiler) (calls : List (Level × String))
    (distinct : ∀ call ∈ calls, call.1.Throughout fun level => level.names.Nodup) :
    ∃ levels, (compiler.series calls).2.sequence = compiler.sequence + levels ∧
      ((compiler.series calls).1.flatMap fun plan => Plan.closingIds plan.triggers).Perm
        (Plan.closingIdsFrom compiler.sequence levels) := by
  induction calls generalizing compiler with
  | nil => exact ⟨0, rfl, .nil⟩
  | cons call rest ih =>
      obtain ⟨workflow, initial⟩ := call
      have behind := fun other member => distinct other (List.mem_cons_of_mem _ member)
      simp only [series]
      cases planned : compiler.plan workflow initial with
      | error cause =>
          rw [attempt_of_error planned]
          simpa [Except.toOption] using ih compiler behind
      | ok made =>
          obtain ⟨plan, after⟩ := made
          rw [attempt_eq_ok_iff.mpr planned]
          have accounts := plan_accounts (distinct _ List.mem_cons_self) planned
          obtain ⟨levels, sequence, closings⟩ := ih after behind
          have moved : after.sequence = compiler.sequence + countLevel workflow := accounts.sequence
          refine ⟨countLevel workflow + levels, by simp [sequence, moved, Nat.add_assoc], ?_⟩
          rw [Plan.closingIdsFrom_append, ← moved]
          exact accounts.closings.append closings

/-- A plan has one trigger for every state that is no choice, on all levels of the
workflow, and one that closes each level; nothing is lost and nothing invented. The
closing triggers are numbered on from the compiler without gaps, the root level first, and
a workflow without a plan uses up no number. So the closing triggers of all plans of a
series have distinct consecutive numbers. -/
theorem plan_inventory (compiler : Compiler) (workflow : Level) (initial : String)
    (calls : List (Level × String))
    (distinct : workflow.Throughout fun level => level.names.Nodup)
    (distinctCalls : ∀ call ∈ calls, call.1.Throughout fun level => level.names.Nodup) :
    (∀ plan, (compiler.attempt workflow initial).1 = .ok plan →
      (plan.triggers.map Submission.id).Perm
        ((((levelsOf workflow).flatMap Level.stateNames) ++
          (List.range' compiler.sequence (levelsOf workflow).length).map Plan.closingId).map some) ∧
      plan.completion = Plan.closingId compiler.sequence ∧
      (compiler.attempt workflow initial).2.sequence =
        compiler.sequence + (levelsOf workflow).length) ∧
    (∀ cause, (compiler.attempt workflow initial).1 = .error cause →
      (compiler.attempt workflow initial).2.sequence = compiler.sequence) ∧
    ∃ levels, (compiler.series calls).2.sequence = compiler.sequence + levels ∧
      ((compiler.series calls).1.flatMap fun plan => Plan.closingIds plan.triggers).Perm
        ((List.range' compiler.sequence levels).map Plan.closingId) ∧
      ((compiler.series calls).1.flatMap fun plan => Plan.closingIds plan.triggers).Nodup := by
  refine ⟨?_, ?_, ?_⟩
  · intro plan made
    cases planned : compiler.plan workflow initial with
    | error cause =>
        rw [attempt_of_error planned] at made
        cases made
    | ok both =>
        obtain ⟨_, after⟩ := both
        rw [attempt_eq_ok_iff.mpr planned] at made ⊢
        cases made
        have accounts := plan_accounts distinct planned
        obtain ⟨_, _, _, ordered, _⟩ := plan_emits planned
        obtain ⟨_, _, _, _, _, level⟩ := Plan.levelStep_ok (plan_eq_ok_iff.mp planned)
        rw [length_levelsOf]
        exact ⟨ordered.ids_perm.trans ((accounts.states.append accounts.closings).map some),
          level.id_eq, accounts.sequence⟩
  · intro cause failed
    cases planned : compiler.plan workflow initial with
    | error => rw [attempt_of_error planned]
    | ok both =>
        rw [attempt_eq_ok_iff.mpr planned] at failed
        cases failed
  · obtain ⟨levels, sequence, closings⟩ := series_closingIds compiler calls distinctCalls
    exact ⟨levels, sequence, closings, closings.nodup_iff.mpr (Plan.nodup_closingIdsFrom _ _)⟩

/-- Between two plans of the sample, which has four levels, a workflow without an end uses
up no number: the closing triggers of both plans bear the numbers up to seven. -/
theorem sample_inventory :
    let endless : Level := ⟨none, "Endless", [("Endless", State.ofKind .pass)]⟩
    let calls := [(Level.sample, "$init"), (endless, "$init"), (Level.sample, "again")]
    (∀ call ∈ calls, call.1.Throughout fun level => level.names.Nodup) ∧
      ((({} : Compiler).series calls).1.flatMap fun plan => Plan.closingIds plan.triggers).Perm
        ((List.range' 0 8).map Plan.closingId) := by
  intro endless calls
  have single : endless.Throughout fun level => level.names.Nodup := by
    refine .intro (by decide) fun name state declared sub inside => ?_
    cases List.mem_singleton.mp declared
    exact absurd inside List.not_mem_nil
  have distinct : ∀ call ∈ calls, call.1.Throughout fun level => level.names.Nodup := by
    simp [calls, Level.sample_distinct, single]
  obtain ⟨_, _, levels, sequence, closings, _⟩ :=
    plan_inventory {} Level.sample "$init" calls Level.sample_distinct distinct
  have eight : (({} : Compiler).series calls).2.sequence = 8 := by decide +kernel
  have counted : levels = 8 := by simpa [eight] using sequence.symm
  exact ⟨distinct, counted ▸ closings⟩

end Compiler

end EventFlow
