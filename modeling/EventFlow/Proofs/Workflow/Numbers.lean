import Mathlib.Algebra.Ring.Nat
import EventFlow.Proofs.Workflow.Steps

/-!
# Numbers of closing triggers

Every level takes one number when its planning begins, before all levels inside it.
What is planned behind a level goes on from the number behind the last one inside
it, so the number of a level is told by how many levels are planned before it.
-/

namespace EventFlow

mutual

/-- How many levels are planned with a level, itself included. -/
def countLevel : LevelOf State → Nat
  | ⟨_, _, states⟩ => countStates states + 1

/-- How many levels are planned inside the states of a level. -/
def countStates : List (String × State) → Nat
  | [] => 0
  | (_, state) :: rest => countState state + countStates rest

/-- How many levels are planned inside a state. -/
def countState : State → Nat
  | ⟨.parallel, _, _, _, _, branches, _, _⟩ => countBranches branches
  | ⟨.map, _, _, _, _, _, iterator, _⟩ => countIterator iterator
  | _ => 0

/-- How many levels are planned with branches. -/
def countBranches : List (LevelOf State) → Nat
  | [] => 0
  | branch :: rest => countLevel branch + countBranches rest

/-- How many levels are planned with an iterator, if there is one. -/
def countIterator : Option (LevelOf State) → Nat
  | none => 0
  | some level => countLevel level

end

/-- The levels planned inside a state are those planned with its sublevels. -/
theorem countState_eq (state : State) :
    countState state = (state.sublevels.map countLevel).sum := by
  have ofBranches : ∀ branches : List Level,
      countBranches branches = (branches.map countLevel).sum := by
    intro branches
    induction branches with
    | nil => rfl
    | cons branch rest ih => simp [countBranches, ih]
  obtain ⟨kind, next, ends, choices, default, branches, iterator, extra⟩ := state
  cases kind with
  | parallel => exact ofBranches branches
  | map => cases iterator <;> simp [countState, countIterator, State.sublevels]
  | _ => rfl

/-- The levels planned with a level are itself and those planned inside its states. -/
theorem countLevel_eq (level : Level) :
    countLevel level = (level.states.map fun entry => countState entry.2).sum + 1 := by
  have ofStates : ∀ states : List (String × State),
      countStates states = (states.map fun entry => countState entry.2).sum := by
    intro states
    induction states with
    | nil => rfl
    | cons entry rest ih => simp [countStates, ih]
  cases level
  rw [countLevel, ofStates]

namespace Level

/-- How many levels are planned inside the states of these names. -/
def countNames (level : Level) (names : List String) : Nat :=
  (names.map fun name => ((level.state? name).map countState).getD 0).sum

/-- The number of a level inside a state, from the number of the level around it. -/
def numberInside (level : Level) (number : Nat) (name : String) (state : State) (index : Nat) :
    Nat :=
  number + 1 + level.countNames ((Plan.planningOrder level).takeWhile (· ≠ name))
    + ((state.sublevels.take index).map countLevel).sum

theorem countNames_append (level : Level) (front rest : List String) :
    level.countNames (front ++ rest) = level.countNames front + level.countNames rest := by
  simp [countNames]

theorem countNames_singleton {level : Level} {name : String} {state : State}
    (found : level.state? name = some state) : level.countNames [name] = countState state := by
  simp [countNames, found]

/-- All states of a level together count as the level does without itself. -/
theorem countNames_complete {level : Level} {order : List String} (distinct : level.names.Nodup)
    (nodup : order.Nodup) (complete : ∀ name, name ∈ order ↔ name ∈ level.names) :
    level.countNames order + 1 = countLevel level := by
  have permuted : order.Perm level.names := (List.perm_ext_iff_of_nodup nodup distinct).mpr complete
  have counted : level.countNames order = level.countNames level.names :=
    (permuted.map _).sum_nat
  have byState : level.states.map (fun entry =>
      ((level.state? entry.1).map countState).getD 0) =
        level.states.map fun entry => countState entry.2 := by
    refine List.map_congr_left fun entry declared => ?_
    rw [Level.state?_of_mem_states distinct declared]
    rfl
  rw [counted, countLevel_eq, countNames, names, List.map_map]
  exact congrArg (fun counts => counts.sum + 1) byState

end Level

namespace Plan

variable {progress next : Progress}

/-- A part of a plan extends what is planned already by some levels. -/
structure Extends (progress next : Progress) (levels : Nat) : Prop where
  sequence : next.sequence = progress.sequence + levels
  triggers : progress.triggers <+: next.triggers

namespace Extends

variable {middle : Progress} {first second : Nat}

theorem refl : Extends progress progress 0 :=
  ⟨rfl, List.prefix_rfl⟩

theorem trans (left : Extends progress middle first) (right : Extends middle next second) :
    Extends progress next (first + second) :=
  ⟨by rw [right.sequence, left.sequence, Nat.add_assoc], left.triggers.trans right.triggers⟩

theorem push (extended : Extends progress next first) (submission : Submission) :
    Extends progress (next.push submission) first :=
  ⟨extended.sequence, extended.triggers.trans (List.prefix_append _ _)⟩

end Extends

variable {entry site : Site}

/-- Branches extend a plan by the levels in all of them. -/
theorem planBranches_extends {branches : List Level} {ids : List String}
    (inside : ∀ branch ∈ branches, ∀ progress id next,
      (levelStep branch site).success progress = .ok (id, next) →
        Extends progress next (countLevel branch))
    (planned : (planBranches (branches.map levelStep) site).success progress = .ok (ids, next)) :
    Extends progress next (branches.map countLevel).sum := by
  induction branches generalizing progress ids with
  | nil =>
      cases planned
      exact .refl
  | cons branch rest ih =>
      obtain ⟨id, middle, others, first, later, _⟩ := planBranches_cons_eq_ok_iff.mp planned
      exact (inside branch List.mem_cons_self progress id middle first).trans
        (ih (fun other member => inside other (List.mem_cons_of_mem _ member)) later)

/-- A state extends a plan by the levels inside it. -/
theorem stateStep_extends {name : String} {state : State} {outcome : Outcome}
    (inside : ∀ sub ∈ state.sublevels, ∀ site progress id next,
      (levelStep sub site).success progress = .ok (id, next) → Extends progress next (countLevel sub))
    (planned : (stateStep name state site).success progress = .ok (outcome, next)) :
    Extends progress next (countState state) := by
  rw [stateStep_eq, planKind] at planned
  rw [countState_eq]
  unfold State.sublevels at inside ⊢
  cases kind : state.kind with
  | parallel =>
      simp only [kind] at planned inside
      obtain ⟨_, ids, middle, branches, _, rfl⟩ := planParallel_eq_ok_iff.mp planned
      exact (planBranches_extends (fun branch member progress id next planned =>
        inside branch member _ progress id next planned) branches).push _
  | map =>
      simp only [kind] at planned inside
      obtain ⟨step, id, present, iterated, _⟩ := planMap_eq_ok_iff.mp planned
      obtain ⟨sub, iterator, rfl⟩ := Option.map_eq_some_iff.mp present
      have behind := inside sub (by simp [iterator]) _ _ id next iterated
      simpa [iterator] using (Extends.refl.push _).trans behind
  | succeed =>
      simp only [kind] at planned
      cases planned
  | fail =>
      simp only [kind] at planned
      cases planned
  | choice =>
      simp only [kind] at planned
      cases planned
      exact .refl
  | _ =>
      simp only [kind] at planned
      cases planned
      exact Extends.refl.push _

/-- States that were planned extend a plan by the levels inside them. -/
theorem Run.extends {level : Level} {links : Links} {start : Progress} {names : List String}
    {done : Dict Outcome}
    (inside : ∀ name state, (name, state) ∈ level.states → ∀ sub ∈ state.sublevels,
      ∀ site progress id next, (levelStep sub site).success progress = .ok (id, next) →
        Extends progress next (countLevel sub))
    (run : Run level links entry start names done progress) :
    Extends start progress (level.countNames names) := by
  induction run with
  | nil => exact .refl
  | snoc _ found _ planned ih =>
      rw [Level.countNames_append, Level.countNames_singleton found]
      exact ih.trans (stateStep_extends (inside _ _ (Level.mem_states_of_state? found)) planned)

/-- A level extends a plan by all levels that are planned with it. -/
theorem levelStep_extends {level : Level} {id : String}
    (distinct : level.Throughout fun level => level.names.Nodup)
    (made : (levelStep level entry).success progress = .ok (id, next)) :
    Extends progress next (countLevel level) := by
  induction level using Level.nestingInduction generalizing entry progress id next with
  | step level ih =>
  obtain ⟨links, order, done, middle, completions, plan⟩ := levelStep_ok made
  have states := plan.run.extends fun name state declared sub inside site progress id next made =>
    ih name state declared sub inside (distinct.inside declared inside) made
  have counted := Level.countNames_complete distinct.here plan.ordered.nodup plan.complete
  have numbered : Extends progress middle (countLevel level) :=
    ⟨by rw [states.sequence, ← counted]; dsimp only; omega, states.triggers⟩
  rw [plan.next_eq]
  exact numbered.push _

end Plan

end EventFlow
