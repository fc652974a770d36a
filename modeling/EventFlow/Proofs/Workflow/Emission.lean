import EventFlow.Proofs.Workflow.Compiled

/-!
# Plans in dependency order

A plan is emitted front to back. Each trigger waits for completions that are known by
then, because the initial event or an earlier trigger announces them, and announces its
own. What is known only grows, so the invariant of the triggers emitted so far is carried
through the branches, the states and the levels of a plan. The mark of the root is set on
the last trigger alone.
-/

namespace EventFlow

/-- A planned trigger is persistent. It waits for completions, at least for one, and its
context has its id as the subject that it announces. -/
structure Submission.IsPlanned (submission : Submission) (id : String) : Prop where
  named : submission.id = some id
  persistent : submission.transient = false
  waits : submission.dependencies ≠ []
  completions : ∀ key ∈ submission.dependencies, key.kind = EventKey.completionKind
  subject : submission.context.get? "subject" = some (.string id)

namespace Plan

/-- The trigger of a state is planned under the name of the state. -/
theorem isPlanned_stateTrigger {name action : String} {state : State} {waits : List String}
    {gate : Option Json} (nonempty : waits ≠ []) :
    (stateTrigger name waits action (gated (stateContext name state) gate)).IsPlanned name where
  named := rfl
  persistent := rfl
  waits := mt List.map_eq_nil_iff.mp nonempty
  completions := by
    intro key member
    obtain ⟨_, _, rfl⟩ := List.mem_map.mp member
    rfl
  subject := get?_gated _

/-- The trigger of a state has no mark of the root. -/
theorem root_stateTrigger {name action : String} {state : State} {waits : List String}
    {gate : Option Json} :
    (stateTrigger name waits action (gated (stateContext name state) gate)).context.get? "root" =
      none :=
  get?_gated _

/-- A closing trigger is planned under its id. -/
theorem isPlanned_closingTrigger {id : String} {completions : List String} {depth : Nat}
    (nonempty : completions ≠ []) : (closingTrigger id completions depth).IsPlanned id where
  named := rfl
  persistent := rfl
  waits := mt List.map_eq_nil_iff.mp nonempty
  completions := by
    intro key member
    obtain ⟨_, _, rfl⟩ := List.mem_map.mp member
    rfl
  subject := by
    have found := get?_closingContext id completions.length depth "subject"
    simp only [String.reduceEq, false_and, if_false, if_true] at found
    exact found

/-- Only the closing trigger of the root level has the mark of the root. -/
theorem root_closingTrigger {id : String} {completions : List String} {depth : Nat} :
    (closingTrigger id completions depth).context.get? "root" =
      if depth = 0 then some (.bool true) else none := by
  have found := get?_closingContext id completions.length depth "root"
  simp only [String.reduceEq, false_and, if_false, true_and] at found
  exact found

/-! ## Triggers in order -/

/-- A completion is announced by the initial event or by one of the triggers. -/
def Known (initial : String) (triggers : List Submission) (subject : String) : Prop :=
  subject = initial ∨ ∃ submission ∈ triggers, submission.id = some subject

/-- Planned triggers, each of which waits only for what is known before it. -/
inductive InOrder (initial : String) : List Submission → Prop where
  | nil : InOrder initial []
  | snoc {front : List Submission} {submission : Submission} {id : String}
      (before : InOrder initial front) (planned : submission.IsPlanned id)
      (known : ∀ key ∈ submission.dependencies, Known initial front key.subject) :
      InOrder initial (front ++ [submission])

variable {initial : String}

/-- What is known stays known. -/
theorem Known.mono {triggers more : List Submission} {subject : String}
    (known : Known initial triggers subject) (keeps : triggers <+: more) :
    Known initial more subject :=
  known.imp_right fun ⟨submission, member, named⟩ => ⟨submission, keeps.subset member, named⟩

/-- A trigger makes its own completion known. -/
theorem Known.last {front : List Submission} {submission : Submission} {id : String}
    (planned : submission.IsPlanned id) : Known initial (front ++ [submission]) id :=
  .inr ⟨submission, by simp, planned.named⟩

/-- Each trigger in order is planned. -/
theorem InOrder.isPlanned {triggers : List Submission} (ordered : InOrder initial triggers) :
    ∀ submission ∈ triggers, ∃ id, submission.IsPlanned id := by
  induction ordered with
  | nil => simp
  | snoc _ planned _ ih =>
      intro submission member
      rcases List.mem_append.mp member with earlier | last
      · exact ih submission earlier
      · exact ⟨_, List.mem_singleton.mp last ▸ planned⟩

/-- Each trigger in order waits only for what is known before its position. -/
theorem InOrder.known_take {triggers : List Submission} (ordered : InOrder initial triggers)
    {position : Nat} {submission : Submission} (found : triggers[position]? = some submission) :
    ∀ key ∈ submission.dependencies, Known initial (triggers.take position) key.subject := by
  induction ordered with
  | nil => simp at found
  | @snoc front last _ before _ known ih =>
      rcases Nat.lt_or_ge position front.length with earlier | later
      · rw [List.getElem?_append_left earlier] at found
        rw [List.take_append_of_le_length (Nat.le_of_lt earlier)]
        exact ih found
      · have inside : position < (front ++ [last]).length :=
          (List.getElem?_eq_some_iff.mp found).1
        have behind : position = front.length := by
          rw [List.length_append, List.length_singleton] at inside
          omega
        subst behind
        rw [List.getElem?_concat_length] at found
        cases found
        rwa [List.take_left]

/-- Triggers in order wait for nothing but the initial event and one another. -/
theorem InOrder.known {triggers : List Submission} (ordered : InOrder initial triggers) :
    ∀ submission ∈ triggers, ∀ key ∈ submission.dependencies,
      Known initial triggers key.subject := by
  intro submission member key listed
  obtain ⟨position, found⟩ := List.mem_iff_getElem?.mp member
  exact (ordered.known_take found key listed).mono (List.take_prefix _ _)

/-- What comes first of triggers in order is in order. -/
theorem InOrder.front {triggers front : List Submission} (ordered : InOrder initial triggers)
    (first : front <+: triggers) : InOrder initial front := by
  induction ordered with
  | nil =>
      rw [List.prefix_nil.mp first]
      exact .nil
  | snoc before planned known ih =>
      rcases List.prefix_concat_iff.mp first with rfl | earlier
      · exact .snoc before planned known
      · exact ih earlier

/-- A part of a plan is emitted on top of the triggers before it: all of them are in order,
and no new one has the mark of the root. -/
structure Emits (initial : String) (progress next : Progress) : Prop where
  keeps : progress.triggers <+: next.triggers
  ordered : InOrder initial next.triggers
  unmarked : ∀ submission ∈ next.triggers,
    submission ∈ progress.triggers ∨ submission.context.get? "root" = none

namespace Emits

variable {progress middle next : Progress}

theorem refl {sequence : Nat} (ordered : InOrder initial progress.triggers) :
    Emits initial progress { progress with sequence } :=
  ⟨List.prefix_rfl, ordered, fun _ member => .inl member⟩

theorem trans (first : Emits initial progress middle) (second : Emits initial middle next) :
    Emits initial progress next where
  keeps := first.keeps.trans second.keeps
  ordered := second.ordered
  unmarked submission member :=
    (second.unmarked submission member).elim (first.unmarked submission) .inr

theorem push {submission : Submission} {id : String} (emits : Emits initial progress next)
    (planned : submission.IsPlanned id)
    (known : ∀ key ∈ submission.dependencies, Known initial next.triggers key.subject)
    (unmarked : submission.context.get? "root" = none) :
    Emits initial progress (next.push submission) where
  keeps := emits.keeps.trans (List.prefix_append _ _)
  ordered := emits.ordered.snoc planned known
  unmarked other member :=
    (List.mem_append.mp member).elim (emits.unmarked other) fun last =>
      .inr (List.mem_singleton.mp last ▸ unmarked)

end Emits

/-! ## Plans in order -/

variable {entry site : Site} {progress next : Progress}

/-- Wherever a level is planned inside another one, its triggers are emitted in order, and
the last of them announces that it is closed. -/
def Closes (initial : String) (level : Level) : Prop :=
  ∀ (entry : Site) (progress : Progress) (id : String) (next : Progress), entry.depth ≠ 0 →
    InOrder initial progress.triggers → Known initial progress.triggers entry.input →
    (levelStep level entry).success progress = .ok (id, next) →
    Emits initial progress next ∧ Known initial next.triggers id

/-- Completions are waited for by their subjects. -/
theorem known_completions {triggers : List Submission} {subjects : List String}
    (known : ∀ subject ∈ subjects, Known initial triggers subject) :
    ∀ key ∈ subjects.map EventKey.completion, Known initial triggers key.subject := by
  intro key member
  obtain ⟨subject, listed, rfl⟩ := List.mem_map.mp member
  exact known subject listed

/-- Branches are emitted one after the other. -/
theorem planBranches_emits {branches : List Level} {ids : List String}
    (planned : (planBranches (branches.map levelStep) site).success progress = .ok (ids, next))
    (inside : ∀ branch ∈ branches, Closes initial branch) (nested : site.depth ≠ 0)
    (ordered : InOrder initial progress.triggers)
    (known : Known initial progress.triggers site.input) :
    Emits initial progress next ∧ (∀ id ∈ ids, Known initial next.triggers id) ∧
      ids.length = branches.length := by
  induction branches generalizing progress ids with
  | nil =>
      cases planned
      exact ⟨.refl ordered, by simp, rfl⟩
  | cons branch rest ih =>
      obtain ⟨id, middle, others, first, later, rfl⟩ := planBranches_cons_eq_ok_iff.mp planned
      obtain ⟨emits, closed⟩ :=
        inside branch List.mem_cons_self site progress id middle nested ordered known first
      obtain ⟨behind, closedToo, counted⟩ := ih later
        (fun other member => inside other (List.mem_cons_of_mem _ member)) emits.ordered
        (known.mono emits.keeps)
      refine ⟨emits.trans behind, fun other member => ?_, by simp [counted]⟩
      rcases List.mem_cons.mp member with rfl | member
      · exact closed.mono behind.keeps
      · exact closedToo other member

/-- A trigger of its own is emitted for a state whose input is known. -/
theorem emits_ownTrigger (name action : String) (state : State) (gate : Option Json)
    (ordered : InOrder initial progress.triggers)
    (known : Known initial progress.triggers site.input) :
    Emits initial progress
        (progress.push (stateTrigger name [site.input] action (gated (stateContext name state) gate))) ∧
      Known initial (progress.push
        (stateTrigger name [site.input] action (gated (stateContext name state) gate))).triggers
        name := by
  have planned : (stateTrigger name [site.input] action
      (gated (stateContext name state) gate)).IsPlanned name :=
    isPlanned_stateTrigger (List.cons_ne_nil _ _)
  refine ⟨(Emits.refl ordered).push planned (known_completions fun subject listed => ?_)
    root_stateTrigger, .last planned⟩
  exact List.mem_singleton.mp listed ▸ known

/-- A state whose input is known is emitted in order, and its completion is known then. -/
theorem stateStep_emits {name : String} {state : State} {outcome : Outcome}
    (inside : ∀ sub ∈ state.sublevels, Closes initial sub)
    (ordered : InOrder initial progress.triggers) (known : Known initial progress.triggers site.input)
    (planned : (stateStep name state site).success progress = .ok (outcome, next)) :
    Emits initial progress next ∧ Known initial next.triggers outcome.completion := by
  rw [stateStep_eq, planKind] at planned
  unfold State.sublevels at inside
  cases kind : state.kind with
  | pass | task | wait =>
      simp only [kind] at planned
      cases planned
      exact emits_ownTrigger _ _ _ _ ordered known
  | choice =>
      simp only [kind] at planned
      cases planned
      exact ⟨.refl ordered, known⟩
  | parallel =>
      simp only [kind] at planned inside
      obtain ⟨nonempty, ids, middle, branches, rfl, rfl⟩ := planParallel_eq_ok_iff.mp planned
      obtain ⟨emits, closed, counted⟩ :=
        planBranches_emits branches inside (Nat.succ_ne_zero site.depth) ordered known
      have some : ids ≠ [] := by
        rintro rfl
        exact nonempty (List.map_eq_nil_iff.mpr (List.eq_nil_of_length_eq_zero counted.symm))
      have join : (stateTrigger name ids Vocabulary.statePass
          (gated (stateContext name state) none)).IsPlanned name := isPlanned_stateTrigger some
      have unmarked : (stateTrigger name ids Vocabulary.statePass
          (gated (stateContext name state) none)).context.get? "root" = none := root_stateTrigger
      exact ⟨emits.push join (known_completions closed) unmarked, .last join⟩
  | map =>
      simp only [kind] at planned inside
      obtain ⟨step, id, present, iterated, rfl⟩ := planMap_eq_ok_iff.mp planned
      obtain ⟨sub, iterator, rfl⟩ := Option.map_eq_some_iff.mp present
      obtain ⟨own, announced⟩ :=
        emits_ownTrigger name Vocabulary.task state site.gate ordered known
      obtain ⟨behind, closed⟩ := inside sub (by simp [iterator]) _ _ id next
        (Nat.succ_ne_zero site.depth) own.ordered announced iterated
      exact ⟨own.trans behind, closed⟩
  | succeed | fail =>
      simp only [kind] at planned
      cases planned

/-- The site of a state has a known input if the entry of the level and the completions
of the states before it are known. -/
theorem known_siteOf {links : Links} {done : Dict Outcome} {name : String}
    {triggers : List Submission} (known : Known initial triggers entry.input)
    (left : ∀ other outcome, Dict.get? done other = some outcome →
      Known initial triggers outcome.completion)
    (sited : siteOf links entry done name = .ok site) : Known initial triggers site.input := by
  unfold siteOf at sited
  split at sited
  · cases sited
  · cases sited
    exact known
  · next previous _ =>
    split at sited
    · cases sited
    · next outcome found =>
      cases sited
      exact left previous outcome found

/-- The states of a level are emitted in order, and all their completions are known. -/
theorem Run.emits {level : Level} {links : Links} {start : Progress} {names : List String}
    {done : Dict Outcome} (run : Run level links entry start names done progress)
    (inside : ∀ name state, (name, state) ∈ level.states → ∀ sub ∈ state.sublevels,
      Closes initial sub)
    (ordered : InOrder initial start.triggers)
    (known : Known initial start.triggers entry.input) :
    Emits initial start progress ∧ ∀ name outcome, Dict.get? done name = some outcome →
      Known initial progress.triggers outcome.completion := by
  induction run with
  | nil => exact ⟨.refl ordered, by simp⟩
  | @snoc names done middle name state site outcome next _ declared sited planned ih =>
      obtain ⟨emits, left⟩ := ih
      have input := known_siteOf (known.mono emits.keeps) left sited
      obtain ⟨behind, completed⟩ := stateStep_emits (inside _ _ (Level.mem_states_of_state? declared))
        emits.ordered input planned
      refine ⟨emits.trans behind, fun other result found => ?_⟩
      rw [Dict.get?_insert] at found
      split at found
      · cases found
        exact completed
      · exact (left other result found).mono behind.keeps

/-- A level is emitted in order up to its closing trigger, which waits for known
completions. -/
theorem levelStep_emits {level : Level} {id : String}
    (made : (levelStep level entry).success progress = .ok (id, next))
    (inside : ∀ name state, (name, state) ∈ level.states → ∀ sub ∈ state.sublevels,
      Closes initial sub)
    (ordered : InOrder initial progress.triggers)
    (known : Known initial progress.triggers entry.input) :
    ∃ middle completions, Emits initial progress middle ∧ completions ≠ [] ∧
      (∀ completion ∈ completions, Known initial middle.triggers completion) ∧
      next = middle.push (closingTrigger id completions entry.depth) := by
  obtain ⟨links, order, done, middle, completions, plan⟩ := levelStep_ok made
  obtain ⟨emits, left⟩ := plan.run.emits inside ordered known
  have counted := plan.completed.length_eq
  refine ⟨middle, completions, (Emits.refl ordered).trans emits, ?_, ?_, plan.next_eq⟩
  · rintro rfl
    exact plan.ended (List.eq_nil_of_length_eq_zero counted)
  · intro completion member
    obtain ⟨name, -, completed⟩ := exists_of_forall₂ plan.completed.flip completion member
    unfold completionOf at completed
    split at completed
    · next outcome found =>
      cases completed
      exact left name outcome found
    · cases completed

/-- Every level is emitted in order where it is planned inside another one. -/
theorem closes (level : Level) : Closes initial level := by
  induction level using Level.nestingInduction with
  | step level ih =>
  intro entry progress id next nested ordered known made
  obtain ⟨middle, completions, emits, nonempty, completed, rfl⟩ :=
    levelStep_emits made ih ordered known
  have closing : (closingTrigger id completions entry.depth).IsPlanned id :=
    isPlanned_closingTrigger nonempty
  refine ⟨emits.push closing (known_completions completed) ?_, .last closing⟩
  rw [root_closingTrigger, if_neg nested]

end Plan

variable {compiler after : Compiler} {workflow : Level} {initial : String} {plan : Plan}

/-- A plan is emitted in order, and its root closing trigger comes last. -/
theorem Compiler.plan_emits (planned : compiler.plan workflow initial = .ok (plan, after)) :
    ∃ front completions, plan.triggers = front ++ [Plan.closingTrigger plan.completion completions 0] ∧
      Plan.InOrder initial plan.triggers ∧ ∀ submission ∈ front,
        submission.context.get? "root" = none := by
  obtain ⟨middle, completions, emits, nonempty, completed, equal⟩ :=
    Plan.levelStep_emits (Compiler.plan_eq_ok_iff.mp planned)
      (fun _ _ _ sub _ => Plan.closes sub) .nil (.inl rfl)
  have triggers : plan.triggers = middle.triggers ++
      [Plan.closingTrigger plan.completion completions 0] := congrArg Progress.triggers equal
  refine ⟨middle.triggers, completions, triggers, ?_, fun submission member => ?_⟩
  · rw [triggers]
    exact emits.ordered.snoc (Plan.isPlanned_closingTrigger nonempty)
      (Plan.known_completions completed)
  · exact (emits.unmarked submission member).resolve_left List.not_mem_nil

/-- In a plan each trigger waits only for completions that the initial event or a trigger
at an earlier position announces, and for at least one. All triggers are persistent and
announce their own ids. The last one closes the root level; it bears the id by which the
whole plan is completed, and it alone has the mark of the root. -/
theorem Compiler.plan_in_dependency_order
    (planned : compiler.plan workflow initial = .ok (plan, after)) :
    (∀ (position : Nat) (submission : Submission), plan.triggers[position]? = some submission →
      (∀ key ∈ submission.dependencies, key.kind = EventKey.completionKind ∧
        (key.subject = initial ∨ ∃ (earlier : Nat) (before : Submission), earlier < position ∧
          plan.triggers[earlier]? = some before ∧ before.id = some key.subject)) ∧
      submission.transient = false ∧ submission.dependencies ≠ [] ∧
      ∃ id, submission.id = some id ∧ submission.context.get? "subject" = some (.string id)) ∧
    ∃ closing, plan.triggers.getLast? = some closing ∧ closing.id = some plan.completion ∧
      closing.action = Vocabulary.closeLevel ∧
      closing.context.get? "root" = some (.bool true) ∧
      ∀ (position : Nat) (submission : Submission), plan.triggers[position]? = some submission →
        (submission.context.get? "root").isSome → position + 1 = plan.triggers.length := by
  obtain ⟨front, completions, triggers, ordered, unmarked⟩ := plan_emits planned
  constructor
  · intro position submission found
    obtain ⟨id, shape⟩ := ordered.isPlanned submission (List.mem_of_getElem? found)
    refine ⟨fun key listed => ⟨shape.completions key listed, ?_⟩, shape.persistent, shape.waits,
      id, shape.named, shape.subject⟩
    refine (ordered.known_take found key listed).imp_right ?_
    rintro ⟨before, member, named⟩
    obtain ⟨earlier, stands⟩ := List.mem_iff_getElem?.mp member
    rw [List.getElem?_take] at stands
    split at stands
    · next bound => exact ⟨earlier, before, bound, stands, named⟩
    · cases stands
  · refine ⟨_, by rw [triggers, List.getLast?_concat], rfl, rfl, Plan.root_closingTrigger, ?_⟩
    intro position submission found marked
    rw [triggers] at found ⊢
    have inside := (List.getElem?_eq_some_iff.mp found).1
    rw [List.length_append, List.length_singleton] at inside ⊢
    rcases Nat.lt_or_ge position front.length with earlier | later
    · rw [List.getElem?_append_left earlier] at found
      rw [unmarked submission (List.mem_of_getElem? found)] at marked
      cases marked
    · omega

/-- The plan of the sample is in dependency order: its last trigger is the one that closes
the root level. -/
theorem Compiler.sample_in_order : ∃ plan after,
    ({} : Compiler).plan Level.sample "$init" = .ok (plan, after) ∧
      ∃ closing, plan.triggers.getLast? = some closing ∧ closing.id = some plan.completion := by
  obtain ⟨plan, after, planned⟩ := sample_planned
  obtain ⟨_, closing, last, named, _⟩ := plan_in_dependency_order planned
  exact ⟨plan, after, planned, closing, last, named⟩

end EventFlow
