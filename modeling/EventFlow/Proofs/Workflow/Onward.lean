import Mathlib.Data.Set.Basic
import Mathlib.Logic.Relation
import EventFlow.Proofs.Workflow.Emission

/-!
# The way to the end

From a trigger of a plan the way leads on to any later trigger that waits for its
completion. It leads from every trigger to the last one, unless there is a dead end in the
workflow itself: a level with a state from which no transitions lead to a state that ends
the level. This is shown from the end: whoever waits for the completion of a part of a
plan leads on to the last trigger, so whatever is emitted for the part does, and so does
somebody who waits for its input.

A workflow with a dead end is accepted if another state ends the level. Nobody waits for
the completion of the state then.
-/

namespace EventFlow

namespace Level

/-- A level may come to its end from a state: transitions lead to a state that ends it. -/
def Concludes (level : Level) (name : String) : Prop :=
  ∃ last state, Relation.ReflTransGen level.Transition name last ∧ (last, state) ∈ level.states ∧
    state.ends = true

/-- A level may come to its end from every state that has a trigger of its own, which all
but the choices have. -/
def Conclusive (level : Level) : Prop :=
  ∀ name state, (name, state) ∈ level.states → state.kind ≠ .choice → level.Concludes name

/-- A state from which the level may come to its end ends it or leads on to another one. -/
theorem Concludes.cases {level : Level} {name : String} (concludes : level.Concludes name) :
    (∃ state, (name, state) ∈ level.states ∧ state.ends = true) ∨
      ∃ target, level.Transition name target ∧ level.Concludes target := by
  obtain ⟨last, state, path, declared, ends⟩ := concludes
  rcases Relation.ReflTransGen.cases_head path with rfl | ⟨target, leads, rest⟩
  · exact .inl ⟨state, declared, ends⟩
  · exact .inr ⟨target, leads, last, state, rest, declared, ends⟩

/-- A level has no dead end if each state but the choices ends it or has a target that
does. -/
theorem conclusive_of_near {level : Level} (near : ∀ entry ∈ level.states,
    entry.2.kind ≠ .choice → entry.2.ends = true ∨
      ∃ last ∈ level.states, last.1 ∈ entry.2.targets ∧ last.2.ends = true) :
    level.Conclusive := by
  intro name state declared other
  rcases near (name, state) declared other with ends | ⟨⟨last, final⟩, member, target, ends⟩
  · exact ⟨name, state, .refl, declared, ends⟩
  · exact ⟨last, final, .single ⟨state, declared, target⟩, member, ends⟩

/-- The sample has no dead end. -/
theorem sample_conclusive : sample.Throughout Level.Conclusive := by
  have nested : ∀ entry ∈ sample.states, ∀ sub ∈ entry.2.sublevels, ∀ inner ∈ sub.states,
      inner.2.kind ≠ .choice → inner.2.ends = true ∨
        ∃ last ∈ sub.states, last.1 ∈ inner.2.targets ∧ last.2.ends = true := by
    decide
  exact sample_throughout (conclusive_of_near (by decide)) fun entry member sub inside =>
    conclusive_of_near (nested entry member sub inside)

end Level

namespace Plan

/-- The trigger at a later position waits for the completion of an earlier one. -/
structure Feeds (triggers : List Submission) (earlier later : Nat) : Prop where
  sooner : earlier < later
  waits : ∃ first second key, triggers[earlier]? = some first ∧ triggers[later]? = some second ∧
    key ∈ second.dependencies ∧ first.id = some key.subject

/-- The way on, from position to position. -/
abbrev Leads (triggers : List Submission) : Nat → Nat → Prop :=
  Relation.ReflTransGen (Feeds triggers)

/-- From some position on a trigger waits for a subject, and leads to the last one. -/
def GoesOn (triggers : List Submission) (behind : Nat) (subject : String) (last : Nat) : Prop :=
  ∃ position submission key, behind ≤ position ∧ triggers[position]? = some submission ∧
    key ∈ submission.dependencies ∧ key.subject = subject ∧ Leads triggers position last

/-- What goes on from a later position on does so from an earlier one on. -/
theorem GoesOn.mono {triggers : List Submission} {behind before last : Nat} {subject : String}
    (goes : GoesOn triggers behind subject last) (sooner : before ≤ behind) :
    GoesOn triggers before subject last := by
  obtain ⟨position, submission, key, later, rest⟩ := goes
  exact ⟨position, submission, key, Nat.le_trans sooner later, rest⟩

/-- A trigger leads to the last one if its completion goes on behind it. -/
theorem GoesOn.leads {triggers : List Submission} {position last : Nat} {submission : Submission}
    {id : String} (found : triggers[position]? = some submission) (named : submission.id = some id)
    (goes : GoesOn triggers (position + 1) id last) : Leads triggers position last := by
  obtain ⟨later, second, key, behind, stands, waits, rfl, leads⟩ := goes
  exact .head ⟨behind, submission, second, key, found, stands, waits, named⟩ leads

/-- No way leads on from a trigger whose completion nobody waits for. -/
theorem eq_of_leads {triggers : List Submission} {position last : Nat} {submission : Submission}
    {id : String} (found : triggers[position]? = some submission) (named : submission.id = some id)
    (unread : ∀ other ∈ triggers, ∀ key ∈ other.dependencies, key.subject ≠ id)
    (leads : Leads triggers position last) : position = last := by
  rcases Relation.ReflTransGen.cases_head leads with same | ⟨later, feeds, -⟩
  · exact same
  · obtain ⟨first, waiting, key, here, there, waits, fed⟩ := feeds.waits
    obtain rfl : submission = first := Option.some.inj (found.symm.trans here)
    have subject : key.subject = id := (Option.some.inj (named.symm.trans fed)).symm
    exact absurd subject (unread waiting (List.mem_of_getElem? there) key waits)

/-- A part of a plan is drained by those to whom its completions go on: everything emitted
for it leads to the last trigger, and its inputs go on as well. -/
structure Drains (before after : List Submission) (inputs completions : Set String) : Prop where
  keeps : before <+: after
  drains : ∀ {whole : List Submission} {last : Nat}, after <+: whole →
    (∀ completion ∈ completions, GoesOn whole after.length completion last) →
      (∀ input ∈ inputs, GoesOn whole before.length input last) ∧
        ∀ position, before.length ≤ position → position < after.length →
          Leads whole position last

namespace Drains

variable {before middle after : List Submission} {inputs more completions others : Set String}

/-- A part without triggers hands its inputs on. -/
theorem refl (triggers : List Submission) (inputs : Set String) :
    Drains triggers triggers inputs inputs where
  keeps := List.prefix_rfl
  drains _ goes := ⟨goes, fun _ later sooner => absurd sooner (Nat.not_lt.mpr later)⟩

/-- Fewer inputs go on, and more completions are enough. -/
theorem mono (part : Drains before after inputs completions) (fewer : more ⊆ inputs)
    (enough : completions ⊆ others) : Drains before after more others where
  keeps := part.keeps
  drains within goes :=
    (part.drains within fun completion member => goes completion (enough member)).imp_left
      fun onward input member => onward input (fewer member)

/-- A part drains the one before it as far as its inputs are completions of that one. The
other completions have to go on behind both. -/
theorem onto (first : Drains before middle inputs others)
    (second : Drains middle after more completions) (left : others ⊆ completions ∪ more) :
    Drains before after (inputs ∪ more) completions where
  keeps := first.keeps.trans second.keeps
  drains := by
    intro whole last within goes
    obtain ⟨entering, later⟩ := second.drains within goes
    have between : ∀ other ∈ others, GoesOn whole middle.length other last := by
      intro other member
      rcases left member with behind | taken
      · exact (goes other behind).mono second.keeps.length_le
      · exact entering other taken
    obtain ⟨start, earlier⟩ := first.drains (second.keeps.trans within) between
    refine ⟨?_, fun position lower upper => ?_⟩
    · rintro input (waits | waits)
      · exact start input waits
      · exact (entering input waits).mono first.keeps.length_le
    · rcases Nat.lt_or_ge position middle.length with inside | outside
      · exact earlier position lower inside
      · exact later position outside upper

/-- A part that starts on the completions of another one drains that one. -/
theorem trans (first : Drains before middle inputs others)
    (second : Drains middle after others completions) :
    Drains before after inputs completions :=
  (first.onto second Set.subset_union_right).mono Set.subset_union_left subset_rfl

/-- Two parts side by side are drained together. -/
theorem beside (first : Drains before middle inputs completions)
    (second : Drains middle after more others) :
    Drains before after inputs (completions ∪ others) :=
  (first.onto (second.mono subset_rfl Set.subset_union_right)
    (Set.subset_union_left.trans Set.subset_union_left)).mono Set.subset_union_left subset_rfl

/-- A trigger is a part of its own, with all that it waits for as inputs. -/
theorem push {submission : Submission} {id : String} (triggers : List Submission)
    (named : submission.id = some id) :
    Drains triggers (triggers ++ [submission])
      {subject | ∃ key ∈ submission.dependencies, key.subject = subject} {id} where
  keeps := List.prefix_append _ _
  drains := by
    intro whole last within goes
    have stands : whole[triggers.length]? = some submission := by
      obtain ⟨rest, rfl⟩ := within
      simp
    have closed := goes id rfl
    rw [List.length_append, List.length_singleton] at closed
    have leads := closed.leads stands named
    constructor
    · rintro _ ⟨key, waits, rfl⟩
      exact ⟨_, submission, key, Nat.le_refl _, stands, waits, rfl, leads⟩
    · intro position lower upper
      rw [List.length_append, List.length_singleton] at upper
      obtain rfl : position = triggers.length := by omega
      exact leads

end Drains

/-! ## Parts of plans -/

variable {entry site : Site} {progress next : Progress}

/-- Wherever a level is planned, it is drained by whoever waits for it to be closed. -/
def LevelDrains (level : Level) : Prop :=
  ∀ (entry : Site) (progress : Progress) (id : String) (next : Progress),
    (levelStep level entry).success progress = .ok (id, next) →
    Drains progress.triggers next.triggers {entry.input} {id}

/-- Completions are waited for by their subjects. -/
theorem mem_waits_iff {subjects : List String} {subject : String} :
    (∃ key ∈ subjects.map EventKey.completion, key.subject = subject) ↔ subject ∈ subjects := by
  simp [EventKey.completion]

/-- A trigger of a state is drained by whoever waits for the state. -/
theorem drains_stateTrigger (name action : String) (context : Dict Json) (waits : List String)
    (progress : Progress) :
    Drains progress.triggers (progress.push (stateTrigger name waits action context)).triggers
      {subject | subject ∈ waits} {name} :=
  (Drains.push progress.triggers rfl).mono (fun _ member => mem_waits_iff.mpr member)
    subset_rfl

/-- Branches are drained together. -/
theorem planBranches_drains {branches : List Level} {ids : List String}
    (planned : (planBranches (branches.map levelStep) site).success progress = .ok (ids, next))
    (inside : ∀ branch ∈ branches, LevelDrains branch) (nonempty : branches ≠ []) :
    Drains progress.triggers next.triggers {site.input} {id | id ∈ ids} := by
  induction branches generalizing progress ids with
  | nil => exact absurd rfl nonempty
  | cons branch rest ih =>
      obtain ⟨id, middle, others, first, later, rfl⟩ := planBranches_cons_eq_ok_iff.mp planned
      have here := inside branch List.mem_cons_self site progress id middle first
      cases rest with
      | nil =>
          cases later
          exact here.mono subset_rfl fun _ same => List.mem_singleton.mpr same
      | cons second more =>
          have behind := ih later (fun other member => inside other (List.mem_cons_of_mem _ member))
            (List.cons_ne_nil _ _)
          refine (here.beside behind).mono subset_rfl ?_
          rintro other (rfl | member)
          · exact List.mem_cons_self
          · exact List.mem_cons_of_mem _ member

/-- A state is drained by whoever waits for its completion. -/
theorem stateStep_drains {name : String} {state : State} {outcome : Outcome}
    (inside : ∀ sub ∈ state.sublevels, LevelDrains sub)
    (planned : (stateStep name state site).success progress = .ok (outcome, next)) :
    Drains progress.triggers next.triggers {site.input} {outcome.completion} := by
  rw [stateStep_eq, planKind] at planned
  unfold State.sublevels at inside
  cases kind : state.kind with
  | pass | task | wait =>
      simp only [kind] at planned
      cases planned
      exact (drains_stateTrigger name _ _ [site.input] progress).mono
        (fun _ same => List.mem_singleton.mpr same) subset_rfl
  | choice =>
      simp only [kind] at planned
      cases planned
      exact .refl _ _
  | parallel =>
      simp only [kind] at planned inside
      obtain ⟨nonempty, ids, middle, branches, rfl, rfl⟩ := planParallel_eq_ok_iff.mp planned
      have drained := planBranches_drains branches inside
        (mt (congrArg (List.map levelStep)) nonempty)
      exact drained.trans (drains_stateTrigger name _ _ ids middle)
  | map =>
      simp only [kind] at planned inside
      obtain ⟨step, id, present, iterated, rfl⟩ := planMap_eq_ok_iff.mp planned
      obtain ⟨sub, iterator, rfl⟩ := Option.map_eq_some_iff.mp present
      have own := drains_stateTrigger name Vocabulary.task
        (gated (stateContext name state) site.gate) [site.input] progress
      exact (own.mono (fun _ same => List.mem_singleton.mpr same) subset_rfl).trans
        (inside sub (by simp [iterator]) _ _ id next iterated)
  | succeed | fail =>
      simp only [kind] at planned
      cases planned

/-- Nothing is emitted for a choice. -/
theorem stateStep_choice {name : String} {state : State} {outcome : Outcome}
    (choice : state.kind = .choice)
    (planned : (stateStep name state site).success progress = .ok (outcome, next)) :
    next = progress := by
  rw [stateStep_eq, planKind, choice] at planned
  cases planned
  rfl

/-! ## Levels -/

section Level

variable {level : Level} {links : Links} {start : Progress} {names : List String}
  {done : Dict Outcome}

/-- The input of a site is that of the level, or the completion of a planned state. -/
theorem siteOf_input {name : String} (sited : siteOf links entry done name = .ok site) :
    (Dict.get? links.entrances name = some .entry ∧ site.input = entry.input) ∨
      ∃ source outcome, Dict.get? links.entrances name = some (.state source) ∧
        Dict.get? done source = some outcome ∧ site.input = outcome.completion := by
  unfold siteOf at sited
  split at sited
  · cases sited
  · next entered =>
    cases sited
    exact .inl ⟨entered, rfl⟩
  · next source entered =>
    split at sited
    · cases sited
    · next outcome found =>
      cases sited
      exact .inr ⟨source, outcome, entered, found, rfl⟩

/-- A state is planned behind the one that it is entered from. -/
theorem Run.mem_of_entered (run : Run level links entry start names done progress)
    {target source : String} (member : target ∈ names)
    (entered : Dict.get? links.entrances target = some (.state source)) : source ∈ names := by
  induction run with
  | nil => cases member
  | @snoc names done progress last state site outcome next before _ sited _ ih =>
      rcases List.mem_append.mp member with earlier | now
      · exact List.mem_append_left _ (ih earlier)
      · rw [List.mem_singleton] at now
        subst now
        rcases siteOf_input sited with ⟨start, -⟩ | ⟨previous, _, from_previous, found, -⟩
        · cases entered.symm.trans start
        · cases entered.symm.trans from_previous
          exact List.mem_append_left _ (before.mem_of_get? found)

/-- The completions of the planned states that end their level, or lead to a state that is
still to be planned and from which the level may come to its end. -/
def openEnds (level : Level) (names : List String) (done : Dict Outcome) : Set String :=
  {completion | ∃ name outcome, Dict.get? done name = some outcome ∧
    outcome.completion = completion ∧
    ((∃ state, (name, state) ∈ level.states ∧ state.ends = true) ∨
      ∃ target, level.Transition name target ∧ level.Concludes target ∧ target ∉ names)}

/-- The completion of a state on top of the planned ones is an open end if the level may
come to its end from it, as no state that it leads to is planned yet. -/
theorem Run.completion_mem_openEnds (described : Links.Describes level links level.states)
    (before : Run level links entry start names done progress) {name : String}
    (outcome : Outcome) (fresh : name ∉ names) (sited : siteOf links entry done name = .ok site)
    (concludes : level.Concludes name) :
    outcome.completion ∈ openEnds level (names ++ [name]) (Dict.insert done name outcome) := by
  refine ⟨name, outcome, Dict.get?_insert_self _ _ _, rfl, concludes.cases.imp_right ?_⟩
  rintro ⟨target, leads, rest⟩
  refine ⟨target, leads, rest, fun member => ?_⟩
  have entered := described.entered leads
  rcases List.mem_append.mp member with planned | itself
  · exact fresh (before.mem_of_entered planned entered)
  · cases List.mem_singleton.mp itself
    rcases siteOf_input sited with ⟨start, -⟩ | ⟨previous, _, source, there, -⟩
    · cases entered.symm.trans start
    · cases entered.symm.trans source
      exact fresh (before.mem_of_get? there)

/-- An open end stays one when a state is planned on top, unless it is the input of that
state and the level may come to its end from there. -/
theorem Run.openEnds_cases (described : Links.Describes level links level.states)
    (before : Run level links entry start names done progress) {name : String}
    (outcome : Outcome) (fresh : name ∉ names) (sited : siteOf links entry done name = .ok site)
    {completion : String} (ends : completion ∈ openEnds level names done) :
    completion ∈ openEnds level (names ++ [name]) (Dict.insert done name outcome) ∨
      (completion = site.input ∧ level.Concludes name) := by
  obtain ⟨other, result, there, rfl, ends⟩ := ends
  have kept : Dict.get? (Dict.insert done name outcome) other = some result := by
    rw [Dict.get?_insert_of_ne _ _ ?_]
    · exact there
    · rintro rfl
      exact fresh (before.mem_of_get? there)
  rcases ends with ends | ⟨target, leads, concludes, absent⟩
  · exact .inl ⟨other, result, kept, rfl, .inl ends⟩
  · by_cases reached : target = name
    · subst reached
      have entered := described.entered leads
      rcases siteOf_input sited with ⟨start, -⟩ | ⟨previous, _, source, found, input⟩
      · cases entered.symm.trans start
      · cases entered.symm.trans source
        cases there.symm.trans found
        exact .inr ⟨input.symm, concludes⟩
    · have later : target ∉ names ++ [name] := by simp [absent, reached]
      exact .inl ⟨other, result, kept, rfl, .inr ⟨target, leads, concludes, later⟩⟩

/-- The states of a level that are planned so far are drained by whoever waits for their
open ends. -/
theorem Run.drains (described : Links.Describes level links level.states)
    (conclusive : level.Conclusive) (starts : level.Concludes level.startAt)
    (inside : ∀ name state, (name, state) ∈ level.states → ∀ sub ∈ state.sublevels,
      LevelDrains sub)
    (nodup : names.Nodup) (run : Run level links entry start names done progress) :
    Drains start.triggers progress.triggers {input | names ≠ [] ∧ input = entry.input}
      (openEnds level names done) := by
  induction run with
  | nil => exact (Drains.refl _ _).mono (by simp) (Set.empty_subset _)
  | @snoc names done progress name state site outcome next before found sited planned ih =>
      have declared := Level.mem_states_of_state? found
      have fresh : name ∉ names := fun member =>
        (List.nodup_append.mp nodup).2.2 name member name (List.mem_singleton_self _) rfl
      have earlier := ih (List.nodup_append.mp nodup).1
      have left : ∀ completion ∈ openEnds level names done,
          completion ∈ openEnds level (names ++ [name]) (Dict.insert done name outcome) ∨
            (completion = site.input ∧ level.Concludes name) :=
        fun _ ends => before.openEnds_cases described outcome fresh sited ends
      by_cases concludes : level.Concludes name
      · have here := stateStep_drains (inside name state declared) planned
        have own := before.completion_mem_openEnds described outcome fresh sited concludes
        have opened := here.mono subset_rfl fun _ same => same ▸ own
        have both := earlier.onto opened fun _ ends => (left _ ends).imp_right And.left
        refine both.mono ?_ subset_rfl
        rintro _ ⟨-, rfl⟩
        rcases siteOf_input sited with ⟨-, same⟩ | ⟨previous, _, _, there, -⟩
        · exact .inr same.symm
        · exact .inl ⟨List.ne_nil_of_mem (before.mem_of_get? there), rfl⟩
      · -- A dead end is a choice, for which nothing is emitted, and it is not the start.
        have choice : state.kind = .choice :=
          not_not.mp fun other => concludes (conclusive name state declared other)
        obtain rfl : next = progress := stateStep_choice choice planned
        refine earlier.mono ?_ fun _ ends =>
          (left _ ends).resolve_right fun both => concludes both.2
        rintro _ ⟨-, rfl⟩
        rcases siteOf_input sited with ⟨start, -⟩ | ⟨previous, _, _, there, -⟩
        · exact absurd (described.entry_iff.mp start ▸ starts) concludes
        · exact ⟨List.ne_nil_of_mem (before.mem_of_get? there), rfl⟩

/-- A planned level may come to its end from its start. -/
theorem Planned.concludes_start {id : String} {order : List String} {middle : Progress}
    {completions : List String}
    (plan : Planned level entry progress id next links order done middle completions) :
    level.Concludes level.startAt := by
  obtain ⟨last, member⟩ := List.exists_mem_of_ne_nil _ plan.ended
  rw [plan.described.terminals] at member
  obtain ⟨⟨name, state⟩, listed, rfl⟩ := List.mem_map.mp member
  obtain ⟨declared, ends⟩ := List.mem_filter.mp listed
  have ordered := (plan.complete name).mpr (List.mem_map.mpr ⟨_, declared, rfl⟩)
  have reached := plan.described.reached_iff.mpr (plan.ordered.depth name ordered)
  exact ⟨name, state, reached, declared, ends⟩

/-- A level is drained up to its closing trigger, by whoever waits for the completions for
which that trigger waits. -/
theorem levelStep_drains {id : String}
    (made : (levelStep level entry).success progress = .ok (id, next)) (conclusive : level.Conclusive)
    (inside : ∀ name state, (name, state) ∈ level.states → ∀ sub ∈ state.sublevels,
      LevelDrains sub) :
    ∃ (middle : Progress) (completions : List String),
      Drains progress.triggers middle.triggers {entry.input}
        {completion | completion ∈ completions} ∧
      next = middle.push (closingTrigger id completions entry.depth) := by
  obtain ⟨links, order, done, middle, completions, plan⟩ := levelStep_ok made
  have states := plan.run.drains plan.described conclusive plan.concludes_start inside
    plan.ordered.nodup
  refine ⟨middle, completions, states.mono ?_ ?_, plan.next_eq⟩
  · rintro _ rfl
    exact ⟨List.ne_nil_of_mem ((plan.complete _).mpr plan.start), rfl⟩
  · rintro _ ⟨name, outcome, there, rfl, ⟨state, declared, ends⟩ | ⟨target, leads, -, absent⟩⟩
    · have last : name ∈ links.terminals := by
        rw [plan.described.terminals]
        exact List.mem_map.mpr ⟨_, List.mem_filter.mpr ⟨declared, ends⟩, rfl⟩
      obtain ⟨completion, listed, completed⟩ := exists_of_forall₂ plan.completed name last
      have same : completionOf done name = .ok outcome.completion := by
        simp only [completionOf, there]
      cases same.symm.trans completed
      exact listed
    · obtain ⟨state, declared, leads⟩ := leads
      have known := (plan.admissible _ declared).declared target leads
      exact absurd ((plan.complete target).mpr known) absent

/-- A level without a dead end, in itself and in the levels inside it, is drained wherever
it is planned. -/
theorem levelDrains (conclusive : level.Throughout Level.Conclusive) : LevelDrains level := by
  induction conclusive with
  | @intro level conclusive _ ih =>
  intro entry progress id next made
  obtain ⟨middle, completions, states, rfl⟩ := levelStep_drains made conclusive ih
  refine states.trans ((Drains.push middle.triggers rfl).mono (fun _ member => ?_) subset_rfl)
  exact mem_waits_iff.mpr member

end Level

end Plan

variable {compiler after : Compiler} {workflow : Level} {initial : String} {plan : Plan}

/-- From every trigger of a plan the way on, from a trigger to a later one that waits for
its completion, leads to the last trigger, if there is no dead end in the workflow itself.
The last trigger closes the root level and completes the plan. -/
theorem Compiler.plan_leads_to_end (planned : compiler.plan workflow initial = .ok (plan, after))
    (conclusive : workflow.Throughout Level.Conclusive) :
    ∃ last closing, plan.triggers[last]? = some closing ∧ last + 1 = plan.triggers.length ∧
      closing.id = some plan.completion ∧ closing.context.get? "root" = some (.bool true) ∧
      ∀ position < plan.triggers.length, Plan.Leads plan.triggers position last := by
  obtain ⟨middle, completions, states, equal⟩ :=
    Plan.levelStep_drains (Compiler.plan_eq_ok_iff.mp planned) conclusive.here
      fun _ _ declared _ sub => Plan.levelDrains (conclusive.inside declared sub)
  have triggers : plan.triggers = middle.triggers ++
      [Plan.closingTrigger plan.completion completions 0] := congrArg Progress.triggers equal
  have stands : plan.triggers[middle.triggers.length]? =
      some (Plan.closingTrigger plan.completion completions 0) := by simp [triggers]
  have closes : ∀ completion ∈ {completion | completion ∈ completions},
      Plan.GoesOn plan.triggers middle.triggers.length completion middle.triggers.length := by
    intro completion listed
    obtain ⟨key, waits, same⟩ := Plan.mem_waits_iff.mpr listed
    exact ⟨_, _, key, Nat.le_refl _, stands, waits, same, .refl⟩
  have before := (states.drains (triggers ▸ List.prefix_append _ _) closes).2
  refine ⟨_, _, stands, by simp [triggers], rfl, Plan.root_closingTrigger, ?_⟩
  intro position inside
  rw [triggers, List.length_append, List.length_singleton] at inside
  rcases Nat.lt_or_ge position middle.triggers.length with earlier | later
  · exact before position (Nat.zero_le _) earlier
  · obtain rfl : position = middle.triggers.length := by omega
    exact .refl

/-- In the plan of the sample the way leads from every trigger to the last one. -/
theorem Compiler.sample_leads_to_end : ∃ plan after last,
    ({} : Compiler).plan Level.sample "$init" = .ok (plan, after) ∧
      Level.sample.Throughout Level.Conclusive ∧ last + 1 = plan.triggers.length ∧
      ∀ position < plan.triggers.length, Plan.Leads plan.triggers position last := by
  obtain ⟨plan, after, planned⟩ := sample_planned
  obtain ⟨last, _, _, final, _, _, leads⟩ := plan_leads_to_end planned Level.sample_conclusive
  exact ⟨plan, after, last, planned, Level.sample_conclusive, final, leads⟩

/-- A workflow with a choice, one of whose targets neither ends it nor has a successor. -/
def Level.blind : Level where
  comment := none
  startAt := "C"
  states := [
    ("C", { State.ofKind .choice with
      choices := [⟨"A", [("BooleanEquals", .bool true), ("Variable", "$.x")]⟩]
      default := some "B" }),
    ("A", { State.ofKind .pass with ends := true }),
    ("B", State.ofKind .pass)]

/-- It has a plan, in which no way leads from the trigger of that state to the last one. -/
theorem Compiler.blind_planned : ∃ plan after dead closing,
    ({} : Compiler).plan Level.blind "init" = .ok (plan, after) ∧ plan.triggers.length = 3 ∧
      plan.triggers[1]? = some dead ∧ dead.id = some "B" ∧
      plan.triggers[2]? = some closing ∧ closing.id = some plan.completion ∧
      ¬ Plan.Leads plan.triggers 1 2 := by
  refine ⟨_, _, _, _, rfl, rfl, rfl, rfl, rfl, rfl, fun leads => ?_⟩
  exact absurd (Plan.eq_of_leads rfl rfl (by decide) leads) (by decide)

end EventFlow
