import Mathlib.Data.List.Nodup
import Mathlib.Logic.Relation
import EventFlow.Proofs.Api.Compilations

/-!
# No way back

The triggers of a compiled workflow pass on to each other by their subjects. A plan is in
dependency order and a store accepts each id once, so whatever is passed on under another
subject than the one that starts the workflow is passed on to a later trigger. A way back
leads over the starting subject, and there is none if no trigger bears it.
-/

namespace EventFlow

/-- A trigger announces a subject if its context names it. -/
def Trigger.Announces (trigger : Trigger) (subject : String) : Prop :=
  Dict.get? trigger.context "subject" = some (.string subject)

/-- Among some triggers, one announces a subject that another one waits for. -/
structure Trigger.Passes (triggers : List Trigger) (subject : String) (first second : Trigger) :
    Prop where
  first_mem : first ∈ triggers
  second_mem : second ∈ triggers
  announces : first.Announces subject
  waits : ∃ key ∈ second.dependencies, key.subject = subject

/-- A relation along which a rank grows leads nowhere back. -/
theorem not_transGen_self_of_rank_lt {α : Type} {related : α → α → Prop} {rank : α → Nat}
    (grows : ∀ first second, related first second → rank first < rank second) (start : α) :
    ¬ Relation.TransGen related start start := by
  intro back
  have onward : ∀ other, Relation.TransGen related start other → rank start < rank other := by
    intro other path
    induction path with
    | single step => exact grows _ _ step
    | tail _ step ih => exact Nat.lt_trans ih (grows _ _ step)
  exact Nat.lt_irrefl _ (onward start back)

section Planned

variable {initial subject id : String} {submission : Submission} {submissions : List Submission}

/-- A planned trigger announces its id and nothing else. -/
theorem Submission.IsPlanned.announces_iff (planned : submission.IsPlanned id) :
    submission.trigger.Announces subject ↔ subject = id := by
  have named : Dict.get? submission.trigger.context "subject" = some (.string id) := by
    have found := planned.subject
    cases context : submission.context with
    | object fields =>
        rw [context] at found
        simpa [Submission.trigger, Submission.toTrigger, context, Json.fields, Json.get?]
          using found
    | _ =>
        rw [context] at found
        cases found
  rw [Trigger.Announces, named]
  constructor
  · intro same
    cases same
    rfl
  · rintro rfl
    rfl

/-- Triggers in order announce their ids. -/
theorem Plan.InOrder.announces_iff (ordered : Plan.InOrder initial submissions)
    {trigger : Trigger} (member : trigger ∈ submissions.map Submission.trigger) :
    trigger.Announces subject ↔ subject = trigger.id := by
  obtain ⟨submission, planned, rfl⟩ := List.mem_map.mp member
  obtain ⟨id, shape⟩ := ordered.isPlanned submission planned
  rw [shape.announces_iff, shape.trigger_id]

/-- Triggers in order wait for the initial subject, or for one that is announced before
them. -/
theorem Plan.InOrder.known_before (ordered : Plan.InOrder initial submissions) {position : Nat}
    {trigger : Trigger} (found : (submissions.map Submission.trigger)[position]? = some trigger) :
    ∀ key ∈ trigger.dependencies, key.subject = initial ∨ ∃ earlier before, earlier < position ∧
      (submissions.map Submission.trigger)[earlier]? = some before ∧ before.id = key.subject := by
  rw [List.getElem?_map, Option.map_eq_some_iff] at found
  obtain ⟨submission, stands, rfl⟩ := found
  intro key member
  refine (ordered.known_take stands key member).imp_right ?_
  rintro ⟨before, taken, named⟩
  obtain ⟨earlier, stands⟩ := List.mem_iff_getElem?.mp taken
  rw [List.getElem?_take] at stands
  split at stands
  · next bound =>
    obtain ⟨id, shape⟩ := ordered.isPlanned before (List.mem_of_getElem? stands)
    refine ⟨earlier, before.trigger, bound, by simp [stands], ?_⟩
    rw [shape.trigger_id]
    exact Option.some.inj (shape.named.symm.trans named)
  · cases stands

/-- The first of some triggers in order waits for the initial subject. -/
theorem Plan.InOrder.exists_source (ordered : Plan.InOrder initial submissions)
    (nonempty : submissions ≠ []) :
    ∃ trigger ∈ submissions.map Submission.trigger, ∃ key ∈ trigger.dependencies,
      key.subject = initial := by
  obtain ⟨first, rest, rfl⟩ := List.exists_cons_of_ne_nil nonempty
  obtain ⟨id, shape⟩ := ordered.isPlanned first List.mem_cons_self
  obtain ⟨key, others, waits⟩ := List.exists_cons_of_ne_nil shape.waits
  have member : key ∈ first.trigger.dependencies := by
    show key ∈ first.dependencies
    rw [waits]
    exact List.mem_cons_self
  have stands : ((first :: rest).map Submission.trigger)[0]? = some first.trigger := rfl
  rcases ordered.known_before stands key member with source | ⟨_, _, sooner, _⟩
  · exact ⟨first.trigger, List.mem_cons_self, key, member, source⟩
  · exact absurd sooner (Nat.not_lt_zero _)

/-- What is passed on under another subject than the initial one is passed on to a later
trigger. -/
theorem Plan.InOrder.idxOf_lt_of_passes (ordered : Plan.InOrder initial submissions)
    (distinct : ((submissions.map Submission.trigger).map Trigger.id).Nodup)
    (inner : subject ≠ initial) {first second : Trigger}
    (passes : Trigger.Passes (submissions.map Submission.trigger) subject first second) :
    ((submissions.map Submission.trigger).map Trigger.id).idxOf first.id <
      ((submissions.map Submission.trigger).map Trigger.id).idxOf second.id := by
  have position : ∀ {index : Nat} {trigger : Trigger},
      (submissions.map Submission.trigger)[index]? = some trigger →
      ((submissions.map Submission.trigger).map Trigger.id).idxOf trigger.id = index := by
    intro index trigger found
    have listed : ((submissions.map Submission.trigger).map Trigger.id)[index]? =
        some trigger.id := by
      rw [List.getElem?_map, found]
      rfl
    obtain ⟨bound, stands⟩ := List.getElem?_eq_some_iff.mp listed
    rw [← stands]
    exact distinct.idxOf_getElem index bound
  obtain ⟨index, stands⟩ := List.mem_iff_getElem?.mp passes.second_mem
  obtain ⟨key, waits, rfl⟩ := passes.waits
  obtain ⟨earlier, before, sooner, foundBefore, named⟩ :=
    (ordered.known_before stands key waits).resolve_left inner
  have own : key.subject = first.id := (ordered.announces_iff passes.first_mem).mp passes.announces
  rw [position stands, ← own, ← named, position foundBefore]
  exact sooner

/-- Nothing that is passed on under other subjects than the initial one comes back. -/
theorem Plan.InOrder.no_way_back (ordered : Plan.InOrder initial submissions)
    (distinct : ((submissions.map Submission.trigger).map Trigger.id).Nodup) (trigger : Trigger) :
    ¬ Relation.TransGen (fun first second => ∃ subject, subject ≠ initial ∧
      Trigger.Passes (submissions.map Submission.trigger) subject first second) trigger trigger :=
  not_transGen_self_of_rank_lt
    (fun _ _ ⟨_, inner, passes⟩ => ordered.idxOf_lt_of_passes distinct inner passes) trigger

end Planned

namespace TriggerStore

variable {store : TriggerStore} {compiler : Compiler} {workflow : Level} {initial id : String}
  {around : Surroundings}

/-- A compilation into an empty store that succeeds leaves the triggers of a plan in
order, each under an id of its own. -/
theorem Coherent.list_compiled (coherent : store.Coherent) (empty : store.list = .ok [])
    (compiled : (store.compilation compiler workflow initial around).result = .ok id) :
    ∃ plan planner, compiler.plan workflow initial = .ok (plan, planner) ∧
      (store.compilation compiler workflow initial around).store.list =
        .ok (plan.triggers.map Submission.trigger) ∧
      ((plan.triggers.map Submission.trigger).map Trigger.id).Nodup := by
  cases planned : compiler.plan workflow initial with
  | error cause =>
      rw [TriggerStore.compilation_unplanned planned] at compiled
      cases compiled
  | ok planning =>
      obtain ⟨plan, planner⟩ := planning
      rcases coherent.compilation_planned planned around with ⟨cause, made, -⟩ | ⟨made, -, frees⟩
      · rw [made] at compiled
        cases compiled
      · obtain ⟨kept, held⟩ := coherent.keepAll frees
        rw [coherent.list_eq] at empty
        refine ⟨plan, planner, rfl, ?_, frees.1⟩
        rw [made, kept.list_eq, held, Except.ok.inj empty, List.nil_append]

/-- In an empty store a workflow is compiled into triggers whose only source is the
initial subject: it is waited for, and every other subject that is waited for is announced
by one of the triggers. Whatever comes back to a trigger by announcements and dependencies
has come over the initial subject. If no trigger bears it as its id, then none announces
it, and nothing comes back to any trigger. -/
theorem compiled_acyclic (reachable : store.Reachable) (empty : store.list = .ok [])
    (compiled : (store.compilation compiler workflow initial around).result = .ok id) :
    ∃ cached, (store.compilation compiler workflow initial around).store.list = .ok cached ∧
      (∃ trigger ∈ cached, ∃ key ∈ trigger.dependencies, key.subject = initial) ∧
      (∀ trigger ∈ cached, ∀ key ∈ trigger.dependencies, key.subject = initial ∨
        ∃ before ∈ cached, before.Announces key.subject) ∧
      (∀ trigger, ¬ Relation.TransGen (fun first second => ∃ subject, subject ≠ initial ∧
        Trigger.Passes cached subject first second) trigger trigger) ∧
      ((∀ trigger ∈ cached, trigger.id ≠ initial) →
        (∀ trigger ∈ cached, ¬ trigger.Announces initial) ∧
          ∀ trigger, ¬ Relation.TransGen (fun first second => ∃ subject,
            Trigger.Passes cached subject first second) trigger trigger) := by
  obtain ⟨plan, planner, planned, listed, distinct⟩ :=
    reachable.coherent.list_compiled empty compiled
  obtain ⟨front, completions, triggers, ordered, -⟩ := Compiler.plan_emits planned
  have acyclic := ordered.no_way_back distinct
  refine ⟨_, listed, ?_, fun trigger member key waits => ?_, acyclic, fun foreign => ?_⟩
  · exact ordered.exists_source (by simp [triggers])
  · obtain ⟨position, stands⟩ := List.mem_iff_getElem?.mp member
    refine (ordered.known_before stands key waits).imp_right ?_
    rintro ⟨earlier, before, -, found, named⟩
    have cachedBefore := List.mem_of_getElem? found
    exact ⟨before, cachedBefore, (ordered.announces_iff cachedBefore).mpr named.symm⟩
  · -- Nobody announces the initial subject, so what is passed on is passed on aside from it.
    have silent : ∀ trigger ∈ plan.triggers.map Submission.trigger, ¬ trigger.Announces initial :=
      fun trigger member announced =>
        foreign trigger member ((ordered.announces_iff member).mp announced).symm
    refine ⟨silent, fun trigger back => acyclic trigger (Relation.TransGen.mono ?_ _ _ back)⟩
    rintro first second ⟨subject, passes⟩
    refine ⟨subject, ?_, passes⟩
    rintro rfl
    exact silent first passes.first_mem passes.announces

/-- The triggers of the sample are compiled without a way back. -/
theorem sample_compiled_acyclic : ∃ cached,
    (vacant.compilation {} Level.sample "$init" {}).store.list = .ok cached ∧
      (∀ trigger ∈ cached, ¬ trigger.Announces "$init") ∧
      ∀ trigger, ¬ Relation.TransGen (fun first second => ∃ subject,
        Trigger.Passes cached subject first second) trigger trigger := by
  have free : vacant.Reachable := .target "demo" (.opened .direct ⟨"user", "secret"⟩)
  have succeeds : (vacant.compilation {} Level.sample "$init" {}).result.isOk = true := by
    decide +kernel
  have foreign : ((vacant.compilation {} Level.sample "$init" {}).store.list.toOption.getD []).all
      (fun trigger => trigger.id != "$init") = true := by
    decide +kernel
  cases compiled : (vacant.compilation {} Level.sample "$init" {}).result with
  | error cause =>
      rw [compiled] at succeeds
      cases succeeds
  | ok id =>
      obtain ⟨cached, listed, -, -, -, aside⟩ := compiled_acyclic free rfl compiled
      refine ⟨cached, listed, aside fun trigger member => ?_⟩
      rw [listed] at foreign
      simpa using List.all_eq_true.mp foreign trigger member

/-- A workflow of one state that starts on the completion of this state. -/
def loop : Level :=
  ⟨none, "A", [("A", { State.ofKind .pass with ends := true })]⟩

/-- It is compiled into an empty store, and its trigger waits for what it announces. -/
theorem loop_compiled : ∃ first closing, vacant.Reachable ∧ vacant.list = .ok [] ∧
    (vacant.compilation {} loop "A" {}).result = .ok "StateMachine0" ∧
    (vacant.compilation {} loop "A" {}).store.list = .ok [first, closing] ∧
    first.Announces "A" ∧ Trigger.Passes [first, closing] "A" first first := by
  have free : vacant.Reachable := .target "demo" (.opened .direct ⟨"user", "secret"⟩)
  exact ⟨_, _, free, rfl, rfl, rfl, rfl, by simp, by simp, rfl, ⟨_, List.mem_cons_self, rfl⟩⟩

end TriggerStore

end EventFlow
