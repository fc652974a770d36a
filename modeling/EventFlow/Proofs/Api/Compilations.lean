import EventFlow.Proofs.Api.Caching

/-!
# Compilations

The triggers of a plan go into a caching store one after the other. Those in front of the
first one that is refused are kept, and withdrawn again when there is such a one. So a
compilation leaves either the whole plan behind the triggers that were there, or nothing.
It is enough that the store is coherent, which every operation of a caching store
preserves.
-/

namespace EventFlow

variable {id : String} {submission : Submission}

namespace Submission

/-- The context of a planned trigger is an object. -/
theorem IsPlanned.object_fields (planned : submission.IsPlanned id) :
    Json.object submission.context.fields = submission.context := by
  have subject := planned.subject
  cases context : submission.context <;> rw [context] at subject <;> first | rfl | cases subject

/-- A store accepts the context of a planned trigger as it is. -/
theorem IsPlanned.submittedContext (planned : submission.IsPlanned id) :
    TriggerStore.submittedContext submission.context = .ok submission.context.fields :=
  congrArg TriggerStore.submittedContext planned.object_fields.symm

/-- A store makes its trigger of a planned submission. -/
theorem IsPlanned.toTrigger_fields (planned : submission.IsPlanned id) :
    submission.toTrigger id submission.context.fields = submission.trigger := by
  rw [Submission.trigger, planned.named, Option.getD_some]

/-- A trigger is what a store makes of a submission: it bears the id that was submitted, has
this context, and everything else of the submission as it is. -/
structure StoredAs (submission : Submission) (context : Json) (trigger : Trigger) : Prop where
  id : submission.id = some trigger.id
  condition : trigger.condition = submission.condition
  action : trigger.action = submission.action
  context : Json.object trigger.context = context
  dependencies : trigger.dependencies = submission.dependencies
  transient : trigger.transient = submission.transient

/-- A planned trigger is stored with all that was planned. -/
theorem IsPlanned.storedAs (planned : submission.IsPlanned id) :
    submission.StoredAs submission.context submission.trigger where
  id := by rw [← planned.toTrigger_fields]; exact planned.named
  condition := rfl
  action := rfl
  context := planned.object_fields
  dependencies := rfl
  transient := rfl

/-- A planned trigger bears its id in a store. -/
theorem IsPlanned.trigger_id (planned : submission.IsPlanned id) : submission.trigger.id = id :=
  Option.some.inj (planned.storedAs.id.symm.trans planned.named)

end Submission

namespace TriggerStore

variable {store after : TriggerStore} {submissions : List Submission} {compiler planner : Compiler}
  {workflow : Level} {initial : String} {around : Surroundings} {plan : Plan}

/-! ## Submissions -/

/-- A planned trigger is checked for an active namespace alone. -/
theorem checked_planned (planned : submission.IsPlanned id) :
    store.checked submission = store.activeSpace.map fun space => (space, submission.context.fields) := by
  unfold checked
  rw [planned.persistent, planned.named]
  cases store.activeSpace with
  | error cause => rfl
  | ok space =>
      simp only [Failing.ok_bind, planned.submittedContext]
      rfl

/-- A planned trigger is refused without an active namespace or if its id is taken. The
triggers behind it are submitted only if it is kept. -/
theorem submit_cons (mode : store.mode = .cached) (planned : submission.IsPlanned id)
    (ids : List String) (around : Surroundings) (rest : List Submission) :
    store.submit ids around (submission :: rest) =
      match store.space with
      | none => { result := .error .noNamespace, ids, store, around }
      | some _ =>
        if (Dict.get? store.cache id).isSome then
          { result := .error (.duplicateTrigger id), ids, store, around }
        else (store.keep id submission.trigger).submit (ids ++ [id]) around rest := by
  rw [submit, perform_add, checked_planned planned, planned.named, mode]
  unfold activeSpace
  cases store.space with
  | none => rfl
  | some space =>
      simp only [Except.map, Option.isSome_some, Option.getD_some, Bool.true_and]
      rw [planned.toTrigger_fields]
      cases (Dict.get? store.cache id).isSome <;> rfl

/-- Planned triggers are kept up to the first one that is refused. None is refused if a
namespace is active, the ids are distinct, and none of them is taken. -/
theorem submit_planned (mode : store.mode = .cached)
    (planned : ∀ submission ∈ submissions, ∃ id, submission.IsPlanned id) (ids : List String)
    (around : Surroundings) :
    ∃ result front, store.Frees front ∧
      store.submit ids around submissions =
        ⟨result, ids ++ front.map Trigger.id, store.keepAll front, around⟩ ∧
      (result = .ok () → front = submissions.map Submission.trigger) ∧
      (result = .ok () ↔ (submissions = [] ∨ store.space.isSome) ∧
        store.Frees (submissions.map Submission.trigger)) := by
  induction submissions generalizing store ids with
  | nil =>
      refine ⟨.ok (), [], frees_nil, ?_, fun _ => rfl, by simp [frees_nil]⟩
      rw [submit, List.map_nil, List.append_nil]
      rfl
  | cons submission rest ih =>
      obtain ⟨id, first⟩ := planned submission List.mem_cons_self
      obtain rfl := first.trigger_id
      have step := submit_cons mode first ids around rest
      have stopped : ∀ cause, store.submit ids around (submission :: rest) =
          { result := .error cause, ids, store, around } →
          store.submit ids around (submission :: rest) =
            ⟨.error cause, ids ++ ([] : List Trigger).map Trigger.id, store.keepAll [], around⟩ := by
        intro cause stops
        rw [stops, List.map_nil, List.append_nil]
        rfl
      cases space : store.space with
      | none =>
          rw [space] at step
          exact ⟨_, [], frees_nil, stopped _ step, by simp, by simp⟩
      | some name =>
          rw [space] at step
          cases taken : Dict.get? store.cache submission.trigger.id with
          | some present =>
              rw [taken] at step
              exact ⟨_, [], frees_nil, stopped _ step, by simp, by simp [frees_cons_iff, taken]⟩
          | none =>
              rw [taken] at step
              have caching : (store.keep submission.trigger.id submission.trigger).mode = .cached :=
                mode
              have active : (store.keep submission.trigger.id submission.trigger).space.isSome :=
                Option.isSome_of_eq_some space
              obtain ⟨result, front, frees, submitted, whole, iff⟩ := ih caching
                (fun other member => planned other (List.mem_cons_of_mem _ member))
                (ids ++ [submission.trigger.id])
              refine ⟨result, submission.trigger :: front, frees_cons_iff.mpr ⟨taken, frees⟩,
                step.trans (submitted.trans ?_), fun kept => ?_, ?_⟩
              · rw [List.append_assoc]
                rfl
              · rw [whole kept, List.map_cons]
              · rw [iff, List.map_cons, frees_cons_iff]
                simp [active, taken]

/-! ## Compilations into a coherent store -/

/-- Without a plan nothing is compiled. -/
theorem compilation_unplanned {cause : Failure}
    (refused : compiler.plan workflow initial = .error cause) :
    store.compilation compiler workflow initial around =
      { result := .error cause, compiler, store, around } := by
  rw [compilation, Compiler.attempt_of_error refused]

/-- A plan without an error is kept as a whole, or the store is given back as it was. It is
kept if a namespace is active, its ids are distinct, and none of them is taken. -/
theorem Coherent.compilation_planned (coherent : store.Coherent)
    (planned : compiler.plan workflow initial = .ok (plan, planner)) (around : Surroundings) :
    (∃ cause, store.compilation compiler workflow initial around =
        { result := .error cause, compiler, store, around } ∧
      ¬(store.space.isSome ∧ store.Frees (plan.triggers.map Submission.trigger))) ∨
    store.compilation compiler workflow initial around =
        { result := .ok plan.completion, compiler := planner,
          store := store.keepAll (plan.triggers.map Submission.trigger), around } ∧
      store.space.isSome ∧ store.Frees (plan.triggers.map Submission.trigger) := by
  obtain ⟨shape, completions, triggers, ordered, -⟩ := Compiler.plan_emits planned
  have nonempty : plan.triggers ≠ [] := by simp [triggers]
  obtain ⟨result, front, frees, submitted, whole, iff⟩ :=
    submit_planned coherent.mode ordered.isPlanned [] around
  rw [List.nil_append] at submitted
  rw [compilation, Compiler.attempt_eq_ok_iff.mpr planned]
  dsimp only
  rw [submitted]
  cases result with
  | error cause =>
      have caching : (store.keepAll front).mode = .cached := (coherent.keepAll frees).1.mode
      refine .inl ⟨cause, ?_, fun admitted => nomatch iff.mpr ⟨.inr admitted.1, admitted.2⟩⟩
      simp only [caching, withdraw_keepAll coherent frees]
  | ok =>
      obtain ⟨active, free⟩ := iff.mp rfl
      obtain rfl := whole rfl
      exact .inr ⟨rfl, active.resolve_left nonempty, free⟩

/-- Going on with a compilation takes its success. -/
theorem perform_compile_eq_ok_iff {behind : Surroundings} :
    (store.compile compiler workflow initial).perform around = (.ok (id, planner, after), behind) ↔
      store.compilation compiler workflow initial around =
        { result := .ok id, compiler := planner, store := after, around := behind } := by
  have performed : (store.compile compiler workflow initial).perform around =
      (let made := store.compilation compiler workflow initial around
      (made.result.map fun id => (id, made.compiler, made.store), made.around)) := rfl
  rw [performed]
  obtain ⟨result, moved, left, rest⟩ := store.compilation compiler workflow initial around
  cases result with
  | error cause => simp [Except.map]
  | ok other => simp [Except.map, and_assoc]

/-- A compilation keeps a store coherent. -/
theorem Coherent.compilation (coherent : store.Coherent) (compiler : Compiler) (workflow : Level)
    (initial : String) (around : Surroundings) :
    (store.compilation compiler workflow initial around).store.Coherent := by
  cases planned : compiler.plan workflow initial with
  | error cause =>
      rw [compilation_unplanned planned]
      exact coherent
  | ok planning =>
      obtain ⟨plan, planner⟩ := planning
      rcases coherent.compilation_planned planned around with ⟨cause, made, -⟩ | ⟨made, -, frees⟩
      · rw [made]
        exact coherent
      · rw [made]
        exact (coherent.keepAll frees).1

/-! ## Stores that can be reached -/

/-- The caching stores that can be reached by the operations of a store from a new one.
Ids that the store makes up itself are not taken; all others may be. -/
inductive Reachable : TriggerStore → Prop where
  | opened (transport : Transport) (credentials : Credentials) :
      Reachable { transport, credentials, mode := .cached }
  | target {store : TriggerStore} (space : String) (before : Reachable store) :
      Reachable (store.target space)
  | createNamespace {store after : TriggerStore} {around behind : Surroundings} {name : String}
      {globalContext : Option Json} {source : Option EventSource} {answer : Json}
      (before : Reachable store)
      (created : (store.createNamespace name globalContext source).perform around =
        (.ok (answer, after), behind)) : Reachable after
  | deleteNamespace {store after : TriggerStore} {around behind : Surroundings}
      {name : Option String} {answer : Json} (before : Reachable store)
      (deleted : (store.deleteNamespace name).perform around = (.ok (answer, after), behind)) :
      Reachable after
  | add {store after : TriggerStore} {around behind : Surroundings} {fresh id : String}
      {submission : Submission} (before : Reachable store)
      (new : submission.id = none → Dict.get? store.cache fresh = none)
      (added : (store.add fresh submission).perform around = (.ok (id, after), behind)) :
      Reachable after
  | deleteTrigger {store after : TriggerStore} {id : String} {trigger : Trigger}
      (before : Reachable store) (deleted : store.deleteTrigger id = .ok (trigger, after)) :
      Reachable after
  | amendTrigger {store after : TriggerStore} {id : String} {trigger : Trigger}
      (before : Reachable store) (amended : store.amendTrigger id trigger = .ok after) :
      Reachable after
  | flush {store : TriggerStore} (before : Reachable store) : Reachable store.flush
  | compilation {store : TriggerStore} (compiler : Compiler) (workflow : Level)
      (initial : String) (around : Surroundings) (before : Reachable store) :
      Reachable (store.compilation compiler workflow initial around).store

/-- Every store that can be reached is coherent. -/
theorem Reachable.coherent (reachable : Reachable store) : store.Coherent := by
  induction reachable with
  | opened transport credentials => exact .empty rfl rfl rfl
  | target space _ ih => exact ih.inSpace _
  | createNamespace _ created ih =>
      obtain rfl := perform_createNamespace created
      exact ih.inSpace _
  | deleteNamespace _ deleted ih =>
      obtain ⟨space, rfl⟩ := perform_deleteNamespace deleted
      exact ih.inSpace _
  | add _ new added ih =>
      obtain ⟨absent, rfl⟩ := perform_add_cached ih.mode new added
      exact ih.keep absent
  | deleteTrigger _ deleted ih =>
      rw [deleteTrigger_eq ih] at deleted
      split at deleted
      · cases deleted
        exact ih.drop _
      · cases deleted
  | amendTrigger _ amended ih =>
      obtain ⟨⟨present, found⟩, rfl⟩ := amendTrigger_eq_ok amended
      exact ih.amend found
  | flush _ ih => exact .empty ih.mode rfl rfl
  | compilation compiler workflow initial around _ ih =>
      exact ih.compilation compiler workflow initial around

/-! ## All or nothing -/

/-- The ids of planned triggers are free exactly if they are distinct and none is taken. -/
theorem frees_planned_iff (store : TriggerStore)
    (planned : ∀ submission ∈ submissions, ∃ id, submission.IsPlanned id) :
    store.Frees (submissions.map Submission.trigger) ↔ (submissions.map Submission.id).Nodup ∧
      ∀ submission ∈ submissions, ∀ id, submission.id = some id →
        Dict.get? store.cache id = none := by
  have named : ∀ submission ∈ submissions, submission.id = some submission.trigger.id := by
    intro submission member
    obtain ⟨id, shape⟩ := planned submission member
    rw [shape.named, shape.trigger_id]
  have ids : submissions.map Submission.id =
      ((submissions.map Submission.trigger).map Trigger.id).map some := by
    rw [List.map_map, List.map_map]
    exact List.map_congr_left named
  have distinct : (submissions.map Submission.id).Nodup ↔
      ((submissions.map Submission.trigger).map Trigger.id).Nodup := by
    rw [ids, List.nodup_map_iff fun _ _ => Option.some.inj]
  unfold Frees
  rw [distinct, List.forall_mem_map]
  refine and_congr_right' (forall₂_congr fun submission member => ?_)
  rw [named submission member]
  exact ⟨fun free id same => Option.some.inj same ▸ free, fun free => free _ rfl⟩

/-- A compilation into a caching store that can be reached is all or nothing. It succeeds
exactly if the workflow has a plan, a namespace is active, the ids of the planned triggers
are distinct, and none of them is taken. Then the planned triggers come behind those that
were there, in the order of the plan and each with all that was planned, and the compiler has
moved on as the plan says. Otherwise the store, the compiler and the surroundings are what
they were. -/
theorem compilation_all_or_nothing (reachable : store.Reachable) (compiler : Compiler)
    (workflow : Level) (initial : String) (around : Surroundings) :
    let made := store.compilation compiler workflow initial around
    ((∃ id, made.result = .ok id) ↔
      ∃ plan planner, compiler.plan workflow initial = .ok (plan, planner) ∧
        store.space.isSome ∧ (plan.triggers.map Submission.id).Nodup ∧
        ∀ submission ∈ plan.triggers, ∀ id, submission.id = some id →
          Dict.get? store.cache id = none) ∧
    (∀ id, made.result = .ok id →
      ∃ plan planner cached, compiler.plan workflow initial = .ok (plan, planner) ∧
        id = plan.completion ∧ made.compiler = planner ∧ store.list = .ok cached ∧
        made.store.list = .ok (cached ++ plan.triggers.map Submission.trigger) ∧
        ∀ submission ∈ plan.triggers, submission.StoredAs submission.context submission.trigger) ∧
    ∀ cause, made.result = .error cause →
      made.store = store ∧ made.compiler = compiler ∧ made.around = around := by
  intro made
  have coherent := reachable.coherent
  cases planned : compiler.plan workflow initial with
  | error cause =>
      rw [show made = _ from compilation_unplanned planned]
      exact ⟨by simp, by simp, fun _ _ => ⟨rfl, rfl, rfl⟩⟩
  | ok planning =>
      obtain ⟨plan, planner⟩ := planning
      obtain ⟨_, _, _, ordered, -⟩ := Compiler.plan_emits planned
      have free := frees_planned_iff store ordered.isPlanned
      rcases coherent.compilation_planned planned around with
        ⟨cause, equal, refused⟩ | ⟨equal, active, frees⟩
      · rw [show made = _ from equal]
        refine ⟨⟨by simp, ?_⟩, by simp, fun _ _ => ⟨rfl, rfl, rfl⟩⟩
        rintro ⟨_, _, same, active, unique⟩
        cases same
        exact absurd ⟨active, free.mpr unique⟩ refused
      · rw [show made = _ from equal]
        refine ⟨⟨fun _ => ⟨plan, planner, rfl, active, free.mp frees⟩, fun _ => ⟨_, rfl⟩⟩, ?_, by simp⟩
        intro id succeeded
        cases succeeded
        obtain ⟨kept, held⟩ := coherent.keepAll frees
        refine ⟨plan, planner, store.held, rfl, rfl, rfl, coherent.list_eq, held ▸ kept.list_eq,
          fun submission member => ?_⟩
        obtain ⟨_, shape⟩ := ordered.isPlanned submission member
        exact shape.storedAs

/-- A caching store that is empty, with an active namespace. -/
def vacant : TriggerStore :=
  ({ transport := .direct, credentials := ⟨"user", "secret"⟩, mode := .cached } :
    TriggerStore).target "demo"

/-- A caching store in which the name of a state of the sample is taken. -/
def occupied : TriggerStore :=
  vacant.keep "Go" ((Submission.waitingFor []).persistent "Go").trigger

/-- The sample goes into a store that is empty. It does not go into one in which the id of
its third trigger is taken, and the two triggers before it are not left there. -/
theorem sample_all_or_nothing : vacant.Reachable ∧ occupied.Reachable ∧
    (∃ plan planner, ({} : Compiler).plan Level.sample "$init" = .ok (plan, planner) ∧
      (vacant.compilation {} Level.sample "$init" {}).store.list =
        .ok (plan.triggers.map Submission.trigger)) ∧
    (∃ cause, (occupied.compilation {} Level.sample "$init" {}).result = .error cause) ∧
    (occupied.compilation {} Level.sample "$init" {}).store = occupied := by
  have free : vacant.Reachable := .target "demo" (.opened .direct ⟨"user", "secret"⟩)
  have added : (vacant.add "" ((Submission.waitingFor []).persistent "Go")).perform {} =
      (.ok ("Go", occupied), {}) := rfl
  have conflicting : occupied.Reachable := .add free (by intro absent; cases absent) added
  have succeeds : (vacant.compilation {} Level.sample "$init" {}).result.isOk = true := by
    decide +kernel
  have fails : (occupied.compilation {} Level.sample "$init" {}).result.isOk = false := by
    decide +kernel
  obtain ⟨-, whole, -⟩ := compilation_all_or_nothing free {} Level.sample "$init" {}
  obtain ⟨-, -, nothing⟩ := compilation_all_or_nothing conflicting {} Level.sample "$init" {}
  refine ⟨free, conflicting, ?_⟩
  cases first : (vacant.compilation {} Level.sample "$init" {}).result with
  | error cause =>
      rw [first] at succeeds
      cases succeeds
  | ok id =>
      obtain ⟨plan, planner, cached, planned, -, -, empty, listed, -⟩ := whole id first
      cases empty
      cases second : (occupied.compilation {} Level.sample "$init" {}).result with
      | error cause => exact ⟨⟨plan, planner, planned, listed⟩, ⟨cause, rfl⟩, (nothing cause second).1⟩
      | ok other =>
          rw [second] at fails
          cases fails

end TriggerStore

end EventFlow
