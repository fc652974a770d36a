import EventFlow.Proofs.Api.Batches
import EventFlow.Proofs.Api.Compilations

/-!
# Committed workflows

A workflow that is compiled into an empty caching store and committed into a namespace
without triggers leaves exactly the triggers of its plan in the documents, in the form in
which they were planned.
-/

namespace EventFlow

/-! ## Stored batches -/

namespace Call

variable {documents after : Documents} {space : String} {triggers : List Trigger}

/-- A batch may be put into order before or after it is filed. -/
theorem map_ordered_filed (stored : Dict Trigger) (triggers : List Trigger) :
    (filed stored triggers).map (fun entry => (entry.1, entry.2.ordered)) =
      filed (stored.map fun entry => (entry.1, entry.2.ordered)) (triggers.map Trigger.ordered) := by
  unfold filed
  induction triggers generalizing stored with
  | nil => rfl
  | cons first rest ih =>
    rw [List.foldl_cons, ih, Dict.map_insert, List.map_cons, List.foldl_cons]
    rfl

/-- After a batch was stored, the triggers are loaded with it, and so is their index. -/
theorem loads_of_store (succeeded : store documents space triggers = .ok after) :
    ∃ stored index, documents.loadTriggers space = .ok stored ∧
      documents.loadIndex space = .ok index ∧
      firstTaken? (Dict.keys stored) triggers = none ∧
      after.loadTriggers space = .ok (filed stored (triggers.map Trigger.ordered)) ∧
      after.loadIndex space = .ok (triggers.foldl SourceEvents.add index) := by
  obtain ⟨-, stored, index, loaded, known, free, rfl⟩ := store_eq_ok_iff.mp succeeded
  refine ⟨stored, index, loaded, known, free, ?_, ?_⟩
  · have ascending := ascending_filed (Documents.ascending_of_load? loaded) triggers
    rw [Documents.loadTriggers_of_ascending ascending Documents.get?_triggers_rewritten,
      map_ordered_filed, Documents.map_ordered (Documents.ordered_of_loadTriggers loaded)]
  · exact Documents.loadIndex_of_ascending
      (ascending_addAll (Documents.ascending_of_load? known) triggers)
      Documents.get?_sourceEvents_rewritten

/-- A batch that is stored where there are no triggers is held. -/
theorem holds_of_store (vacant : documents.loadTriggers space = .ok [])
    (ordered : ∀ trigger ∈ triggers, (Json.object trigger.context).Ordered)
    (stored : store documents space triggers = .ok after) : after.Holds space triggers := by
  obtain ⟨_, index, loaded, -, free, held, listed⟩ := loads_of_store stored
  cases vacant.symm.trans loaded
  have kept : triggers.map Trigger.ordered = triggers :=
    (List.map_congr_left fun trigger member =>
      Trigger.ordered_of_ordered (ordered trigger member)).trans (List.map_id _)
  rw [kept] at held
  refine ⟨⟨filed [] triggers, held, fun id trigger => ?_⟩, _, listed⟩
  rw [get?_filed_iff free, or_iff_right nofun]

/-- Storing a batch leaves the other documents alone. -/
theorem get?_of_store (stored : store documents space triggers = .ok after) {name : String}
    (first : Documents.triggers ≠ name) (second : Documents.sourceEvents ≠ name) :
    after.get? space name = documents.get? space name := by
  obtain ⟨-, _, _, -, -, -, rfl⟩ := store_eq_ok_iff.mp stored
  exact Documents.get?_rewritten_of_ne first second

end Call

/-! ## Direct calls and commits -/

/-- A direct call succeeds if it can be applied to the documents. -/
theorem Transport.perform_direct_eq_ok_iff {call : Call} {around behind : Surroundings}
    {answer : Json} :
    (direct.perform call).perform around = (.ok answer, behind) ↔
      ∃ documents, call.apply around.documents = .ok (answer, documents) ∧
        behind = { around with documents } := by
  rw [perform_direct]
  cases call.apply around.documents with
  | error cause => exact iff_of_false nofun (fun ⟨_, applied, _⟩ => nomatch applied)
  | ok both => simp [Prod.ext_iff, eq_comm]

/-- A batch is stored over the documents at hand if it can be stored in them. -/
theorem Transport.perform_storeTriggers_eq_ok_iff {space : String} {triggers : List Trigger}
    {around behind : Surroundings} :
    (∃ answer, (direct.perform (.storeTriggers space triggers)).perform around =
        (.ok answer, behind)) ↔
      ∃ documents, Call.store around.documents space triggers = .ok documents ∧
        behind = { around with documents } := by
  simp only [perform_direct_eq_ok_iff, Call.apply, Failing.bind_eq_ok]
  constructor
  · rintro ⟨_, documents, ⟨_, stored, equal⟩, rfl⟩
    cases equal
    exact ⟨documents, stored, rfl⟩
  · rintro ⟨documents, stored, rfl⟩
    exact ⟨_, documents, ⟨documents, stored, rfl⟩, rfl⟩

/-- A store commits what it holds in one batch, unless it holds nothing. -/
theorem TriggerStore.perform_commit_eq_ok_iff {store : TriggerStore} {space : String}
    {around behind : Surroundings} (coherent : store.Coherent) (direct : store.transport = .direct)
    (active : store.space = some space) :
    (∃ answer, store.commit.perform around = (.ok answer, behind)) ↔
      store.cache ≠ [] ∧ ∃ documents, Call.store around.documents space store.held = .ok documents ∧
        behind = { around with documents } := by
  have named : store.activeSpace = .ok space := by
    unfold activeSpace
    rw [active]
  have opened : store.commit.perform around =
      if store.cache.isEmpty then (.error .emptyCache, around)
      else (store.transport.perform (.storeTriggers space store.held)).perform around := by
    unfold commit
    rw [coherent.list_eq, named]
    split <;> rfl
  rw [opened, direct, ← Transport.perform_storeTriggers_eq_ok_iff]
  cases store.cache with
  | nil => simp
  | cons entry rest => simp

/-- A commit that succeeds stores what is held. -/
theorem TriggerStore.stored_of_commit {store : TriggerStore} {space : String} {answer : Json}
    {around behind : Surroundings} (coherent : store.Coherent) (transport : store.transport = .direct)
    (active : store.space = some space)
    (committed : store.commit.perform around = (.ok answer, behind)) :
    Call.store around.documents space store.held = .ok behind.documents := by
  obtain ⟨-, documents, stored, rfl⟩ :=
    (perform_commit_eq_ok_iff coherent transport active).mp ⟨answer, committed⟩
  exact stored

/-! ## Compiled and committed -/

/-- Compiling a workflow into an empty caching store and committing it stores the triggers
of its plan. -/
theorem TriggerStore.stored_of_deploy {store full : TriggerStore} {compiler planner : Compiler}
    {workflow : Level} {initial space id : String} {answer : Json}
    {before middle after : Surroundings} (mode : store.mode = .cached)
    (transport : store.transport = .direct) (cache : store.cache = []) (order : store.order = [])
    (active : store.space = some space)
    (compiled : (store.compile compiler workflow initial).perform before =
      (.ok (id, planner, full), middle))
    (committed : full.commit.perform middle = (.ok answer, after)) :
    ∃ plan, compiler.plan workflow initial = .ok (plan, planner) ∧
      ((plan.triggers.map Submission.trigger).map Trigger.id).Nodup ∧
      full.held = plan.triggers.map Submission.trigger ∧
      Call.store before.documents space full.held = .ok after.documents := by
  have coherent : store.Coherent := .empty mode cache order
  have empty : store.held = [] := by simp [TriggerStore.held, order]
  replace compiled := TriggerStore.perform_compile_eq_ok_iff.mp compiled
  cases planned : compiler.plan workflow initial with
  | error cause =>
      rw [TriggerStore.compilation_unplanned planned] at compiled
      cases compiled
  | ok both =>
      obtain ⟨plan, moved⟩ := both
      rcases coherent.compilation_planned planned before with ⟨cause, made, _⟩ | ⟨made, _, frees⟩
      · rw [made] at compiled
        cases compiled
      · rw [made] at compiled
        cases compiled
        obtain ⟨kept, held⟩ := coherent.keepAll frees
        rw [empty, List.nil_append] at held
        have same := store.keepAll_eq (plan.triggers.map Submission.trigger)
        have stored := TriggerStore.stored_of_commit kept
          ((congrArg TriggerStore.transport same).trans transport)
          ((congrArg TriggerStore.space same).trans active) committed
        exact ⟨plan, rfl, frees.1, held, stored⟩

/-- Documents that come of compiling a workflow into an empty caching store and committing
it into a namespace without triggers. No planned trigger is named as the event that starts
the workflow. -/
inductive Deployed (compiler : Compiler) (workflow : Level) (initial space : String) :
    Documents → Prop where
  | intro {store full : TriggerStore} {planner : Compiler} {id : String} {answer : Json}
      {before middle after : Surroundings} (mode : store.mode = .cached)
      (transport : store.transport = .direct) (cache : store.cache = []) (order : store.order = [])
      (active : store.space = some space) (vacant : before.documents.loadTriggers space = .ok [])
      (compiled : (store.compile compiler workflow initial).perform before =
        (.ok (id, planner, full), middle))
      (fresh : initial ∉ full.held.map Trigger.id)
      (committed : full.commit.perform middle = (.ok answer, after)) :
      Deployed compiler workflow initial space after.documents

variable {compiler : Compiler} {workflow : Level} {initial space : String} {documents : Documents}

/-- A deployed workflow has a plan, whose triggers have distinct ids of their own and are
held as they were planned if their contexts are in order. -/
theorem Deployed.planned (deployed : Deployed compiler workflow initial space documents) :
    ∃ plan planner, compiler.plan workflow initial = .ok (plan, planner) ∧
      ((plan.triggers.map Submission.trigger).map Trigger.id).Nodup ∧
      initial ∉ (plan.triggers.map Submission.trigger).map Trigger.id ∧
      ((∀ trigger ∈ plan.triggers.map Submission.trigger,
          (Json.object trigger.context).Ordered) →
        documents.Holds space (plan.triggers.map Submission.trigger)) := by
  obtain ⟨mode, transport, cache, order, active, vacant, compiled, fresh, committed⟩ := deployed
  obtain ⟨plan, planned, distinct, held, stored⟩ :=
    TriggerStore.stored_of_deploy mode transport cache order active compiled committed
  rw [held] at fresh stored
  exact ⟨plan, _, planned, distinct, fresh, fun ordered =>
    Call.holds_of_store vacant ordered stored⟩

end EventFlow
