import EventFlow.Proofs.Engine.Index
import EventFlow.Proofs.Trigger.Stored

/-!
# Refreshing the working copy

What loading the stored triggers does to a worker: known triggers stay, new ones
are neither retired nor known, and an index that was loaded lists every trigger of
the working copy.
-/

namespace EventFlow.Worker

variable {worker : Worker}

/-- An index lists the triggers of a working copy under all their subjects. -/
def Lists (triggers : Dict Trigger) (index : SourceEvents) : Prop :=
  ∀ id trigger, Dict.get? triggers id = some trigger → ∀ subject ∈ trigger.subjects,
    id ∈ SourceEvents.waiting index subject

/-- The worker after an attempt to load the stored triggers. -/
structure Refreshed (worker after : Worker) (stored : Dict Trigger) : Prop where
  space : after.space = worker.space
  registry : after.registry = worker.registry
  received : after.received = worker.received
  activations : after.activations = worker.activations
  retired : after.retired = worker.retired
  known : ∀ id trigger, Dict.get? worker.triggers id = some trigger →
    Dict.get? after.triggers id = some trigger
  new : ∀ id trigger, Dict.get? after.triggers id = some trigger →
    Dict.get? worker.triggers id = some trigger ∨
      (Dict.get? worker.triggers id = none ∧ id ∉ worker.retired ∧ (id, trigger) ∈ stored)
  index : after.sourceEvents = worker.sourceEvents ∨
    ∃ index, after.sourceEvents = rebuildIndex after.triggers index

/-- What is unknown after a refresh was unknown before. -/
theorem Refreshed.absent {after : Worker} {stored : Dict Trigger}
    (refreshed : Refreshed worker after stored) {id : String}
    (absent : Dict.get? after.triggers id = none) : Dict.get? worker.triggers id = none := by
  cases known : Dict.get? worker.triggers id with
  | none => rfl
  | some trigger =>
    rw [refreshed.known id trigger known] at absent
    cases absent

/-- Taking up stored triggers one after the other keeps the known ones and adds
those that are neither retired nor known. -/
theorem takeUp_all (worker : Worker) (stored : Dict Trigger) (triggers : Dict Trigger) :
    (∀ id trigger, Dict.get? triggers id = some trigger →
        Dict.get? (stored.foldl worker.takeUp triggers) id = some trigger) ∧
      ∀ id trigger, Dict.get? (stored.foldl worker.takeUp triggers) id = some trigger →
        Dict.get? triggers id = some trigger ∨
          (Dict.get? triggers id = none ∧ id ∉ worker.retired ∧ (id, trigger) ∈ stored) := by
  induction stored generalizing triggers with
  | nil => exact ⟨fun _ _ found => found, fun _ _ found => .inl found⟩
  | cons entry rest ih =>
    obtain ⟨key, value⟩ := entry
    obtain ⟨restKeeps, restNew⟩ := ih (worker.takeUp triggers (key, value))
    rw [List.foldl_cons]
    by_cases passed : (worker.retired.contains key || Dict.contains triggers key) = true
    · have same : worker.takeUp triggers (key, value) = triggers := if_pos passed
      rw [same] at restKeeps restNew ⊢
      refine ⟨restKeeps, fun id trigger found => ?_⟩
      exact (restNew id trigger found).imp_right fun new =>
        ⟨new.1, new.2.1, List.mem_cons_of_mem _ new.2.2⟩
    · have taken : worker.takeUp triggers (key, value) = Dict.insert triggers key value :=
        if_neg passed
      have fresh : key ∉ worker.retired ∧ Dict.get? triggers key = none := by
        simpa [Dict.contains] using passed
      rw [taken] at restKeeps restNew ⊢
      constructor
      · intro id trigger found
        refine restKeeps id trigger ?_
        rw [Dict.get?_insert_of_ne _ _ ?_]
        · exact found
        · rintro rfl
          rw [fresh.2] at found
          cases found
      · intro id trigger found
        rcases restNew id trigger found with inserted | ⟨absent, live, later⟩
        · rw [Dict.get?_insert] at inserted
          split at inserted
          · rename_i same
            cases inserted
            subst same
            exact .inr ⟨fresh.2, fresh.1, List.mem_cons_self⟩
          · exact .inl inserted
        · rw [Dict.get?_insert] at absent
          split at absent
          · cases absent
          · exact .inr ⟨absent, live, List.mem_cons_of_mem _ later⟩

/-- Taking up keeps a working copy in order. -/
theorem ascending_takeUp_all {triggers : Dict Trigger} (ascending : Dict.Ascending triggers)
    (stored : Dict Trigger) : Dict.Ascending (stored.foldl worker.takeUp triggers) := by
  induction stored generalizing triggers with
  | nil => exact ascending
  | cons entry rest ih =>
    refine ih ?_
    unfold takeUp
    split
    · exact ascending
    · exact ascending.insert _ _

/-- A refresh leaves the namespace, the handlers and the counts of a worker. -/
theorem refresh_same (worker : Worker) (documents : Documents) :
    (worker.refresh documents).2.space = worker.space ∧
      (worker.refresh documents).2.registry = worker.registry ∧
      (worker.refresh documents).2.tally = worker.tally := by
  unfold refresh
  split
  · exact ⟨rfl, rfl, rfl⟩
  · dsimp only
    split
    · exact ⟨rfl, rfl, rfl⟩
    · split <;> exact ⟨rfl, rfl, rfl⟩

/-- What is in the working copy after a refresh was there before or is stored. -/
theorem known_or_stored_of_refresh {documents : Documents} {id : String} {trigger : Trigger}
    (found : Dict.get? (worker.refresh documents).2.triggers id = some trigger) :
    Dict.get? worker.triggers id = some trigger ∨
      ∃ stored, documents.loadTriggers worker.space = .ok stored ∧ (id, trigger) ∈ stored := by
  unfold refresh at found
  split at found
  · exact .inl found
  · rename_i stored loaded
    have taken : Dict.get? (stored.foldl worker.takeUp worker.triggers) id = some trigger →
        Dict.get? worker.triggers id = some trigger ∨ (id, trigger) ∈ stored := fun held =>
      ((takeUp_all worker stored worker.triggers).2 id trigger held).imp_right fun new => new.2.2
    dsimp only at found
    split at found
    · exact .inl found
    · split at found <;> exact (taken found).imp_right fun member => ⟨stored, loaded, member⟩

/-- A rebuilt index lists the triggers of the working copy. -/
theorem lists_rebuildIndex {triggers : Dict Trigger} (stored : SourceEvents)
    (own : ∀ id trigger, Dict.get? triggers id = some trigger → trigger.id = id) :
    Lists triggers (rebuildIndex triggers stored) := by
  intro id trigger found subject waits
  have member : trigger ∈ triggers.map Prod.snd :=
    List.mem_map.mpr ⟨(id, trigger), Dict.mem_of_get? found, rfl⟩
  have listed := SourceEvents.mem_waiting_rebuildIndex stored member waits
  rwa [own id trigger found] at listed

/-- A worker that takes nothing up is as before, whatever it counts. -/
theorem Refreshed.refl (worker : Worker) (tally : Tally) (stored : Dict Trigger) :
    Refreshed worker { worker with tally } stored :=
  ⟨rfl, rfl, rfl, rfl, rfl, fun _ _ found => found, fun _ _ found => .inl found, .inl rfl⟩

/-- A refresh takes up stored triggers, and their contexts are in order. -/
theorem exists_refreshed (worker : Worker) (documents : Documents) :
    ∃ stored : Dict Trigger,
      (∀ entry ∈ stored, Dict.Ascending entry.2.context) ∧
        (documents.OwnKeyed worker.space → ∀ entry ∈ stored, entry.2.id = entry.1) ∧
        Refreshed worker (worker.refresh documents).2 stored := by
  unfold refresh
  cases loaded : documents.loadTriggers worker.space with
  | error cause =>
    exact ⟨[], fun _ member => absurd member List.not_mem_nil,
      fun _ _ member => absurd member List.not_mem_nil, .refl worker worker.tally []⟩
  | ok stored =>
    obtain ⟨known, new⟩ := takeUp_all worker stored worker.triggers
    refine ⟨stored, fun entry member => (Documents.ordered_of_loadTriggers loaded entry member).1,
      fun keyed entry member => keyed stored loaded entry member, ?_⟩
    dsimp only
    split
    · exact .refl worker worker.tally stored
    · split
      · exact ⟨rfl, rfl, rfl, rfl, rfl, known, new, .inl rfl⟩
      · exact ⟨rfl, rfl, rfl, rfl, rfl, known, new, .inr ⟨_, rfl⟩⟩

/-- A refresh takes up triggers with ids of their own and contexts in order, if they
are stored under their ids. -/
theorem refresh_refreshed (worker : Worker) {documents : Documents}
    (keyed : documents.OwnKeyed worker.space) :
    ∃ stored : Dict Trigger,
      (∀ entry ∈ stored, entry.2.id = entry.1 ∧ Dict.Ascending entry.2.context) ∧
        Refreshed worker (worker.refresh documents).2 stored := by
  obtain ⟨stored, ordered, own, refreshed⟩ := worker.exists_refreshed documents
  exact ⟨stored, fun entry member => ⟨own keyed entry member, ordered entry member⟩, refreshed⟩

/-- A first refresh that succeeds leaves an index that lists all triggers. -/
theorem lists_refresh (worker : Worker) {documents : Documents}
    (keyed : documents.OwnKeyed worker.space)
    (first : worker.triggers = []) (succeeds : (worker.refresh documents).1 = .ok ()) :
    Lists (worker.refresh documents).2.triggers (worker.refresh documents).2.sourceEvents := by
  unfold refresh at succeeds ⊢
  cases loaded : documents.loadTriggers worker.space with
  | error cause =>
    rw [loaded] at succeeds
    cases succeeds
  | ok stored =>
    rw [loaded] at succeeds
    dsimp only at succeeds ⊢
    split at succeeds
    · rename_i nothing
      rw [if_pos nothing]
      intro id trigger found
      rw [first] at found
      cases found
    · rename_i something
      rw [if_neg something]
      split at succeeds
      · cases succeeds
      · refine lists_rebuildIndex _ fun id trigger found => ?_
        rcases (takeUp_all worker stored worker.triggers).2 id trigger found with earlier | new
        · rw [first] at earlier
          cases earlier
        · exact keyed stored loaded _ new.2.2

/-- A bootstrap that succeeds is a first refresh that succeeds, with the global
context and the event source in place. -/
theorem bootstrap_eq_ok {documents : Documents} {source : EventSource}
    (succeeds : (worker.bootstrap documents).1 = .ok source) :
    ∃ globalContext, loadGlobalContext documents worker.space = .ok globalContext ∧
      loadSource documents worker.space = .ok source ∧
      (({ worker with globalContext, eventSource := some source } : Worker).refresh documents).1 =
        .ok () ∧
      (worker.bootstrap documents).2 =
        (({ worker with globalContext, eventSource := some source } : Worker).refresh
          documents).2 := by
  unfold bootstrap at succeeds ⊢
  cases global : loadGlobalContext documents worker.space with
  | error cause =>
    rw [global] at succeeds
    cases succeeds
  | ok globalContext =>
    rw [global] at succeeds
    refine ⟨globalContext, rfl, ?_⟩
    dsimp only at succeeds ⊢
    cases named : loadSource documents worker.space with
    | error cause =>
      rw [named] at succeeds
      cases succeeds
    | ok found =>
      rw [named] at succeeds
      dsimp only at succeeds ⊢
      cases refreshed : (({ worker with globalContext, eventSource := some found } : Worker).refresh
          documents).1 with
      | error cause =>
        rw [refreshed] at succeeds
        cases succeeds
      | ok done =>
        rw [refreshed] at succeeds
        cases succeeds
        exact ⟨rfl, refreshed, rfl⟩

end EventFlow.Worker
