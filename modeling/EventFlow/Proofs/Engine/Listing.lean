import EventFlow.Proofs.Engine.Joins

/-!
# Staying listed

An event reaches a trigger only through the index of the worker. A refresh keeps every
trigger listed that it found listed, and it lists what it takes up as soon as it has
read the stored index. The one way to leave a trigger unlisted is to take it up and
then fail to read that index: the working copy has grown by then, and a later refresh
that finds nothing new changes nothing.
-/

namespace EventFlow

namespace Worker

variable {worker : Worker} {documents : Documents}

/-- The index lists a trigger under every subject that it waits for. -/
def ListsTrigger (worker : Worker) (trigger : Trigger) : Prop :=
  ∀ key ∈ trigger.dependencies, trigger.id ∈ SourceEvents.waiting worker.sourceEvents key.subject

/-- The index lists every trigger of the working copy. -/
def Indexed (worker : Worker) : Prop :=
  ∀ id trigger, Dict.get? worker.triggers id = some trigger → worker.ListsTrigger trigger

/-- A rebuilt index lists every trigger of the working copy, whatever was stored. -/
theorem indexed_rebuildIndex (worker : Worker) (triggers : Dict Trigger) (stored : SourceEvents) :
    ({ worker with triggers, sourceEvents := rebuildIndex triggers stored } : Worker).Indexed := by
  intro id trigger found key member
  exact SourceEvents.mem_waiting_rebuildIndex stored
    (List.mem_map.mpr ⟨(id, trigger), Dict.mem_of_get? found, rfl⟩)
    (Trigger.mem_subjects_iff.mpr ⟨key, member, rfl⟩)

/-- A refresh changes nothing, or it takes up triggers beside the known ones. Having
taken them up it fails to read the stored index, or it reads the index and rebuilds
its own. -/
theorem refresh_cases (worker : Worker) (documents : Documents) :
    (worker.refresh documents).2 = worker ∨
      ∃ triggers, triggers ≠ worker.triggers ∧
        (∀ id trigger, Dict.get? worker.triggers id = some trigger →
          Dict.get? triggers id = some trigger) ∧
        ((∃ cause, documents.loadIndex worker.space = .error cause ∧
            worker.refresh documents = (.error cause, { worker with triggers })) ∨
          ∃ index, documents.loadIndex worker.space = .ok index ∧
            worker.refresh documents =
              (.ok (), { worker with triggers, sourceEvents := rebuildIndex triggers index })) := by
  unfold refresh
  cases documents.loadTriggers worker.space with
  | error cause => exact .inl rfl
  | ok stored =>
    dsimp only
    split
    · exact .inl rfl
    · rename_i grown
      refine .inr ⟨_, fun same => grown (congrArg List.length same),
        (takeUp_all worker stored worker.triggers).1, ?_⟩
      cases read : documents.loadIndex worker.space with
      | error cause => exact .inl ⟨cause, rfl, rfl⟩
      | ok index => exact .inr ⟨index, rfl, rfl⟩

/-- A refresh that takes nothing up changes nothing, so it does not list a trigger
either that the index misses. -/
theorem refresh_eq_self (same : (worker.refresh documents).2.triggers = worker.triggers) :
    (worker.refresh documents).2 = worker := by
  rcases refresh_cases worker documents with unchanged | ⟨triggers, grown, -, failed | rebuilt⟩
  · exact unchanged
  · obtain ⟨cause, -, equal⟩ := failed
    rw [equal] at same
    exact absurd same grown
  · obtain ⟨index, -, equal⟩ := rebuilt
    rw [equal] at same
    exact absurd same grown

/-- A refresh that takes something up and succeeds lists every trigger, also those that
the index had missed before. -/
theorem indexed_of_refresh_ok (grown : (worker.refresh documents).2.triggers ≠ worker.triggers)
    (succeeds : (worker.refresh documents).1 = .ok ()) :
    (worker.refresh documents).2.Indexed := by
  rcases refresh_cases worker documents with unchanged | ⟨triggers, -, -, failed | rebuilt⟩
  · exact absurd (congrArg Worker.triggers unchanged) grown
  · obtain ⟨cause, -, equal⟩ := failed
    rw [equal] at succeeds
    cases succeeds
  · obtain ⟨index, -, equal⟩ := rebuilt
    rw [equal]
    exact indexed_rebuildIndex worker triggers index

/-- An evaluation leaves every other trigger listed, and its own as long as it stays. -/
theorem Evaluated.indexed {id : String} {trigger : Trigger} {after : Worker}
    (change : Evaluated worker id trigger after)
    (own : ∀ id trigger, Dict.get? worker.triggers id = some trigger → trigger.id = id)
    (found : Dict.get? worker.triggers id = some trigger) (indexed : worker.Indexed) :
    after.Indexed := by
  intro other held heldFound key member
  rcases change.get?_cases heldFound with ⟨different, before⟩ | ⟨rfl, context, rfl, _, _, index⟩
  · have listed := indexed other held before key member
    rcases change.outcome with ⟨_, _, _, _, index, _⟩ | ⟨_, index, _⟩
    · exact index ▸ listed
    · rw [index, SourceEvents.mem_waiting_remove, own other held before, own id trigger found]
      exact ⟨own other held before ▸ listed, fun both => different both.1⟩
  · rw [index]
    exact indexed other trigger found key member

/-- After a refresh all triggers are listed, unless it fails to read the stored index: it
has then taken triggers up and changed nothing else, and ends with that failure. -/
theorem indexed_refresh_or (documents : Documents) (indexed : worker.Indexed) :
    (worker.refresh documents).2.Indexed ∨
      ∃ cause, documents.loadIndex worker.space = .error cause ∧
        worker.refresh documents =
          (.error cause, { worker with triggers := (worker.refresh documents).2.triggers }) := by
  rcases refresh_cases worker documents with unchanged | ⟨triggers, -, -, failed | rebuilt⟩
  · rw [unchanged]
    exact .inl indexed
  · obtain ⟨cause, unread, equal⟩ := failed
    rw [equal]
    exact .inr ⟨cause, unread, rfl⟩
  · obtain ⟨index, -, equal⟩ := rebuilt
    rw [equal]
    exact .inl (indexed_rebuildIndex worker triggers index)

end Worker

namespace Moment

/-- A worker with an index that lists the ids of its working copy has listed its
triggers. -/
theorem Counted.indexed {moment : Moment} (counted : moment.Counted)
    (lists : Worker.Lists moment.worker.triggers moment.worker.sourceEvents) :
    moment.worker.Indexed := by
  intro id trigger found key member
  rw [counted.own id trigger found]
  exact lists id trigger found key.subject (Trigger.mem_subjects_iff.mpr ⟨key, member, rfl⟩)

/-- Every step keeps all triggers listed, as long as the stored index can be read. -/
theorem indexed_step {moment next : Moment} (counted : moment.Counted)
    (readable : ∀ cause,
      moment.around.documents.loadIndex moment.worker.space ≠ .error cause)
    (indexed : moment.worker.Indexed) (step : Step moment next) : next.worker.Indexed := by
  cases step with
  | change => exact indexed
  | refresh =>
    exact (Worker.indexed_refresh_or moment.around.documents indexed).resolve_right
      fun ⟨cause, unread, _⟩ => readable cause unread
  | skip => exact indexed
  | receive =>
    simp only [Moment.receive]
    split <;> exact indexed
  | @turn id rest =>
    rcases Worker.fire_cases counted.keeps counted.own counted.ordered id moment.event
      moment.around with ⟨_, fired⟩ | ⟨_, trigger, found, _, change, _⟩
    · have same : (moment.turn id rest).worker =
          { moment.worker with tally := Worker.count moment.worker.tally (.ok false) } := by
        simp only [Moment.turn, fired]
      rw [same]
      exact indexed
    · exact change.indexed counted.own found indexed

/-- In a run over documents whose index can always be read no trigger of the working
copy is ever unlisted. -/
theorem indexed_of_readable {worker : Worker} {around : Surroundings} {source : EventSource}
    {moment : Moment} (new : worker.IsNew)
    (keeps : worker.registry.KeepsKeys worker.space)
    (keyed : around.documents.OwnKeyed worker.space)
    (booted : (worker.bootstrap around.documents).1 = .ok source)
    (reached : Steps (boot worker around) moment)
    (readable : ∀ between, Steps (boot worker around) between → Steps between moment →
      ∀ cause, between.around.documents.loadIndex between.worker.space ≠ .error cause) :
    moment.worker.Indexed := by
  obtain ⟨counted, -, lists⟩ := counted_boot new keeps keyed booted
  induction reached with
  | refl => exact counted.indexed lists
  | tail before step ih =>
    refine indexed_step (counted.steps before) (readable _ before (.single step)) (ih ?_) step
    exact fun between first later => readable between first (later.tail step)

/-- A trigger that is posted while the worker runs. -/
def lateTrigger : Trigger where
  id := "late"
  condition := Vocabulary.holds
  action := Vocabulary.pass
  context := []
  dependencies := [⟨"left", "done"⟩]
  transient := false

/-- The documents of the sample namespace with other triggers, and with any document in
place of the stored index. -/
def documentsWith (triggers : List Trigger) (index : Json) : Documents :=
  (sampleAround.documents.put "demo" Documents.triggers
      (Documents.ofTriggers (triggers.map fun trigger => (trigger.id, trigger)))).put
    "demo" Documents.sourceEvents index

/-- These triggers are stored under their own ids. -/
theorem ownKeyed_documentsWith (triggers : List Trigger) (index : Json) :
    (documentsWith triggers index).OwnKeyed "demo" :=
  (Documents.OwnKeyed.of_get? (Documents.get?_put_self _ _ _ _) (by simp)).put_other index
    (by decide)

/-- The documents once the second trigger was posted, with a stored index that is none. -/
def spoiledDocuments : Documents :=
  documentsWith [sampleTrigger, lateTrigger] (.string "none")

/-- The same documents with an index in place. -/
def mendedDocuments : Documents :=
  documentsWith [sampleTrigger, lateTrigger] (.object [])

/-- The sample worker is a new one. -/
theorem sampleWorker_isNew : sampleWorker.IsNew :=
  ⟨rfl, rfl, rfl, rfl⟩

/-- The sample trigger is stored under its own id. -/
theorem sampleAround_ownKeyed : sampleAround.documents.OwnKeyed sampleWorker.space := by
  have written : sampleAround.documents.get? sampleWorker.space Documents.triggers =
      some (Documents.ofTriggers [("both", sampleTrigger)]) := rfl
  exact Documents.OwnKeyed.of_get? written (by simp [sampleTrigger])

/-- The sample worker starts. -/
theorem sampleWorker_booted : (sampleWorker.bootstrap sampleAround.documents).1 =
    .ok ⟨"log", .memory "events"⟩ :=
  rfl

/-- The sample worker has listed its trigger when it starts. -/
theorem sample_indexed : (boot sampleWorker sampleAround).worker.Indexed := by
  obtain ⟨counted, -, lists⟩ := counted_boot sampleWorker_isNew
    (Registry.keepsJoin_builtin.keepsKeys _) sampleAround_ownKeyed sampleWorker_booted
  exact counted.indexed lists

end Moment

namespace Worker

open Moment

/-- Every trigger of the working copy is still there and still listed after a refresh,
whatever the documents hold and whether or not it succeeds. With those that it takes up
all are listed, unless it fails to read the stored index: it has then taken them up and
changed nothing else, and ends with that failure. -/
theorem refresh_keeps_listed (worker : Worker) (documents : Documents)
    (indexed : worker.Indexed) :
    (∀ id trigger, Dict.get? worker.triggers id = some trigger →
        Dict.get? (worker.refresh documents).2.triggers id = some trigger ∧
          (worker.refresh documents).2.ListsTrigger trigger) ∧
      ((worker.refresh documents).2.Indexed ∨
        ∃ cause, documents.loadIndex worker.space = .error cause ∧
          worker.refresh documents =
            (.error cause, { worker with triggers := (worker.refresh documents).2.triggers })) := by
  refine ⟨fun id trigger found => ?_, indexed_refresh_or documents indexed⟩
  have stays : Dict.get? (worker.refresh documents).2.triggers id = some trigger := by
    rcases refresh_cases worker documents with unchanged | ⟨triggers, -, known, failed | rebuilt⟩
    · rw [unchanged]
      exact found
    · obtain ⟨cause, -, equal⟩ := failed
      exact equal ▸ known id trigger found
    · obtain ⟨index, -, equal⟩ := rebuilt
      exact equal ▸ known id trigger found
  refine ⟨stays, ?_⟩
  rcases indexed_refresh_or documents indexed with all | ⟨cause, -, equal⟩
  · exact all id trigger stays
  · rw [equal]
    exact indexed id trigger found

/-- A refresh that finds an index which is none has failed, with the first trigger still
listed; one that finds an index lists both. -/
theorem sample_refresh_keeps_listed :
    (((boot sampleWorker sampleAround).worker.refresh spoiledDocuments).1.isOk = false ∧
        ((boot sampleWorker sampleAround).worker.refresh spoiledDocuments).2.ListsTrigger
          sampleTrigger) ∧
      ((boot sampleWorker sampleAround).worker.refresh mendedDocuments).2.Indexed := by
  have failing := refresh_keeps_listed _ spoiledDocuments sample_indexed
  have reading := refresh_keeps_listed _ mendedDocuments sample_indexed
  refine ⟨⟨rfl, (failing.1 "both" sampleTrigger rfl).2⟩, reading.2.resolve_right ?_⟩
  rintro ⟨cause, unread, -⟩
  have read : mendedDocuments.loadIndex (boot sampleWorker sampleAround).worker.space = .ok [] :=
    rfl
  rw [read] at unread
  cases unread

/-- A trigger that a failing refresh took up is not listed, and it is not listed either
when the stored index can be read again and the next refresh succeeds. -/
theorem late_trigger_stays_deaf :
    (boot sampleWorker sampleAround).worker.Indexed ∧
      ¬ ((boot sampleWorker sampleAround).worker.refresh spoiledDocuments).2.Indexed ∧
      (((boot sampleWorker sampleAround).worker.refresh spoiledDocuments).2.refresh
        mendedDocuments).1 = .ok () ∧
      ¬ (((boot sampleWorker sampleAround).worker.refresh spoiledDocuments).2.refresh
        mendedDocuments).2.Indexed := by
  have unlisted :
      ¬ ((boot sampleWorker sampleAround).worker.refresh spoiledDocuments).2.Indexed := by
    intro indexed
    have listed := indexed "late" lateTrigger rfl ⟨"left", "done"⟩ List.mem_cons_self
    revert listed
    decide +kernel
  refine ⟨sample_indexed, unlisted, rfl, ?_⟩
  rw [refresh_eq_self rfl]
  exact unlisted

end Worker

end EventFlow
