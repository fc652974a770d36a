import EventFlow.Proofs.Api.Holdings
import EventFlow.Proofs.Engine.Booting
import EventFlow.Proofs.Engine.Rebuilding

/-!
# Loading a namespace

A worker that is set up finds in the documents what calls have written there: the global
context, the event source, the triggers and their index come back from their documents as
they were given. The index is rebuilt for the working copy, which changes nothing, since it is
one of exactly these triggers.
-/

namespace EventFlow

/-- An event source is read back from its fields. -/
theorem EventSource.decoder_toFields (source : EventSource) :
    decoder .value (Draft.ofJson (.object source.toFields)) = .ok source := by
  obtain ⟨name, location⟩ := source
  cases location <;> rfl

/-! ## Indices that are complete -/

namespace SourceEvents

variable {index : SourceEvents} {stored : Dict Trigger}

/-- Without triggers an index is empty. -/
theorem Indexes.eq_nil (indexes : index.Indexes []) : index = [] := by
  cases index with
  | nil => rfl
  | cons entry rest =>
    obtain ⟨subject, ids⟩ := entry
    have found : Dict.get? ((subject, ids) :: rest) subject = some ids := by simp
    obtain ⟨id, member⟩ := List.exists_mem_of_ne_nil _ (indexes.lists subject ids found).2
    have listed : id ∈ waiting ((subject, ids) :: rest) subject := by simpa [waiting] using member
    obtain ⟨trigger, known, -⟩ := (indexes.listed id subject).mp listed
    cases known

/-- An index of triggers is one of the same triggers in another dictionary. -/
theorem Indexes.congr (indexes : index.Indexes stored) {copy : Dict Trigger}
    (ordered : Dict.Ascending copy) (same : ∀ id, Dict.get? copy id = Dict.get? stored id) :
    index.Indexes copy where
  toTidy := indexes.toTidy
  ordered := ordered
  own id trigger found := indexes.own id trigger (same id ▸ found)
  listed id subject := by rw [indexes.listed, same]

end SourceEvents

namespace Worker

variable {worker : Worker} {documents : Documents} {stored : Dict Trigger} {index : SourceEvents}
  {held : Holdings}

/-- Rebuilding an index of the working copy changes nothing. -/
theorem rebuildIndex_of_indexes (indexes : index.Indexes stored) :
    rebuildIndex stored index = index := by
  have known : ∀ id subject, id ∈ SourceEvents.waiting index subject →
      Dict.contains stored id = true := by
    intro id subject listed
    obtain ⟨trigger, found, -⟩ := (indexes.listed id subject).mp listed
    simp [Dict.contains, found]
  have lists : Lists stored index := fun id trigger found subject waits =>
    (indexes.listed id subject).mpr ⟨trigger, found, waits⟩
  exact rebuildIndex_eq_self indexes.ordered indexes.own
    (SourceEvents.tidy_iff.mp indexes.toTidy).1 known lists

/-- A new worker takes up what is kept, with the index that is kept. -/
theorem refresh_of_keeps (new : worker.IsNew) (unlisted : worker.sourceEvents = [])
    (keeps : documents.Keeps worker.space held) :
    ∃ triggers sourceEvents,
      worker.refresh documents = (.ok (), { worker with triggers, sourceEvents }) ∧
      documents.get? worker.space Documents.sourceEvents = some sourceEvents.toJson ∧
      ∀ id trigger, Dict.get? triggers id = some trigger ↔
        trigger ∈ held.triggers ∧ trigger.id = id := by
  obtain ⟨stored, index, loaded, known, written, indexes, found⟩ := keeps.loads
  let copy := stored.foldl worker.takeUp worker.triggers
  have same : ∀ id, Dict.get? copy id = Dict.get? stored id := by
    intro id
    rw [get?_takeUp_all new.retired, new.triggers]
    exact Option.none_or
  have indexed : index.Indexes copy :=
    indexes.congr (ascending_takeUp_all (new.triggers ▸ .nil) stored) same
  refine ⟨copy, index, ?_, written, fun id trigger => same id ▸ found id trigger⟩
  unfold refresh
  simp only [loaded]
  split
  · next length =>
    -- Without new triggers no index is loaded, and the one that is kept is empty, too.
    have empty : copy = [] :=
      List.eq_nil_of_length_eq_zero (length.trans (by rw [new.triggers]; rfl))
    have unlists : index = [] := (empty ▸ indexed).eq_nil
    exact congrArg₂ (fun triggers sourceEvents =>
      (Except.ok (), { worker with triggers, sourceEvents }))
      (new.triggers.trans empty.symm) (unlisted.trans unlists.symm)
  · rw [known]
    dsimp only
    rw [show rebuildIndex _ index = index from rebuildIndex_of_indexes indexed]

/-- The global context that is kept is loaded, with the name of its namespace unless it has
one. -/
theorem loadGlobalContext_of_keeps {space : String} (keeps : documents.Keeps space held) :
    loadGlobalContext documents space =
      .ok (if Dict.contains held.globalContext Namespace.nameKey then held.globalContext
        else Dict.insert held.globalContext Namespace.nameKey (.string space)) := by
  have read : documents.load? Decode.object space Documents.globalContext =
      .ok (some held.globalContext) := by
    simp only [Documents.load?, keeps.globalContext, Decode.value, Decode.object_ofJson,
      Json.sortedFields_of_ordered keeps.fields.2 [] (by simpa using keeps.fields.1)]
    rfl
  unfold loadGlobalContext
  rw [read]
  dsimp only
  split <;> rfl

/-- The event source that is kept is loaded. -/
theorem loadSource_of_keeps {space : String} (keeps : documents.Keeps space held) :
    loadSource documents space =
      match held.source with
      | none => .error (.settings (.noNamespaceSource space))
      | some source => .ok source := by
  unfold loadSource Documents.load?
  rw [keeps.source]
  cases held.source with
  | none => rfl
  | some source =>
    simp only [Option.map_some, Decode.value, EventSource.decoder_toFields]
    rfl

/-! ## Bootstraps -/

/-- Calls are made over the documents at hand, of which there are none at first, and a new
worker is set up for a namespace. It does not come up if the namespace is not there, or if it
has no event source. Else it has the global context that the namespace was created with, with
the name of the namespace unless there is one, the event source that was given or registered
last, each trigger that was stored since under its id, as it was, and the index of the
documents. -/
theorem bootstrap_loads_holdings {calls : List Call} {around : Surroundings}
    (empty : around.documents = []) (ordered : ∀ call ∈ calls, call.Ordered)
    (new : worker.IsNew) (unlisted : worker.sourceEvents = []) :
    let made := Transport.performAll around calls
    let documents := made.2.documents
    let held := Call.held worker.space made.1
    let booted := worker.bootstrap documents
    (held = none → booted.1 = .error (.missing (.space worker.space))) ∧
    (∀ globalContext triggers, held = some { globalContext, source := none, triggers } →
      booted.1 = .error (.settings (.noNamespaceSource worker.space))) ∧
    ∀ globalContext source triggers,
      held = some { globalContext, source := some source, triggers } →
        booted.1 = .ok source ∧ booted.2.eventSource = some source ∧
        booted.2.globalContext =
          (if Dict.contains globalContext Namespace.nameKey then globalContext
            else Dict.insert globalContext Namespace.nameKey (.string worker.space)) ∧
        (triggers.map Trigger.id).Nodup ∧
        (∀ id trigger, Dict.get? booted.2.triggers id = some trigger ↔
          trigger ∈ triggers ∧ trigger.id = id) ∧
        documents.get? worker.space Documents.sourceEvents =
          some booted.2.sourceEvents.toJson := by
  intro made documents held booted
  have vacant : around.documents.Agrees worker.space none := by
    rw [empty]
    exact fun _ _ => rfl
  have agrees : documents.Agrees worker.space held := Transport.agrees_performAll ordered vacant
  refine ⟨fun none => ?_, fun globalContext triggers some => ?_,
    fun globalContext source triggers some => ?_⟩
  · rw [none] at agrees
    have missing : loadGlobalContext documents worker.space =
        .error (.missing (.space worker.space)) := by
      unfold loadGlobalContext Documents.load?
      rw [agrees Documents.globalContext (by decide)]
    simp only [booted, bootstrap, missing]
  · rw [some] at agrees
    simp only [booted, bootstrap, loadGlobalContext_of_keeps agrees, loadSource_of_keeps agrees]
  · rw [some] at agrees
    let fresh : Worker := { worker with
      globalContext :=
        if Dict.contains globalContext Namespace.nameKey then globalContext
        else Dict.insert globalContext Namespace.nameKey (.string worker.space)
      eventSource := source }
    have created : fresh.IsNew := { new with }
    obtain ⟨copy, index, refreshed, written, found⟩ := refresh_of_keeps created unlisted agrees
    have ready : booted = (.ok source, { fresh with triggers := copy, sourceEvents := index }) := by
      simp only [booted, bootstrap, loadGlobalContext_of_keeps agrees, loadSource_of_keeps agrees]
      rw [show Worker.refresh _ documents = _ from refreshed]
      rfl
    rw [ready]
    exact ⟨rfl, rfl, rfl, agrees.distinct, found, written⟩

/-- A trigger that waits for an event. -/
def sampleKept : Trigger where
  id := "late"
  condition := Vocabulary.holds
  action := Vocabulary.pass
  context := [("count", .number (.int 3))]
  dependencies := [⟨"left", "done"⟩]
  transient := true

/-- Calls of which the last one fails, as the trigger is there. -/
def sampleCalls : List Call := [
  .createNamespace "demo" [("owner", .string "me")] none,
  .registerSource "demo" ⟨"log", .memory "events"⟩ false,
  .storeTriggers "demo" [sampleKept],
  .storeTriggers "demo" [sampleKept]]

/-- The namespace is loaded with the source that was registered and the trigger that was
stored. -/
theorem sample_bootstrap_loads_holdings :
    let documents := (Transport.performAll {} sampleCalls).2.documents
    let booted := (created "worker" "demo" {}).bootstrap documents
    booted.1 = .ok ⟨"log", .memory "events"⟩ ∧
      booted.2.globalContext = [("namespace", .string "demo"), ("owner", .string "me")] ∧
      Dict.get? booted.2.triggers "late" = some sampleKept ∧
      documents.get? "demo" Documents.sourceEvents = some booted.2.sourceEvents.toJson := by
  have ordered : ∀ call ∈ sampleCalls, call.Ordered := by
    simp [sampleCalls, sampleKept, Call.Ordered, Json.Ordered, Json.OrderedFields, Dict.Ascending,
      Dict.keys]
  have empty : ({} : Surroundings).documents = [] := rfl
  have new : (created "worker" "demo" {}).IsNew := ⟨rfl, rfl, rfl, rfl⟩
  have held : Call.held "demo" (Transport.performAll {} sampleCalls).1 =
      some { globalContext := [("owner", .string "me")], source := some ⟨"log", .memory "events"⟩,
             triggers := [sampleKept] } := rfl
  obtain ⟨-, -, loads⟩ := bootstrap_loads_holdings empty ordered new rfl
  obtain ⟨result, -, context, -, found, index⟩ := loads _ _ _ held
  exact ⟨result, context, (found _ _).mpr ⟨List.mem_singleton_self _, rfl⟩, index⟩

end Worker

end EventFlow
