import EventFlow.Proofs.Engine.Matching
import EventFlow.Proofs.Engine.Serving

/-!
# Contexts

What a trigger keeps in its context is its own. An evaluation shows it under the global
context and under what the worker adds, and only what the handlers leave under other names
is written back. So nothing of the global context or of the running worker gets into a
context, and what a context has is never lost, however many evaluations there are and
whatever becomes of the documents meanwhile.
-/

namespace EventFlow

/-- A handler that hands on a dictionary with its names in order if it is given one. -/
def Handler.KeepsOrder {α : Type} (handler : Handler α) : Prop :=
  ∀ context event around, Dict.Ascending context.data →
    Dict.Ascending (handler context event around).context.data

/-- All handlers of a registry keep the data of an evaluation in order. -/
structure Registry.KeepsOrder (registry : Registry) : Prop where
  conditions : ∀ name condition, registry.condition name = .ok condition → condition.KeepsOrder
  actions : ∀ name action, registry.action name = .ok action → action.KeepsOrder

/-- Handlers that leave all data keep it in order. -/
theorem Registry.LeavesData.keepsOrder {registry : Registry} (leaves : registry.LeavesData) :
    registry.KeepsOrder where
  conditions name condition known context event around ordered := by
    rw [(leaves.conditions name condition known).data]
    exact ordered
  actions name action known context event around ordered := by
    rw [(leaves.actions name action known).data]
    exact ordered

/-- Another action that keeps the data in order can be registered. -/
theorem Registry.KeepsOrder.registerAction {registry : Registry} (keeps : registry.KeepsOrder)
    (name : String) {action : Action} (orderly : action.KeepsOrder) :
    (registry.registerAction name action).KeepsOrder where
  conditions := keeps.conditions
  actions := forall_registerAction name orderly keeps.actions

namespace Worker

variable {worker : Worker} {id : String} {trigger : Trigger}

/-! ## What an evaluation shows -/

/-- A global context that was loaded is in order. -/
theorem ascending_loadGlobalContext {documents : Documents} {space : String}
    {globalContext : Dict Json} (loaded : loadGlobalContext documents space = .ok globalContext) :
    Dict.Ascending globalContext := by
  unfold loadGlobalContext at loaded
  split at loaded
  · cases loaded
  · cases loaded
  · rename_i fields read
    have held : (documents.load? (Decode.dict Decode.json) space Documents.globalContext).map
        (·.getD []) = .ok fields := congrArg _ read
    have ordered := Documents.ascending_of_load? held
    split at loaded
    · cases loaded
      exact ordered
    · cases loaded
      exact ordered.insert _ _

/-- What the evaluations of a worker start from: the context of the trigger, over it the global
context, and over that the six entries that the worker adds. -/
structure Layered (worker : Worker) (source : EventSource) : Prop where
  runtime : ∀ trigger, worker.runtimeData trigger = Dict.ofList [
    (Evaluation.eventSourceKey, .object source.toFields),
    (Evaluation.eventsKey, .object (worker.relevantEvents trigger)),
    (Evaluation.sourceEventsKey, SourceEvents.toJson worker.sourceEvents),
    (Evaluation.triggerKey, trigger.toJson),
    (Evaluation.dependenciesKey, .array (trigger.dependencies.map EventKey.encode)),
    (Evaluation.triggerIdKey, .string trigger.id)]
  names : ∀ trigger key,
    Dict.contains (worker.runtimeData trigger) key = Evaluation.runtimeKeys.contains key
  shown : ∀ trigger key, (worker.evaluation trigger).get? key =
    ((Dict.get? (worker.runtimeData trigger) key).or (Dict.get? worker.globalContext key)).or
      (Dict.get? trigger.context key)

/-- A worker with an event source and a global context in order shows all layers. -/
theorem layered_of_source {source : EventSource} (named : worker.eventSource = some source)
    (ordered : Dict.Ascending worker.globalContext) : worker.Layered source where
  runtime trigger := by
    rw [runtimeData, named]
    rfl
  names trigger key := by
    rw [Bool.eq_iff_iff, List.contains_iff_mem, Dict.contains, Option.isSome_iff_exists,
      ← Dict.mem_keys_iff, runtimeData, named, Dict.mem_keys_ofList]
    simp [Dict.keys, Evaluation.runtimeKeys, or_comm, or_left_comm]
  shown trigger key := by
    have runtime : (Dict.keys (worker.runtimeData trigger)).Nodup := (Dict.Ascending.ofList _).nodup
    rw [Evaluation.get?, evaluation, Dict.get?_overlay runtime, Dict.get?_overlay ordered.nodup,
      Option.or_assoc]

/-! ## What a firing writes -/

/-- The data that the handlers of a trigger leave is in order. -/
theorem ascending_handled (orderly : worker.registry.KeepsOrder)
    (ordered : Dict.Ascending trigger.context) (event : Json) (around : Surroundings) :
    Dict.Ascending (worker.handled trigger event around).data := by
  have shown : Dict.Ascending (worker.evaluation trigger).data := (ordered.overlay _).overlay _
  unfold handled
  split
  · rename_i condition action knownCondition knownAction
    have judged := orderly.conditions _ _ knownCondition _ event around shown
    dsimp only
    split
    · exact orderly.actions _ _ knownAction _ _ _ judged
    · exact judged
  · exact shown

/-- A trigger with the data of an evaluation written into its context. -/
def updated (worker : Worker) (trigger : Trigger) (data : Dict Json) : Trigger :=
  { trigger with context := Dict.overlay trigger.context (worker.ownData data) }

/-- A turn that performs no action leaves the working copy. A firing writes the context of its
trigger, and takes a transient one out of the working copy under the id in its record. -/
theorem fire_records (worker : Worker) (id : String) (event : Json) (around : Surroundings) :
    (performed (worker.fire id event around).result = false ∧
        (worker.fire id event around).worker.triggers = worker.triggers ∧
        (worker.fire id event around).worker.retired = worker.retired) ∨
      ∃ trigger written, Dict.get? worker.triggers id = some trigger ∧
        written = Dict.insert worker.triggers id
          (worker.updated trigger (worker.handled trigger event around).data) ∧
        ((trigger.transient = false ∧
            (worker.fire id event around).worker.triggers = written ∧
            (worker.fire id event around).worker.retired = worker.retired) ∨
          (trigger.transient = true ∧
            (worker.fire id event around).worker.triggers = Dict.erase written trigger.id ∧
            (worker.fire id event around).worker.retired = trigger.id :: worker.retired)) := by
  rcases worker.turn_cases id event around with
    ⟨-, fired⟩ | ⟨-, trigger, found, ⟨idle, counted, -⟩ | ⟨done, settled, left, -⟩⟩
  · rw [fired]
    exact .inl ⟨rfl, rfl, rfl⟩
  · rw [counted]
    exact .inl ⟨idle, rfl, rfl⟩
  · have known : Dict.get? (worker.activate id).triggers id = some trigger := found
    refine .inr ⟨trigger, _, found, rfl, ?_⟩
    rw [settled, settle_of_found known, left]
    dsimp only
    split
    · rename_i transient
      exact .inr ⟨transient, rfl, rfl⟩
    · rename_i persistent
      exact .inl ⟨by simpa using persistent, rfl, rfl⟩

/-- What a firing leaves of its trigger. Its context has the values that the handlers left in the
data under the names that are not reserved; under all other names it has what it had before. -/
structure Written (worker : Worker) (trigger : Trigger) (data : Dict Json) (after : Trigger) :
    Prop where
  record : after = { trigger with context := after.context }
  context : ∀ key, Dict.get? after.context key =
    if worker.reserves key then Dict.get? trigger.context key
    else (Dict.get? data key).or (Dict.get? trigger.context key)
  kept : ∀ key, Dict.contains trigger.context key = true → Dict.contains after.context key = true
  same : data = (worker.evaluation trigger).data → after = trigger

/-- What is written back is what a firing leaves. -/
theorem written_updated (ordered : Dict.Ascending trigger.context) {data : Dict Json}
    (distinct : (Dict.keys data).Nodup) :
    worker.Written trigger data (worker.updated trigger data) where
  record := rfl
  context := get?_written distinct trigger.context
  kept key held := by
    have names := @Dict.mem_keys_overlay _ trigger.context (worker.ownData data) key
    simp only [Dict.mem_keys_iff, ← Option.isSome_iff_exists] at names
    exact names.mpr (.inr held)
  same unchanged := by rw [updated, unchanged, overlay_ownData_evaluation ordered]

/-- A firing writes what its handlers left if its trigger is still there, and it leaves the
records of all others. A transient trigger that is stored under another id than its own takes the
record under its own id away. -/
theorem fire_writes (orderly : worker.registry.KeepsOrder)
    (ordered : Dict.Ascending trigger.context)
    (found : Dict.get? worker.triggers id = some trigger) (event : Json) (around : Surroundings)
    (fired : performed (worker.fire id event around).result = true) :
    (∀ after, Dict.get? (worker.fire id event around).worker.triggers id = some after →
        worker.Written trigger (worker.handled trigger event around).data after) ∧
      ∀ other, other ≠ id →
        Dict.get? (worker.fire id event around).worker.triggers other =
            Dict.get? worker.triggers other ∨
          (trigger.transient = true ∧ trigger.id = other ∧
            Dict.get? (worker.fire id event around).worker.triggers other = none) := by
  have writes : worker.Written trigger (worker.handled trigger event around).data
      (worker.updated trigger (worker.handled trigger event around).data) :=
    written_updated ordered (ascending_handled orderly ordered event around).nodup
  rcases worker.fire_records id event around with
    ⟨idle, -⟩ | ⟨_, written, known, rfl, ⟨-, records, -⟩ | ⟨transient, records, -⟩⟩
  · rw [idle] at fired
    cases fired
  · cases known.symm.trans found
    rw [records]
    refine ⟨fun after held => ?_, fun other different => .inl ?_⟩
    · rw [Dict.get?_insert_self] at held
      cases held
      exact writes
    · exact Dict.get?_insert_of_ne _ _ different.symm
  · cases known.symm.trans found
    rw [records]
    refine ⟨fun after held => ?_, fun other different => ?_⟩
    · rw [Dict.get?_erase, Dict.get?_insert_self] at held
      split at held
      · cases held
      · cases held
        exact writes
    · rw [Dict.get?_erase, Dict.get?_insert_of_ne _ _ different.symm]
      split
      · rename_i own
        exact .inr ⟨transient, own, rfl⟩
      · exact .inl rfl

/-! ## What becomes of the contexts -/

/-- What stays of a trigger: all but its context, and there all names and the values of the
reserved ones. -/
structure Retains (worker : Worker) (earlier later : Trigger) : Prop where
  record : later = { earlier with context := later.context }
  kept : ∀ key, Dict.contains earlier.context key = true → Dict.contains later.context key = true
  reserved : ∀ key, worker.reserves key = true →
    Dict.get? later.context key = Dict.get? earlier.context key

/-- What a firing leaves of its trigger retains it. -/
theorem Written.retains {data : Dict Json} {after : Trigger}
    (written : worker.Written trigger data after) : worker.Retains trigger after where
  record := written.record
  kept := written.kept
  reserved key reserved := by rw [written.context, if_pos reserved]

/-- A worker that has kept its triggers: each is still there with what it retains, or it is retired
and gone for good. -/
structure Keeps (worker after : Worker) : Prop where
  globalContext : after.globalContext = worker.globalContext
  held : ∀ id trigger, Dict.get? worker.triggers id = some trigger →
    (∃ held, Dict.get? after.triggers id = some held ∧ worker.Retains trigger held) ∨
      (Dict.get? after.triggers id = none ∧ id ∈ after.retired)
  gone : ∀ id, Dict.get? worker.triggers id = none → id ∈ worker.retired →
    Dict.get? after.triggers id = none ∧ id ∈ after.retired

/-- A worker with the same triggers has kept them. -/
theorem Keeps.of_same {after : Worker} (globalContext : after.globalContext = worker.globalContext)
    (triggers : after.triggers = worker.triggers) (retired : after.retired = worker.retired) :
    Keeps worker after where
  globalContext := globalContext
  held id trigger found :=
    .inl ⟨trigger, triggers ▸ found, rfl, fun _ held => held, fun _ _ => rfl⟩
  gone id absent spent := by
    rw [triggers, retired]
    exact ⟨absent, spent⟩

/-- Keeping triggers goes on. -/
theorem Keeps.trans {middle after : Worker} (first : Keeps worker middle)
    (second : Keeps middle after) : Keeps worker after where
  globalContext := second.globalContext.trans first.globalContext
  held id trigger found := by
    rcases first.held id trigger found with ⟨held, there, before⟩ | ⟨absent, spent⟩
    · rcases second.held id held there with ⟨later, still, behind⟩ | gone
      · refine .inl ⟨later, still, ?_, fun key own => behind.kept key (before.kept key own), ?_⟩
        · rw [behind.record, before.record]
        · intro key reserved
          have same : middle.reserves key = true := by
            rwa [reserves, first.globalContext]
          rw [behind.reserved key same, before.reserved key reserved]
      · exact .inr gone
    · exact .inr (second.gone id absent spent)
  gone id absent spent := by
    obtain ⟨absent, spent⟩ := first.gone id absent spent
    exact second.gone id absent spent

/-- A turn keeps the triggers of a worker. -/
theorem keeps_fire (orderly : worker.registry.KeepsOrder)
    (ordered : ∀ id trigger, Dict.get? worker.triggers id = some trigger →
      Dict.Ascending trigger.context)
    (id : String) (event : Json) (around : Surroundings) :
    Keeps worker (worker.fire id event around).worker := by
  have global := (worker.steady_fire id event around).globalContext
  rcases worker.fire_records id event around with
    ⟨-, triggers, retired⟩ | ⟨trigger, written, found, made, kept⟩
  · exact .of_same global triggers retired
  · have retains : worker.Retains trigger
        (worker.updated trigger (worker.handled trigger event around).data) :=
      (written_updated (ordered id trigger found)
        (ascending_handled orderly (ordered id trigger found) event around).nodup).retains
    have inserted : ∀ other held, Dict.get? worker.triggers other = some held →
        ∃ later, Dict.get? written other = some later ∧ worker.Retains held later := by
      intro other held listed
      rw [made, Dict.get?_insert]
      split
      · rename_i same
        subst same
        cases listed.symm.trans found
        exact ⟨_, rfl, retains⟩
      · exact ⟨held, listed, rfl, fun _ own => own, fun _ _ => rfl⟩
    -- what is missing stays missing: only the record of the turn itself was written
    have absent : ∀ other, Dict.get? worker.triggers other = none →
        Dict.get? written other = none := by
      intro other missing
      rw [made, Dict.get?_insert_of_ne]
      · exact missing
      · rintro rfl
        cases missing.symm.trans found
    rcases kept with ⟨-, triggers, retired⟩ | ⟨-, triggers, retired⟩
    · refine ⟨global, fun other held listed => ?_, fun other missing spent => ?_⟩
      · rw [triggers]
        exact .inl (inserted other held listed)
      · rw [triggers, retired]
        exact ⟨absent other missing, spent⟩
    · refine ⟨global, fun other held listed => ?_, fun other missing spent => ?_⟩
      · rw [triggers, retired, Dict.get?_erase]
        split
        · rename_i own
          exact .inr ⟨rfl, own ▸ List.mem_cons_self⟩
        · exact .inl (inserted other held listed)
      · rw [triggers, retired, Dict.get?_erase, absent other missing, ite_self]
        exact ⟨rfl, List.mem_cons_of_mem _ spent⟩

/-- A refresh leaves the global context, the event source and the events. -/
theorem refresh_fixed (worker : Worker) (documents : Documents) :
    (worker.refresh documents).2.globalContext = worker.globalContext ∧
      (worker.refresh documents).2.eventSource = worker.eventSource ∧
      (worker.refresh documents).2.received = worker.received := by
  rcases worker.refresh_cases documents with
    same | ⟨_, -, -, ⟨_, -, failed⟩ | ⟨_, -, rebuilt⟩⟩
  · rw [same]
    exact ⟨rfl, rfl, rfl⟩
  · rw [failed]
    exact ⟨rfl, rfl, rfl⟩
  · rw [rebuilt]
    exact ⟨rfl, rfl, rfl⟩

/-- A refresh keeps the triggers of a worker. -/
theorem keeps_refresh (worker : Worker) (documents : Documents) :
    Keeps worker (worker.refresh documents).2 := by
  obtain ⟨stored, -, -, refreshed⟩ := worker.exists_refreshed documents
  refine ⟨(worker.refresh_fixed documents).1, fun id trigger found => .inl ?_,
    fun id absent spent => ⟨?_, refreshed.retired ▸ spent⟩⟩
  · exact ⟨trigger, refreshed.known id trigger found, rfl, fun _ own => own, fun _ _ => rfl⟩
  · refine Option.eq_none_iff_forall_ne_some.mpr fun trigger found => ?_
    rcases refreshed.new id trigger found with known | ⟨-, live, -⟩
    · cases absent.symm.trans known
    · exact live spent

end Worker

namespace Moment

/-- One step in the life of a worker among others that may store whatever they like. -/
inductive Move : Moment → Moment → Prop where
  /-- A step of the worker. -/
  | step {moment next : Moment} (step : Step moment next) : Move moment next
  /-- The surroundings change. -/
  | change {moment : Moment} {around : Surroundings} : Move moment { moment with around }

/-- Any number of such steps. -/
abbrev Moves : Moment → Moment → Prop :=
  Relation.ReflTransGen Move

/-- Every run is made of such steps. -/
theorem Steps.moves {moment next : Moment} (steps : Steps moment next) : Moves moment next :=
  steps.lift id fun _ _ step => .step step

/-- A worker that was started: it has an event source, and its global context and the contexts
of its triggers are in order, as its handlers leave them. -/
structure Grounded (source : EventSource) (moment : Moment) : Prop where
  orderly : moment.worker.registry.KeepsOrder
  eventSource : moment.worker.eventSource = some source
  globalContext : Dict.Ascending moment.worker.globalContext
  contexts : ∀ id trigger, Dict.get? moment.worker.triggers id = some trigger →
    Dict.Ascending trigger.context

section Run

variable {worker : Worker} {around : Surroundings} {source : EventSource} {moment next : Moment}

/-- A refresh takes up contexts in order. -/
theorem contexts_refresh {documents : Documents}
    (ordered : ∀ id trigger, Dict.get? worker.triggers id = some trigger →
      Dict.Ascending trigger.context) (id : String) (trigger : Trigger)
    (found : Dict.get? (worker.refresh documents).2.triggers id = some trigger) :
    Dict.Ascending trigger.context := by
  obtain ⟨stored, made, -, refreshed⟩ := worker.exists_refreshed documents
  rcases refreshed.new id trigger found with known | ⟨-, -, member⟩
  · exact ordered id trigger known
  · exact made _ member

/-- A worker is grounded once it has started. -/
theorem grounded_boot (new : worker.IsNew) (orderly : worker.registry.KeepsOrder)
    (booted : (worker.bootstrap around.documents).1 = .ok source) :
    (boot worker around).Grounded source := by
  obtain ⟨globalContext, loaded, -, -, equal⟩ := Worker.bootstrap_eq_ok booted
  have same := ({ worker with globalContext, eventSource := some source } : Worker).refresh_same
    around.documents
  have fixed := ({ worker with globalContext, eventSource := some source } : Worker).refresh_fixed
    around.documents
  unfold boot
  rw [equal]
  refine ⟨same.2.1.symm ▸ orderly, fixed.2.1, fixed.1.symm ▸ ?_, ?_⟩
  · exact Worker.ascending_loadGlobalContext loaded
  · refine contexts_refresh fun id trigger found => ?_
    rw [show ({ worker with globalContext, eventSource := some source } : Worker).triggers = []
      from new.triggers] at found
    cases found

/-- A turn leaves contexts in order. -/
theorem contexts_fire {worker : Worker}
    (ordered : ∀ id trigger, Dict.get? worker.triggers id = some trigger →
      Dict.Ascending trigger.context)
    (id : String) (event : Json) (around : Surroundings) (other : String) (held : Trigger)
    (found : Dict.get? (worker.fire id event around).worker.triggers other = some held) :
    Dict.Ascending held.context := by
  rcases worker.fire_records id event around with
    ⟨-, triggers, -⟩ | ⟨trigger, written, known, rfl, kept⟩
  · exact ordered other held (triggers ▸ found)
  · have inserted : Dict.get? (Dict.insert worker.triggers id
        (worker.updated trigger (worker.handled trigger event around).data)) other = some held →
        Dict.Ascending held.context := by
      intro listed
      rw [Dict.get?_insert] at listed
      split at listed
      · cases listed
        exact (ordered id trigger known).overlay _
      · exact ordered other held listed
    rcases kept with ⟨-, triggers, -⟩ | ⟨-, triggers, -⟩
    · exact inserted (triggers ▸ found)
    · rw [triggers, Dict.get?_erase] at found
      split at found
      · cases found
      · exact inserted found

/-- A grounded worker stays so and keeps its triggers, whatever happens. -/
theorem Grounded.move (grounded : moment.Grounded source) (move : Move moment next) :
    next.Grounded source ∧ Worker.Keeps moment.worker next.worker := by
  have still : Worker.Keeps moment.worker moment.worker := .of_same rfl rfl rfl
  cases move with
  | change => exact ⟨{ grounded with }, still⟩
  | step step =>
    cases step with
    | change => exact ⟨{ grounded with }, still⟩
    | refresh =>
      have fixed := moment.worker.refresh_fixed moment.around.documents
      refine ⟨⟨?_, fixed.2.1.trans grounded.eventSource, ?_, contexts_refresh grounded.contexts⟩,
        moment.worker.keeps_refresh moment.around.documents⟩
      · rw [(moment.worker.refresh_same moment.around.documents).2.1]
        exact grounded.orderly
      · rw [fixed.1]
        exact grounded.globalContext
    | skip => exact ⟨{ grounded with }, .of_same rfl rfl rfl⟩
    | receive =>
      unfold receive
      dsimp only
      split <;> exact ⟨{ grounded with }, .of_same rfl rfl rfl⟩
    | @turn id _ _ =>
      have steady := moment.worker.steady_fire id moment.event moment.around
      have keeps := Worker.keeps_fire grounded.orderly grounded.contexts id moment.event moment.around
      refine ⟨⟨?_, ?_, ?_, contexts_fire grounded.contexts id moment.event moment.around⟩,
        { keeps with }⟩
      · exact steady.registry.symm ▸ grounded.orderly
      · exact steady.eventSource.trans grounded.eventSource
      · exact steady.globalContext.symm ▸ grounded.globalContext

/-- A grounded worker stays so for good, and never loses what its triggers retain. -/
theorem Grounded.moves (grounded : moment.Grounded source) (moves : Moves moment next) :
    next.Grounded source ∧ Worker.Keeps moment.worker next.worker := by
  induction moves with
  | refl => exact ⟨grounded, .of_same rfl rfl rfl⟩
  | tail _ move ih =>
    obtain ⟨still, keeps⟩ := ih.1.move move
    exact ⟨still, ih.2.trans keeps⟩

/-- The global context and the event source of a worker that has started never change, and every
evaluation starts from the context of its trigger, over it the global context, and over that the
six entries of the worker. A firing writes what its handlers left, unless it is under the name of a
global or a runtime entry, into the context of its trigger and changes nothing else in the working
copy; only a transient trigger that is stored under another id than its own takes the record under
its own id away. However long the run goes on, no context ever loses a name or gets another value
for one that is reserved. -/
theorem contexts_keep_own_data (new : worker.IsNew) (orderly : worker.registry.KeepsOrder)
    (booted : (worker.bootstrap around.documents).1 = .ok source)
    (reached : Moves (boot worker around) moment) :
    moment.worker.globalContext = (boot worker around).worker.globalContext ∧
      moment.worker.eventSource = some source ∧
      moment.worker.Layered source ∧
      (∀ id trigger event around, Dict.get? moment.worker.triggers id = some trigger →
        Worker.performed (moment.worker.fire id event around).result = true →
        (∀ after, Dict.get? (moment.worker.fire id event around).worker.triggers id = some after →
          moment.worker.Written trigger (moment.worker.handled trigger event around).data after) ∧
        ∀ other, other ≠ id →
          Dict.get? (moment.worker.fire id event around).worker.triggers other =
              Dict.get? moment.worker.triggers other ∨
            (trigger.transient = true ∧ trigger.id = other ∧
              Dict.get? (moment.worker.fire id event around).worker.triggers other = none)) ∧
      ∀ later, Moves moment later → Worker.Keeps moment.worker later.worker := by
  obtain ⟨grounded, keeps⟩ := (grounded_boot new orderly booted).moves reached
  refine ⟨keeps.globalContext, grounded.eventSource,
    Worker.layered_of_source grounded.eventSource grounded.globalContext, ?_,
    fun later onward => (grounded.moves onward).2⟩
  intro id trigger event around found fired
  exact Worker.fire_writes grounded.orderly (grounded.contexts id trigger found) found event around
    fired

end Run

/-! ## A count in a context -/

/-- An action that sets a name of its own, one of the global context and one of the worker. -/
def countAction : Action :=
  Handler.confined fun context _ =>
    (.ok (), ((context.set "hits" (.nat 1)).set "namespace" (.string "other")).set
      Evaluation.triggerIdKey (.string "other"))

/-- A trigger with this action, and with values under reserved names in its context. -/
def countingTrigger : Trigger :=
  { sampleTrigger with
    action := "count"
    context := [("namespace", .string "own"), (Evaluation.triggerIdKey, .string "own")]
    dependencies := [⟨"left", "done"⟩] }

/-- A worker with this action. -/
def countingWorker : Worker :=
  { sampleWorker with registry := Registry.builtin.registerAction "count" countAction }

/-- The counting trigger about to be evaluated. -/
def countingMoment : Moment :=
  (boot countingWorker (aroundWith countingTrigger)).meet ⟨"left", "done"⟩

/-- A firing writes the count into the context, and nothing under the reserved names. -/
theorem sample_keeps_own_data :
    Moves (boot countingWorker (aroundWith countingTrigger)) countingMoment ∧
      ∃ after, Dict.get? (countingMoment.worker.fire "both" countingMoment.event
          countingMoment.around).worker.triggers "both" = some after ∧
        Dict.get? after.context "hits" = some (.nat 1) ∧
        Dict.get? after.context "namespace" = some (.string "own") ∧
        Dict.get? after.context Evaluation.triggerIdKey = some (.string "own") := by
  have started : (boot countingWorker (aroundWith countingTrigger)).pending = [] := rfl
  have reached : Moves (boot countingWorker (aroundWith countingTrigger)) countingMoment :=
    .single (.step (step_meet started ⟨"left", "done"⟩))
  have orderly : countingWorker.registry.KeepsOrder :=
    Registry.leavesData_builtin.keepsOrder.registerAction "count"
      fun _ _ _ ordered => ((ordered.insert _ _).insert _ _).insert _ _
  have booted : (countingWorker.bootstrap (aroundWith countingTrigger).documents).1 =
    .ok ⟨"log", .memory "events"⟩ := rfl
  have found : Dict.get? countingMoment.worker.triggers "both" = some countingTrigger := rfl
  have fired : Worker.performed (countingMoment.worker.fire "both" countingMoment.event
    countingMoment.around).result = true := by decide +kernel
  have stays : (Dict.get? (countingMoment.worker.fire "both" countingMoment.event
    countingMoment.around).worker.triggers "both").isSome = true := by decide +kernel
  obtain ⟨after, held⟩ := Option.isSome_iff_exists.mp stays
  obtain ⟨-, -, -, fires, -⟩ := contexts_keep_own_data ⟨rfl, rfl, rfl, rfl⟩ orderly booted reached
  have written := (fires "both" countingTrigger countingMoment.event countingMoment.around found
    fired).1 after held
  refine ⟨reached, after, held, ?_, ?_, ?_⟩
  · rw [written.context]
    rfl
  · rw [written.context]
    rfl
  · rw [written.context]
    rfl

/-! ## A record under another id -/

/-- A transient trigger with the id of another one. -/
def guestTrigger : Trigger :=
  { sampleTrigger with id := "host", dependencies := [⟨"left", "done"⟩], transient := true }

/-- The trigger of this id. -/
def hostTrigger : Trigger :=
  { sampleTrigger with id := "host", dependencies := [⟨"right", "done"⟩] }

/-- Surroundings in which the first of them is stored under an id that is not its own. -/
def hostAround : Surroundings :=
  { sampleAround with
    documents := (sampleAround.documents.put "demo" Documents.triggers
      (Documents.ofTriggers [("guest", guestTrigger), ("host", hostTrigger)])).put
        "demo" Documents.sourceEvents (SourceEvents.toJson [("left", ["guest"])]) }

/-- The first trigger about to be evaluated. -/
def hostMoment : Moment :=
  (boot sampleWorker hostAround).meet ⟨"left", "done"⟩

/-- A transient trigger that is stored under an id that is not its own stays in the working copy
when it fires, and the record under its own id goes. -/
theorem guest_takes_host_away :
    (sampleWorker.bootstrap hostAround.documents).1.isOk = true ∧
      Steps (boot sampleWorker hostAround) hostMoment ∧ hostMoment.pending = ["guest", "host"] ∧
      let after := hostMoment.worker.fire "guest" hostMoment.event hostMoment.around
      Worker.performed after.result = true ∧
        Dict.contains after.worker.triggers "guest" = true ∧
        ¬ ∀ other, other ≠ "guest" →
          Dict.get? after.worker.triggers other = Dict.get? hostMoment.worker.triggers other := by
  have started : (boot sampleWorker hostAround).pending = [] := rfl
  refine ⟨by decide +kernel, .single (step_meet started ⟨"left", "done"⟩), by decide +kernel,
    by decide +kernel, by decide +kernel, fun unchanged => ?_⟩
  have same := congrArg Option.isSome (unchanged "host" (by decide))
  revert same
  decide +kernel

end Moment

end EventFlow
