import EventFlow.Proofs.Engine.Nets
import EventFlow.Proofs.Engine.Refresh
import EventFlow.Proofs.Engine.Turns
import EventFlow.Proofs.Log.Relay

/-!
# Turns of compiled triggers

What a turn of a compiled trigger comes to in a worker with the built-in handlers. Its
condition is judged on the data of the event; if that is let through, the trigger
announces what its action makes of its input. The working copy stays as it is.
-/

namespace EventFlow

/-! ## Handlers -/

/-- An evaluation that may ask for the end of the worker. -/
theorem Evaluation.ite_requestTermination (context : Evaluation) (asks : Bool) :
    (if asks = true then context.requestTermination else context) =
      { context with terminate := asks || context.terminate } := by
  cases asks <;> rfl

/-- The data of the latest event with a key, if there is one. -/
def Evaluation.latestData (context : Evaluation) (key : EventKey) : Json :=
  match context.latest? key with
  | some received => eventData received
  | none => .null

namespace Builtins

/-- The condition of a compiled trigger holds on the data that its rule lets through. -/
theorem stateCondition_eq_true_iff {context : Evaluation} {condition : Option Json}
    (found : context.get? "Condition" = condition)
    (rules : ∀ rule, condition = some rule → Predicate.IsRule rule) (event : Json)
    (around : Surroundings) :
    (stateCondition context event around).result = .ok true ↔ Opens condition (eventData event) := by
  simp only [stateCondition, Handler.judging, Handler.confined, found]
  cases condition with
  | none => simp [opens_none]
  | some rule =>
      cases rule with
      | object fields => simp [Opens, Predicate.holds_object]
      | _ => exact (rules _ rfl).elim

/-- Judging changes nothing. -/
theorem context_stateCondition (context : Evaluation) (event : Json) (around : Surroundings) :
    (stateCondition context event around).context = context :=
  rfl

theorem around_stateCondition (context : Evaluation) (event : Json) (around : Surroundings) :
    (stateCondition context event around).around = around :=
  rfl

/-- A completion is announced for the subject of an evaluation. -/
theorem complete_of_subject {context : Evaluation} {subject : String}
    (found : context.subject? = some subject) (output : Json) :
    complete context output =
      (.ok (), context.emit ((EventKey.completion subject).toRaw output)) := by
  rw [complete, found]

section Announcing

variable {context : Evaluation} {subject : String} (found : context.subject? = some subject)
  (event : Json) (around : Surroundings)

include found

/-- A pass or parallel state announces its output. -/
theorem statePass_of_subject :
    statePass context event around = {
      result := .ok ()
      context := context.emit ((EventKey.completion subject).toRaw
        (passOutput (context.get? "State") (context.input event)))
      around } := by
  rw [statePass, Handler.confined, complete_of_subject found]

/-- A task announces its input where the invoker returns it at once. -/
theorem task_of_subject :
    task Invoker.direct context event around = {
      result := .ok ()
      context := context.emit ((EventKey.completion subject).toRaw (context.input event))
      around } := by
  simp only [task, Invoker.direct, complete_of_subject found]

/-- The end of a level announces the data of its event, and asks that the worker stops where the
level is the root. -/
theorem closeLevel_of_subject :
    closeLevel context event around = {
      result := .ok ()
      context := { context.emit ((EventKey.completion subject).toRaw (eventData event)) with
        terminate := ((context.get? "root").bind Json.asBool?).getD false || context.terminate }
      around } := by
  simp only [closeLevel, Handler.confined, complete_of_subject found,
    Evaluation.ite_requestTermination]
  rfl

end Announcing

/-- Only the Boolean value true marks a root. -/
theorem eq_true_of_marked {mark : Option Json} (marked : (mark.bind Json.asBool?).getD false = true) :
    mark = some (.bool true) := by
  cases mark with
  | none => cases marked
  | some value =>
      cases value with
      | bool value => exact congrArg (some ∘ Json.bool) marked
      | _ => cases marked

end Builtins

namespace Trigger

/-- A compiled trigger passes a state, runs a task or closes a level. -/
theorem Compiled.action_cases {trigger : Trigger} (compiled : trigger.Compiled) :
    trigger.action = Vocabulary.statePass ∨ trigger.action = Vocabulary.task ∨
      trigger.action = Vocabulary.closeLevel := by
  cases compiled.role with
  | single _ _ _ action => exact action
  | join _ _ action _ => exact .inl action
  | any _ action => exact .inr (.inr action)

/-- What the action of a compiled trigger does: it announces the output of the trigger,
and only the root trigger stops the worker. -/
theorem Compiled.exists_action {trigger : Trigger} (compiled : trigger.Compiled)
    {context : Evaluation} {event input : Json} (around : Surroundings)
    (shown : ∀ key ∈ ["subject", "State", "root"], context.get? key = Dict.get? trigger.context key)
    (closes : trigger.action = Vocabulary.closeLevel → eventData event = input)
    (takes : trigger.action ≠ Vocabulary.closeLevel → context.input event = input) :
    ∃ action terminate, Registry.builtin.action trigger.action = .ok action ∧
      (terminate = context.terminate ∨ trigger.IsRoot) ∧
      action context event around = {
        result := .ok ()
        context := { context with
          outbox := context.outbox ++
            [(EventKey.completion trigger.id).toRaw (trigger.output input)]
          terminate }
        around } := by
  have subject : context.subject? = some trigger.id := by
    rw [Evaluation.subject?, shown "subject" (by decide), compiled.subject]
    rfl
  rcases compiled.action_cases with action | action | action
  · have taken := takes (by rw [action]; decide)
    refine ⟨Builtins.statePass, context.terminate, by rw [action]; rfl, .inl rfl, ?_⟩
    rw [Builtins.statePass_of_subject subject, Trigger.output, if_pos action,
      shown "State" (by decide), taken]
    rfl
  · have taken := takes (by rw [action]; decide)
    refine ⟨Builtins.task Invoker.direct, context.terminate, by rw [action]; rfl, .inl rfl, ?_⟩
    rw [Builtins.task_of_subject subject, Trigger.output, if_neg (by rw [action]; decide), taken]
    rfl
  · refine ⟨Builtins.closeLevel, ((context.get? "root").bind Json.asBool?).getD false ||
      context.terminate, by rw [action]; rfl, ?_, ?_⟩
    · cases marked : ((context.get? "root").bind Json.asBool?).getD false with
      | false => exact .inl (Bool.false_or _)
      | true =>
          rw [shown "root" (by decide)] at marked
          exact .inr ⟨action, Builtins.eq_true_of_marked marked⟩
    · rw [Builtins.closeLevel_of_subject subject, Trigger.output,
        if_neg (by rw [action]; decide), closes action]
      rfl

end Trigger

/-! ## Evaluations -/

namespace Worker

variable {worker : Worker} {trigger : Trigger}

/-- Counting an evaluation leaves the handlers and what an evaluation shows. -/
theorem registry_activate (worker : Worker) (id : String) :
    (worker.activate id).registry = worker.registry :=
  rfl

theorem evaluation_activate (worker : Worker) (id : String) (trigger : Trigger) :
    (worker.activate id).evaluation trigger = worker.evaluation trigger :=
  rfl

/-- What the worker sets for an evaluation is what the evaluation shows. -/
theorem get?_evaluation_of_runtimeData {key : String} {value : Json}
    (set : Dict.get? (worker.runtimeData trigger) key = some value) :
    (worker.evaluation trigger).get? key = some value := by
  have distinct : (Dict.keys (worker.runtimeData trigger)).Nodup := (Dict.Ascending.ofList _).nodup
  rw [Evaluation.get?, evaluation, Dict.get?_overlay distinct, set, Option.some_or]

/-- What the worker sets for an evaluation has the dependencies and the events of the
trigger. -/
theorem get?_runtimeData :
    Dict.get? (worker.runtimeData trigger) Evaluation.dependenciesKey =
        some (.array (trigger.dependencies.map EventKey.encode)) ∧
      Dict.get? (worker.runtimeData trigger) Evaluation.eventsKey =
        some (.object (worker.relevantEvents trigger)) := by
  unfold runtimeData
  cases worker.eventSource with
  | none =>
      have names : [Evaluation.eventsKey, Evaluation.sourceEventsKey, Evaluation.triggerKey,
        Evaluation.dependenciesKey, Evaluation.triggerIdKey].Nodup := by decide
      refine ⟨(Dict.get?_ofList ?_ _).trans rfl, (Dict.get?_ofList ?_ _).trans rfl⟩ <;> exact names
  | some source =>
      have names : [Evaluation.eventSourceKey, Evaluation.eventsKey, Evaluation.sourceEventsKey,
        Evaluation.triggerKey, Evaluation.dependenciesKey, Evaluation.triggerIdKey].Nodup := by decide
      refine ⟨(Dict.get?_ofList ?_ _).trans rfl, (Dict.get?_ofList ?_ _).trans rfl⟩ <;> exact names

/-- An evaluation knows what its trigger waits for. -/
theorem dependencies_evaluation : (worker.evaluation trigger).dependencies = trigger.dependencies := by
  have read := Decode.list_ofJson EventKey.decoder EventKey.encode trigger.dependencies
    fun key _ => key.decoder_encode
  rw [Evaluation.dependencies, get?_evaluation_of_runtimeData get?_runtimeData.1]
  simp only [Decode.value, read]
  rfl

/-- Show the events that were received for a subject, if there are some. -/
def showReceived (worker : Worker) (shown : Dict Json) (subject : String) : Dict Json :=
  match Dict.get? worker.received subject with
  | some received => Dict.insert shown subject (.array received)
  | none => shown

/-- An evaluation shows the events of the subjects that its trigger waits for. -/
theorem get?_relevantEvents {subject : String} (waits : subject ∈ trigger.subjects)
    {events : List Json} (found : Dict.get? worker.received subject = some events) :
    Dict.get? (worker.relevantEvents trigger) subject = some (.array events) := by
  have kept : ∀ (subjects : List String) (shown : Dict Json),
      Dict.get? shown subject = some (.array events) ∨ subject ∈ subjects →
      Dict.get? (subjects.foldl worker.showReceived shown) subject = some (.array events) := by
    intro subjects
    induction subjects with
    | nil => simp
    | cons first rest ih =>
        intro shown reached
        rw [List.foldl_cons]
        by_cases same : first = subject
        · subst same
          refine ih _ (.inl ?_)
          rw [showReceived, found]
          exact Dict.get?_insert_self _ _ _
        · refine ih _ (reached.imp (fun earlier => ?_) fun member => ?_)
          · unfold showReceived
            split
            · rwa [Dict.get?_insert_of_ne _ _ same]
            · exact earlier
          · exact (List.mem_cons.mp member).resolve_left (Ne.symm same)
  exact kept trigger.subjects [] (.inr waits)

/-- The only event of a subject is the latest one. -/
theorem latest?_evaluation {subject : String} {input : Json}
    (waits : EventKey.completion subject ∈ trigger.dependencies)
    (only : Dict.get? worker.received subject = some [(EventKey.completion subject).toRaw input]) :
    (worker.evaluation trigger).latest? (EventKey.completion subject) =
      some ((EventKey.completion subject).toRaw input) := by
  have shown := get?_relevantEvents (Trigger.mem_subjects_iff.mpr ⟨_, waits, rfl⟩) only
  simp only [Evaluation.latest?, get?_evaluation_of_runtimeData get?_runtimeData.2, bind, Option.bind_some,
    Json.get?, EventKey.completion] at shown ⊢
  rw [shown]
  simp only [Option.bind_some, Json.asArray?, List.reverse_singleton, List.find?_singleton]
  rw [if_pos ((EventKey.isKeyOf_iff (EventKey.ofRaw?_toRaw _ _) _).mpr rfl)]

/-- A trigger that joins the only events of all subjects that it waits for works on
their data. -/
theorem input_evaluation {inputs : List Json} {event : Json}
    (completions : trigger.dependencies = trigger.waits.map EventKey.completion)
    (waits : trigger.waits ≠ [])
    (collected : List.Forall₂ (fun subject input => Dict.get? worker.received subject =
      some [(EventKey.completion subject).toRaw input]) trigger.waits inputs)
    (latest : ∀ input, inputs = [input] → eventData event = input) :
    (worker.evaluation trigger).input event = joined inputs := by
  have data : ∀ (subjects : List String) (inputs : List Json),
      List.Forall₂ (fun subject input => Dict.get? worker.received subject =
        some [(EventKey.completion subject).toRaw input]) subjects inputs →
      (∀ subject ∈ subjects, subject ∈ trigger.waits) →
      (subjects.map EventKey.completion).map (worker.evaluation trigger).latestData = inputs := by
    intro subjects inputs collected within
    induction collected with
    | nil => rfl
    | @cons subject input rest inputs only _ ih =>
        have member : EventKey.completion subject ∈ trigger.dependencies :=
          completions ▸ List.mem_map_of_mem (within subject List.mem_cons_self)
        rw [List.map_cons, List.map_cons, Evaluation.latestData, latest?_evaluation member only,
          ih fun other listed => within other (List.mem_cons_of_mem _ listed)]
        rfl
  have all := data _ _ collected fun _ member => member
  rw [Evaluation.input, dependencies_evaluation, completions]
  obtain ⟨subject, rest, shape⟩ := List.exists_cons_of_ne_nil waits
  rw [shape] at collected all ⊢
  cases collected with
  | @cons _ input _ others only behind =>
      cases behind with
      | nil => exact latest input rfl
      | cons => exact congrArg Json.array all

/-- Of what an evaluation showed from the start, the trigger has already in its context what
belongs to it. -/
theorem overlay_ownData_evaluation (ordered : Dict.Ascending trigger.context) :
    Dict.overlay trigger.context (worker.ownData (worker.evaluation trigger).data) =
      trigger.context := by
  have distinct : (Dict.keys (worker.evaluation trigger).data).Nodup :=
    ((ordered.overlay _).overlay _).nodup
  refine ordered.overlay_of_get? fun entry member => ?_
  obtain ⟨listed, own⟩ := List.mem_filter.mp member
  simp only [Bool.not_eq_true', Bool.or_eq_false_iff, List.contains_eq_mem,
    decide_eq_false_iff_not] at own
  rw [← get?_evaluation trigger own.2 own.1]
  exact Dict.get?_of_mem distinct listed

/-- Writing back what an evaluation showed from the start changes nothing. -/
theorem writeBack_evaluation (copy : Dict.Ascending worker.triggers)
    (ordered : Dict.Ascending trigger.context)
    (found : Dict.get? worker.triggers trigger.id = some trigger) :
    worker.writeBack trigger.id (worker.evaluation trigger).data = worker := by
  simp only [writeBack, found, overlay_ownData_evaluation ordered]
  rw [copy.insert_of_get? found]

/-- Settling a persistent trigger whose action left the data of its evaluation changes at
most the life of the worker. -/
theorem settle_of_data_eq {done : Handled Unit} (copy : Dict.Ascending worker.triggers)
    (ordered : Dict.Ascending trigger.context)
    (found : Dict.get? worker.triggers trigger.id = some trigger)
    (persistent : trigger.transient = false)
    (same : done.context.data = (worker.evaluation trigger).data) :
    worker.settle trigger.id trigger done = {
      result := .ok true
      worker := { worker with
        lifecycle := if done.context.terminate then .finished else worker.lifecycle }
      around := done.around
      outbox := done.context.outbox } := by
  have kept := writeBack_evaluation copy ordered found
  simp only [writeBack, found] at kept
  have unchanged := congrArg Worker.triggers kept
  dsimp only at unchanged
  rw [settle_of_found found, same]
  dsimp only
  rw [unchanged, if_neg (by simp [persistent])]

end Worker

/-! ## Turns -/

/-- A worker with the built-in handlers whose working copy is a net of compiled
triggers. The index lists them all, and the global context hides nothing from them. -/
structure Worker.Serves (worker : Worker) (net : Net) : Prop where
  registry : worker.registry = Registry.builtin
  copy : Dict.Ascending worker.triggers
  holds : ∀ id trigger, Dict.get? worker.triggers id = some trigger ↔
    trigger ∈ net.triggers ∧ trigger.id = id
  lists : Worker.Lists worker.triggers worker.sourceEvents
  shown : ∀ key ∈ ["subject", "State", "Condition", "root"],
    Dict.contains worker.globalContext key = false
  compiled : ∀ trigger ∈ net.triggers, trigger.Compiled

namespace Worker.Serves

variable {worker : Worker} {net : Net} {trigger : Trigger}

/-- A trigger of the net is in the working copy. -/
theorem get?_triggers (serves : worker.Serves net) (member : trigger ∈ net.triggers) :
    Dict.get? worker.triggers trigger.id = some trigger :=
  (serves.holds _ _).mpr ⟨member, rfl⟩

/-- Handlers find what the context of a trigger has. -/
theorem get?_evaluation (serves : worker.Serves net) (trigger : Trigger) {key : String}
    (listed : key ∈ ["subject", "State", "Condition", "root"]) :
    (worker.evaluation trigger).get? key = Dict.get? trigger.context key := by
  refine Worker.get?_evaluation trigger (serves.shown key listed) ?_
  simp only [List.mem_cons, List.not_mem_nil, or_false] at listed
  rcases listed with rfl | rfl | rfl | rfl <;> decide

/-- A turn of a trigger of the net is an evaluation if the trigger is ready. -/
theorem evaluates_eq (serves : worker.Serves net) (member : trigger ∈ net.triggers) :
    worker.evaluates trigger.id = worker.isReady trigger := by
  rw [evaluates, serves.get?_triggers member]

/-- The turn of a ready trigger is its evaluation. -/
theorem fire_of_ready (serves : worker.Serves net) (member : trigger ∈ net.triggers)
    (ready : worker.isReady trigger = true) (event : Json) (around : Surroundings) :
    worker.fire trigger.id event around =
      (worker.activate trigger.id).evaluate trigger.id trigger event around := by
  simp only [fire, serves.get?_triggers member, ready, if_true]

/-- The condition of a compiled trigger is judged on the data of the event. -/
theorem judges_iff (serves : worker.Serves net) (member : trigger ∈ net.triggers) (event : Json)
    (around : Surroundings) :
    (Builtins.stateCondition (worker.evaluation trigger) event around).result = .ok true ↔
      Opens trigger.condition? (eventData event) :=
  Builtins.stateCondition_eq_true_iff (serves.get?_evaluation trigger (by decide))
    (serves.compiled trigger member).rule event around

/-- The condition of a compiled trigger is known. -/
theorem condition_eq (serves : worker.Serves net) (member : trigger ∈ net.triggers) :
    worker.registry.condition trigger.condition = .ok Builtins.stateCondition := by
  rw [serves.registry, (serves.compiled trigger member).condition]
  rfl

/-- The action of a compiled trigger is known. -/
theorem exists_action (serves : worker.Serves net) (member : trigger ∈ net.triggers) :
    ∃ action, worker.registry.action trigger.action = .ok action := by
  rw [serves.registry]
  rcases (serves.compiled trigger member).action_cases with action | action | action <;>
    rw [action] <;> exact ⟨_, rfl⟩

/-- A ready trigger whose condition lets the data of the event through announces its
output on its input. Only the root trigger ends the run. -/
theorem fire_of_opens (serves : worker.Serves net) (member : trigger ∈ net.triggers)
    (ready : worker.isReady trigger = true) (event : Json) {input : Json} (around : Surroundings)
    (opens : Opens trigger.condition? (eventData event))
    (closes : trigger.action = Vocabulary.closeLevel → eventData event = input)
    (takes : trigger.action ≠ Vocabulary.closeLevel →
      (worker.evaluation trigger).input event = input) :
    ∃ lifecycle, (lifecycle = worker.lifecycle ∨ trigger.IsRoot) ∧
      worker.fire trigger.id event around = {
        result := .ok true
        worker := { worker.activate trigger.id with lifecycle }
        around
        outbox := [(EventKey.completion trigger.id).toRaw (trigger.output input)] } := by
  have compiled := serves.compiled trigger member
  have found := serves.get?_triggers member
  have judged := (serves.judges_iff member event around).mpr opens
  obtain ⟨action, terminate, known, ended, done⟩ := compiled.exists_action around
    (fun key listed => serves.get?_evaluation trigger (by
      simp only [List.mem_cons, List.not_mem_nil, or_false] at listed ⊢
      tauto)) closes takes
  rw [← serves.registry] at known
  have performed : (worker.activate trigger.id).evaluate trigger.id trigger event around =
      (worker.activate trigger.id).settle trigger.id trigger
        (action (worker.evaluation trigger) event around) := by
    simp only [evaluate, registry_activate, evaluation_activate, serves.condition_eq member, known,
      judged, Builtins.context_stateCondition, Builtins.around_stateCondition, done]
  refine ⟨if terminate then .finished else worker.lifecycle, ?_, ?_⟩
  · rcases ended with rfl | isRoot
    · exact .inl rfl
    · exact .inr isRoot
  · rw [serves.fire_of_ready member ready, performed, done]
    exact settle_of_data_eq serves.copy compiled.ordered.1 found compiled.persistent rfl

/-- A ready trigger whose condition does not let the data of the event through is counted
and does nothing. -/
theorem fire_of_not_opens (serves : worker.Serves net) (member : trigger ∈ net.triggers)
    (ready : worker.isReady trigger = true) (event : Json) (around : Surroundings)
    (closed : ¬ Opens trigger.condition? (eventData event)) :
    ∃ result, result ≠ .ok true ∧ worker.fire trigger.id event around =
      { result, worker := worker.activate trigger.id, around } := by
  have judged := mt (serves.judges_iff member event around).mp closed
  obtain ⟨action, known⟩ := serves.exists_action member
  rw [serves.fire_of_ready member ready]
  simp only [evaluate, registry_activate, evaluation_activate, serves.condition_eq member, known,
    Builtins.context_stateCondition, Builtins.around_stateCondition]
  cases came : (Builtins.stateCondition (worker.evaluation trigger) event around).result with
  | error cause => exact ⟨.error cause, by simp, rfl⟩
  | ok value =>
      cases value with
      | false => exact ⟨.ok false, by simp, rfl⟩
      | true => exact absurd came judged

end Worker.Serves

end EventFlow
