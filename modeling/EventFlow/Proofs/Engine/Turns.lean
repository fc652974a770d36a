import EventFlow.Proofs.Engine.Moments
import EventFlow.Proofs.Trigger.Stored

/-!
# Turns

What a turn of a waiting trigger can do to a worker, for any handlers that leave the
stored triggers under their own ids: it counts the evaluation, and it changes the
context of this trigger or takes the trigger out of the working copy, and nothing else
that later turns depend on. The trigger joins as before if the handlers leave that.
-/

namespace EventFlow

namespace Registry

variable {registry : Registry}

/-- A condition that was registered is found under its name, in whichever case, and under all
others what was there. -/
theorem condition_registerCondition (name other : String) (condition : Condition) :
    (registry.registerCondition name condition).condition other =
      if Text.lowercase name = Text.lowercase other then .ok condition
      else registry.condition other := by
  unfold Registry.condition registerCondition
  dsimp only
  rw [Dict.get?_insert]
  by_cases same : Text.lowercase name = Text.lowercase other
  · rw [if_pos same, if_pos same]
  · rw [if_neg same, if_neg same]

/-- An action that was registered is found under its name, in whichever case, and under all
others what was there. -/
theorem action_registerAction (name other : String) (action : Action) :
    (registry.registerAction name action).action other =
      if Text.lowercase name = Text.lowercase other then .ok action
      else registry.action other := by
  unfold Registry.action registerAction
  dsimp only
  rw [Dict.get?_insert]
  by_cases same : Text.lowercase name = Text.lowercase other
  · rw [if_pos same, if_pos same]
  · rw [if_neg same, if_neg same]

/-- What holds of all conditions of a registry holds with another one that was registered
if it holds of that one. -/
theorem forall_registerCondition {property : Condition → Prop} (name : String)
    {condition : Condition} (registered : property condition)
    (known : ∀ other found, registry.condition other = .ok found → property found)
    (other : String) (found : Condition)
    (holds : (registry.registerCondition name condition).condition other = .ok found) :
    property found := by
  rw [condition_registerCondition] at holds
  split at holds
  · cases holds
    exact registered
  · exact known other found holds

/-- What holds of all actions of a registry holds with another one that was registered if
it holds of that one. -/
theorem forall_registerAction {property : Action → Prop} (name : String) {action : Action}
    (registered : property action)
    (known : ∀ other found, registry.action other = .ok found → property found)
    (other : String) (found : Action)
    (holds : (registry.registerAction name action).action other = .ok found) :
    property found := by
  rw [action_registerAction] at holds
  split at holds
  · cases holds
    exact registered
  · exact known other found holds

end Registry

/-- A handler that acts through the evaluation alone and does not set the way of
joining. It leaves a dictionary, with one entry for a name. -/
structure Handler.KeepsJoin {α : Type} (handler : Handler α) : Prop where
  around : ∀ context event around, (handler context event around).around = around
  distinct : ∀ context event around, (Dict.keys context.data).Nodup →
    (Dict.keys (handler context event around).context.data).Nodup
  join : ∀ context event around,
    Dict.get? (handler context event around).context.data Worker.joinKey =
      Dict.get? context.data Worker.joinKey

/-- All handlers of a registry act through the evaluation alone and leave the way of
joining as it is. -/
structure Registry.KeepsJoin (registry : Registry) : Prop where
  conditions : ∀ name condition, registry.condition name = .ok condition → condition.KeepsJoin
  actions : ∀ name action, registry.action name = .ok action → action.KeepsJoin

/-- A handler that does not set the way of joining, whatever it does to its
surroundings. It leaves a dictionary, with one entry for a name. -/
structure Handler.LeavesJoin {α : Type} (handler : Handler α) : Prop where
  distinct : ∀ context event around, (Dict.keys context.data).Nodup →
    (Dict.keys (handler context event around).context.data).Nodup
  join : ∀ context event around,
    Dict.get? (handler context event around).context.data Worker.joinKey =
      Dict.get? context.data Worker.joinKey

/-- All handlers of a registry leave the way of joining as it is. -/
structure Registry.LeavesJoin (registry : Registry) : Prop where
  conditions : ∀ name condition, registry.condition name = .ok condition → condition.LeavesJoin
  actions : ∀ name action, registry.action name = .ok action → action.LeavesJoin

/-- A handler that leaves the triggers of a namespace stored under their own ids. It
may post triggers of its own. -/
def Handler.KeepsKeys {α : Type} (handler : Handler α) (space : String) : Prop :=
  ∀ context event around, around.documents.OwnKeyed space →
    (handler context event around).around.documents.OwnKeyed space

/-- All handlers of a registry leave the triggers of a namespace stored under their own
ids. -/
structure Registry.KeepsKeys (registry : Registry) (space : String) : Prop where
  conditions : ∀ name condition, registry.condition name = .ok condition →
    condition.KeepsKeys space
  actions : ∀ name action, registry.action name = .ok action → action.KeepsKeys space

/-- Another condition that leaves the way of joining can be registered. -/
theorem Registry.LeavesJoin.registerCondition {registry : Registry}
    (leaves : registry.LeavesJoin) (name : String) {condition : Condition}
    (joins : condition.LeavesJoin) : (registry.registerCondition name condition).LeavesJoin where
  conditions := forall_registerCondition name joins leaves.conditions
  actions := leaves.actions

/-- Another condition that leaves the stored triggers under their own ids can be
registered. -/
theorem Registry.KeepsKeys.registerCondition {registry : Registry} {space : String}
    (keeps : registry.KeepsKeys space) (name : String) {condition : Condition}
    (keyed : condition.KeepsKeys space) :
    (registry.registerCondition name condition).KeepsKeys space where
  conditions := forall_registerCondition name keyed keeps.conditions
  actions := keeps.actions

/-- Handlers that act through the evaluation alone leave what is stored. -/
theorem Registry.KeepsJoin.keepsKeys {registry : Registry} (keeps : registry.KeepsJoin)
    (space : String) : registry.KeepsKeys space where
  conditions name condition known context event around keyed := by
    rw [(keeps.conditions name condition known).around]
    exact keyed
  actions name action known context event around keyed := by
    rw [(keeps.actions name action known).around]
    exact keyed

/-- Handlers that act through the evaluation alone leave the way of joining. -/
theorem Registry.KeepsJoin.leavesJoin {registry : Registry} (keeps : registry.KeepsJoin) :
    registry.LeavesJoin where
  conditions name condition known :=
    ⟨(keeps.conditions name condition known).distinct, (keeps.conditions name condition known).join⟩
  actions name action known :=
    ⟨(keeps.actions name action known).distinct, (keeps.actions name action known).join⟩

/-- A handler that leaves a part of its surroundings as it is, whatever else it does. -/
def Handler.Leaves {α β : Type} (handler : Handler α) (part : Surroundings → β) : Prop :=
  ∀ context event around, part (handler context event around).around = part around

/-- All handlers of a registry leave a part of their surroundings as it is. -/
structure Registry.Leaves {β : Type} (registry : Registry) (part : Surroundings → β) : Prop where
  conditions : ∀ name condition, registry.condition name = .ok condition → condition.Leaves part
  actions : ∀ name action, registry.action name = .ok action → action.Leaves part

/-- Handlers that act through the evaluation alone leave every part. -/
theorem Registry.KeepsJoin.leaves {β : Type} {registry : Registry} (keeps : registry.KeepsJoin)
    (part : Surroundings → β) : registry.Leaves part where
  conditions name condition known context event around := by
    rw [(keeps.conditions name condition known).around]
  actions name action known context event around := by
    rw [(keeps.actions name action known).around]

namespace Worker

/-- A turn that is no evaluation changes nothing. -/
theorem fire_of_not_evaluates {worker : Worker} {id : String} (event : Json)
    (around : Surroundings) (idle : worker.evaluates id = false) :
    worker.fire id event around = { result := .ok false, worker, around } := by
  unfold evaluates at idle
  unfold fire
  cases found : Dict.get? worker.triggers id with
  | none => rfl
  | some trigger =>
    rw [found] at idle
    simp [idle]

/-! ## What comes of an evaluation -/

/-- Whether an evaluation has performed the action of its trigger. -/
def performed : Except Failure Bool → Bool
  | .ok performed => performed
  | .error _ => false

/-- The context that the handlers of a trigger leave behind, whatever they come to: the
condition is asked, and the action is started if it holds. -/
def handled (worker : Worker) (trigger : Trigger) (event : Json) (around : Surroundings) :
    Evaluation :=
  match worker.registry.condition trigger.condition, worker.registry.action trigger.action with
  | .ok condition, .ok action =>
    let judged := condition (worker.evaluation trigger) event around
    match judged.result with
    | .ok true => (action judged.context event judged.around).context
    | _ => judged.context
  | _, _ => worker.evaluation trigger

/-- A settled trigger has performed its action, and publishes what the handlers emitted.
The topics and the handlers of the worker are as before. -/
theorem settle_eq (worker : Worker) (id : String) (trigger : Trigger) (done : Handled Unit) :
    performed (worker.settle id trigger done).result = true ∧
      (worker.settle id trigger done).outbox = done.context.outbox ∧
      (worker.settle id trigger done).around.hub = done.around.hub ∧
      (worker.settle id trigger done).worker.registry = worker.registry ∧
      (worker.settle id trigger done).worker.space = worker.space := by
  have written : ∀ (worker : Worker) (data : Dict Json),
      (worker.writeBack id data).registry = worker.registry ∧
        (worker.writeBack id data).space = worker.space := by
    intro worker data
    unfold writeBack
    split <;> exact ⟨rfl, rfl⟩
  unfold settle
  dsimp only
  split <;> split <;> exact ⟨rfl, rfl, rfl, (written _ _).1, (written _ _).2⟩

/-- A settled trigger has got its context, and if it is transient it is retired and deleted
from the documents. -/
theorem settle_of_found {worker : Worker} {id : String} {trigger : Trigger}
    (found : Dict.get? worker.triggers id = some trigger) (done : Handled Unit) :
    worker.settle id trigger done =
      let kept : Worker := { worker with
        lifecycle := if done.context.terminate then .finished else worker.lifecycle
        triggers := Dict.insert worker.triggers id { trigger with
          context := Dict.overlay trigger.context (worker.ownData done.context.data) } }
      if trigger.transient then
        { result := .ok true
          worker := kept.retire trigger
          around := { done.around with
            documents := forget done.around.documents worker.space trigger }
          outbox := done.context.outbox }
      else
        { result := .ok true, worker := kept, around := done.around
          outbox := done.context.outbox } := by
  have ended : (if done.context.terminate then { worker with lifecycle := .finished } else worker) =
      { worker with
        lifecycle := if done.context.terminate then .finished else worker.lifecycle } := by
    split <;> rfl
  have written : ∀ lifecycle, ({ worker with lifecycle } : Worker).writeBack id done.context.data =
      { worker with
        lifecycle
        triggers := Dict.insert worker.triggers id { trigger with
          context := Dict.overlay trigger.context (worker.ownData done.context.data) } } := by
    intro lifecycle
    simp only [writeBack, found]
    rfl
  simp only [settle, ended, written]

/-- A transient trigger that is settled is gone from the working copy and from the
documents; any other one stays with another context. The rest of the working copy is as
before. -/
theorem settle_cases {worker : Worker} {id : String} {trigger : Trigger}
    (own : trigger.id = id) (found : Dict.get? worker.triggers id = some trigger)
    (done : Handled Unit) :
    (∀ other, other ≠ id → Dict.get? (worker.settle id trigger done).worker.triggers other =
        Dict.get? worker.triggers other) ∧
      ((trigger.transient = true ∧
          Dict.get? (worker.settle id trigger done).worker.triggers id = none ∧
          (worker.settle id trigger done).around.documents =
            forget done.around.documents worker.space trigger) ∨
        (trigger.transient = false ∧
          (∃ context, Dict.get? (worker.settle id trigger done).worker.triggers id =
            some { trigger with context }) ∧
          (worker.settle id trigger done).around.documents = done.around.documents)) := by
  subst own
  rw [settle_of_found found]
  dsimp only
  split
  · rename_i transient
    refine ⟨fun other different => ?_, .inl ⟨transient, ?_, rfl⟩⟩
    · simp [retire, Dict.get?_erase, Dict.get?_insert_of_ne _ _ different.symm, different.symm]
    · simp [retire, Dict.get?_erase]
  · rename_i persistent
    exact ⟨fun other different => Dict.get?_insert_of_ne _ _ different.symm,
      .inr ⟨by simpa using persistent, ⟨_, Dict.get?_insert_self _ _ _⟩, rfl⟩⟩

/-- An evaluation performs the action and settles its trigger with what the handlers left,
or it changes nothing of the worker and publishes nothing. -/
theorem evaluate_performed_or (worker : Worker) (id : String) (trigger : Trigger) (event : Json)
    (around : Surroundings) :
    (∃ done, worker.evaluate id trigger event around = worker.settle id trigger done ∧
        done.context = worker.handled trigger event around ∧
        ∀ {β : Type} {part : Surroundings → β}, worker.registry.Leaves part →
          part done.around = part around) ∨
      (performed (worker.evaluate id trigger event around).result = false ∧
        (worker.evaluate id trigger event around).worker = worker ∧
        (worker.evaluate id trigger event around).outbox = [] ∧
        ∀ {β : Type} {part : Surroundings → β}, worker.registry.Leaves part →
          part (worker.evaluate id trigger event around).around = part around) := by
  unfold evaluate handled
  split
  · exact .inr ⟨rfl, rfl, rfl, fun _ => rfl⟩
  · exact .inr ⟨rfl, rfl, rfl, fun _ => rfl⟩
  · rename_i condition action knownCondition knownAction
    simp only [knownCondition, knownAction]
    split
    · exact .inr ⟨rfl, rfl, rfl, fun leaves => leaves.conditions _ _ knownCondition _ _ _⟩
    · exact .inr ⟨rfl, rfl, rfl, fun leaves => leaves.conditions _ _ knownCondition _ _ _⟩
    · rename_i holds
      split
      · exact .inr ⟨rfl, rfl, rfl, fun leaves =>
          (leaves.actions _ _ knownAction _ _ _).trans
            (leaves.conditions _ _ knownCondition _ _ _)⟩
      · exact .inl ⟨_, rfl, by simp only [holds], fun leaves =>
          (leaves.actions _ _ knownAction _ _ _).trans
            (leaves.conditions _ _ knownCondition _ _ _)⟩

/-- A turn of any worker is no evaluation and changes nothing; or it is an evaluation that is
only counted; or the evaluation has performed the action of its trigger, which is settled with
what the handlers left. -/
theorem turn_cases (worker : Worker) (id : String) (event : Json) (around : Surroundings) :
    (worker.evaluates id = false ∧
        worker.fire id event around = { result := .ok false, worker, around }) ∨
      (worker.evaluates id = true ∧ ∃ trigger, Dict.get? worker.triggers id = some trigger ∧
        ((performed (worker.fire id event around).result = false ∧
            (worker.fire id event around).worker = worker.activate id ∧
            (worker.fire id event around).outbox = [] ∧
            ∀ {β : Type} {part : Surroundings → β}, worker.registry.Leaves part →
              part (worker.fire id event around).around = part around) ∨
          ∃ done, worker.fire id event around = (worker.activate id).settle id trigger done ∧
            done.context = worker.handled trigger event around ∧
            ∀ {β : Type} {part : Surroundings → β}, worker.registry.Leaves part →
              part done.around = part around)) := by
  cases evaluates : worker.evaluates id with
  | false => exact .inl ⟨rfl, fire_of_not_evaluates event around evaluates⟩
  | true =>
    refine .inr ⟨rfl, ?_⟩
    unfold Worker.evaluates at evaluates
    cases found : Dict.get? worker.triggers id with
    | none =>
      rw [found] at evaluates
      cases evaluates
    | some trigger =>
      rw [found] at evaluates
      have fired : worker.fire id event around =
          (worker.activate id).evaluate id trigger event around := by
        simp only [fire, found]
        exact if_pos evaluates
      rw [fired]
      exact ⟨trigger, rfl, ((worker.activate id).evaluate_performed_or id trigger event around).symm⟩

/-- A worker that differs from another one at most in what turns are about: its life, its
working copy with the index, and what it remembers of its triggers. -/
structure Steady (worker after : Worker) : Prop where
  space : after.space = worker.space
  registry : after.registry = worker.registry
  globalContext : after.globalContext = worker.globalContext
  eventSource : after.eventSource = worker.eventSource
  received : after.received = worker.received
  tally : after.tally = worker.tally

/-- Settling a trigger is about the trigger alone. -/
theorem steady_settle (worker : Worker) (id : String) (trigger : Trigger) (done : Handled Unit) :
    Steady worker (worker.settle id trigger done).worker := by
  have written : ∀ (worker : Worker) (data : Dict Json),
      Steady worker (worker.writeBack id data) := by
    intro worker data
    unfold writeBack
    split <;> exact ⟨rfl, rfl, rfl, rfl, rfl, rfl⟩
  have ended : Steady worker
      ((if done.context.terminate then { worker with lifecycle := .finished }
        else worker).writeBack id done.context.data) := by
    split <;> exact { written _ _ with }
  unfold settle
  dsimp only
  split <;> exact { ended with }

/-- A turn is about its trigger alone. -/
theorem steady_fire (worker : Worker) (id : String) (event : Json) (around : Surroundings) :
    Steady worker (worker.fire id event around).worker := by
  rcases worker.turn_cases id event around with
    ⟨-, fired⟩ | ⟨-, trigger, -, ⟨-, counted, -⟩ | ⟨done, settled, -⟩⟩
  · rw [fired]
    exact ⟨rfl, rfl, rfl, rfl, rfl, rfl⟩
  · rw [counted]
    exact ⟨rfl, rfl, rfl, rfl, rfl, rfl⟩
  · rw [settled]
    exact { (worker.activate id).steady_settle id trigger done with }

/-- The worker after an evaluation of a trigger: what other triggers see of it is
unchanged, and the trigger has stayed with another context or has been retired. -/
structure Evaluated (worker : Worker) (id : String) (trigger : Trigger) (after : Worker) :
    Prop where
  space : after.space = worker.space
  registry : after.registry = worker.registry
  received : after.received = worker.received
  activations : after.activations = (worker.activate id).activations
  others : ∀ other, other ≠ id → Dict.get? after.triggers other = Dict.get? worker.triggers other
  outcome :
    (∃ context, Dict.get? after.triggers id = some { trigger with context } ∧
        Dict.Ascending context ∧
        (worker.registry.LeavesJoin →
          Dict.get? context joinKey = Dict.get? trigger.context joinKey) ∧
        after.sourceEvents = worker.sourceEvents ∧ after.retired = worker.retired) ∨
      (Dict.get? after.triggers id = none ∧
        after.sourceEvents = SourceEvents.remove worker.sourceEvents trigger ∧
        after.retired = id :: worker.retired)

section Evaluation

variable {worker : Worker} {id : String} {trigger : Trigger}

/-- A trigger that is in the working copy after an evaluation was there before, if it
is the evaluated one with another context. It joins in the same way if the handlers
leave that. -/
theorem Evaluated.get?_cases {after : Worker} (change : Evaluated worker id trigger after)
    {other : String} {held : Trigger} (found : Dict.get? after.triggers other = some held) :
    (other ≠ id ∧ Dict.get? worker.triggers other = some held) ∨
      (other = id ∧ ∃ context, held = { trigger with context } ∧ Dict.Ascending context ∧
        (worker.registry.LeavesJoin → joinsAny held = joinsAny trigger) ∧
        after.sourceEvents = worker.sourceEvents) := by
  by_cases same : other = id
  · right
    refine ⟨same, ?_⟩
    subst same
    rcases change.outcome with ⟨context, kept, ordered, join, index, _⟩ | ⟨gone, _⟩
    · rw [kept] at found
      cases found
      exact ⟨context, rfl, ordered, fun leaves => by simp only [joinsAny, join leaves], index⟩
    · rw [gone] at found
      cases found
  · exact .inl ⟨same, change.others other same ▸ found⟩

/-- An evaluation that is only counted. -/
theorem Evaluated.counted (found : Dict.get? worker.triggers id = some trigger)
    (ordered : Dict.Ascending trigger.context) :
    Evaluated worker id trigger (worker.activate id) where
  space := rfl
  registry := rfl
  received := rfl
  activations := rfl
  others _ _ := rfl
  outcome := .inl ⟨trigger.context, found, ordered, fun _ => rfl, rfl, rfl⟩

/-- What the worker adds to an evaluation has keys of the running worker. -/
theorem mem_runtimeKeys {key : String} (member : key ∈ Dict.keys (worker.runtimeData trigger)) :
    key ∈ Evaluation.runtimeKeys := by
  obtain ⟨entry, listed, rfl⟩ := List.mem_map.mp member
  rcases List.mem_append.mp (Dict.mem_ofList listed) with source | own
  · split at source
    · rw [List.mem_singleton.mp source]
      simp [Evaluation.runtimeKeys]
    · exact absurd source List.not_mem_nil
  · simp only [List.mem_cons, List.not_mem_nil, or_false] at own
    rcases own with rfl | rfl | rfl | rfl | rfl <;> simp [Evaluation.runtimeKeys]

/-- An evaluation shows what the trigger's own context has under a name, unless the
global context has that name or the worker sets it. -/
theorem get?_evaluation (trigger : Trigger) {key : String}
    (own : Dict.contains worker.globalContext key = false)
    (plain : key ∉ Evaluation.runtimeKeys) :
    Dict.get? (worker.evaluation trigger).data key = Dict.get? trigger.context key := by
  have notGlobal : key ∉ Dict.keys worker.globalContext := by
    rw [← Dict.get?_eq_none_iff]
    simpa [Dict.contains] using own
  have notRuntime : key ∉ Dict.keys (worker.runtimeData trigger) := fun member =>
    plain (mem_runtimeKeys member)
  simp only [evaluation, Dict.get?_overlay_of_not_mem notRuntime,
    Dict.get?_overlay_of_not_mem notGlobal]

/-- Names under which the contexts of triggers are not written: those of the running worker
and those of the global context. -/
def reserves (worker : Worker) (key : String) : Bool :=
  Evaluation.runtimeKeys.contains key || Dict.contains worker.globalContext key

/-- What is written back over a context are the values of the names that are not reserved. -/
theorem get?_written {data : Dict Json} (distinct : (Dict.keys data).Nodup) (context : Dict Json)
    (key : String) :
    Dict.get? (Dict.overlay context (worker.ownData data)) key =
      if worker.reserves key then Dict.get? context key
      else (Dict.get? data key).or (Dict.get? context key) := by
  have own : Dict.get? (worker.ownData data) key =
      if !worker.reserves key then Dict.get? data key else none :=
    Dict.get?_filter (fun name => !worker.reserves name) data key
  have ownDistinct : (Dict.keys (worker.ownData data)).Nodup :=
    distinct.sublist (List.Sublist.map Prod.fst List.filter_sublist)
  rw [Dict.get?_overlay ownDistinct, own]
  cases worker.reserves key <;> rfl

/-- What an evaluation left is written back without touching the way of joining. -/
theorem get?_overlay_ownData {data : Dict Json} (distinct : (Dict.keys data).Nodup)
    (join : Dict.get? data joinKey = Dict.get? (worker.evaluation trigger).data joinKey) :
    Dict.get? (Dict.overlay trigger.context (worker.ownData data)) joinKey =
      Dict.get? trigger.context joinKey := by
  have plain : Evaluation.runtimeKeys.contains joinKey = false := by decide
  rw [get?_written distinct, reserves, plain, Bool.false_or]
  split
  · rfl
  · rename_i notGlobal
    rw [join, get?_evaluation trigger (by simpa using notGlobal) (by decide), Option.or_self]

/-- A trigger whose action was performed has stayed with what was written back, or
has been retired. -/
theorem Evaluated.settle {done : Handled Unit}
    (found : Dict.get? worker.triggers id = some trigger) (own : trigger.id = id)
    (ordered : Dict.Ascending trigger.context)
    (leaves : worker.registry.LeavesJoin → (Dict.keys done.context.data).Nodup ∧
      Dict.get? done.context.data joinKey =
        Dict.get? (worker.evaluation trigger).data joinKey) :
    Evaluated worker id trigger ((worker.activate id).settle id trigger done).worker := by
  have known : Dict.get? (worker.activate id).triggers id = some trigger := found
  obtain ⟨others, -⟩ := settle_cases own known done
  subst own
  rw [settle_of_found known] at others ⊢
  dsimp only at others ⊢
  split at others
  · rename_i transient
    rw [if_pos transient]
    refine ⟨rfl, rfl, rfl, rfl, others, .inr ⟨?_, rfl, rfl⟩⟩
    simp [retire, Dict.get?_erase]
  · rename_i persistent
    rw [if_neg persistent]
    exact ⟨rfl, rfl, rfl, rfl, others, .inl ⟨_, Dict.get?_insert_self _ _ _, ordered.overlay _,
      fun left => get?_overlay_ownData (leaves left).1 (leaves left).2, rfl, rfl⟩⟩

/-- An evaluation changes nothing of the worker or settles its trigger, in surroundings
that the handlers may have changed. The data keeps the way of joining if the handlers
leave that. -/
theorem evaluate_cases (worker : Worker) {space : String}
    (keeps : worker.registry.KeepsKeys space)
    (ordered : Dict.Ascending trigger.context) (event : Json) (around : Surroundings) :
    ((worker.evaluate id trigger event around).worker = worker ∧
        (around.documents.OwnKeyed space →
          (worker.evaluate id trigger event around).around.documents.OwnKeyed space)) ∨
      ∃ done : Handled Unit, worker.evaluate id trigger event around =
          worker.settle id trigger done ∧
        (around.documents.OwnKeyed space → done.around.documents.OwnKeyed space) ∧
        (worker.registry.LeavesJoin → (Dict.keys done.context.data).Nodup ∧
          Dict.get? done.context.data joinKey =
            Dict.get? (worker.evaluation trigger).data joinKey) := by
  have distinct : (Dict.keys (worker.evaluation trigger).data).Nodup :=
    ((ordered.overlay _).overlay _).nodup
  unfold evaluate
  split
  · exact .inl ⟨rfl, fun keyed => keyed⟩
  · exact .inl ⟨rfl, fun keyed => keyed⟩
  · rename_i condition action knownCondition knownAction
    have judges := keeps.conditions _ _ knownCondition
    have acts := keeps.actions _ _ knownAction
    dsimp only
    split
    · exact .inl ⟨rfl, judges _ _ _⟩
    · exact .inl ⟨rfl, judges _ _ _⟩
    · split
      · exact .inl ⟨rfl, fun keyed => acts _ _ _ (judges _ _ _ keyed)⟩
      · refine .inr ⟨_, rfl, fun keyed => acts _ _ _ (judges _ _ _ keyed), fun leaves => ?_⟩
        have judged := leaves.conditions _ _ knownCondition
        have acted := leaves.actions _ _ knownAction
        exact ⟨acted.distinct _ _ _ (judged.distinct _ _ _ distinct),
          (acted.join _ _ _).trans (judged.join _ _ _)⟩

/-- A settled trigger leaves the stored triggers under their own ids. -/
theorem ownKeyed_settle (worker : Worker) {done : Handled Unit}
    (keyed : done.around.documents.OwnKeyed worker.space) :
    (worker.settle id trigger done).around.documents.OwnKeyed worker.space := by
  have space : ∀ lifecycle, (({ worker with lifecycle }).writeBack id done.context.data).space =
      worker.space := by
    intro lifecycle
    unfold writeBack
    split <;> rfl
  unfold settle
  split
  · split
    · simpa only [space] using keyed.forget trigger
    · exact keyed
  · split
    · simpa only [space worker.lifecycle] using keyed.forget trigger
    · exact keyed

end Evaluation

/-- A turn either is no evaluation and changes nothing, or it is an evaluation of a
trigger in the working copy that was ready. -/
theorem fire_cases {worker : Worker} (keeps : worker.registry.KeepsKeys worker.space)
    (own : ∀ id trigger, Dict.get? worker.triggers id = some trigger → trigger.id = id)
    (ordered : ∀ id trigger, Dict.get? worker.triggers id = some trigger →
      Dict.Ascending trigger.context)
    (id : String) (event : Json) (around : Surroundings) :
    (worker.evaluates id = false ∧
        worker.fire id event around = { result := .ok false, worker, around }) ∨
      (worker.evaluates id = true ∧ ∃ trigger, Dict.get? worker.triggers id = some trigger ∧
        worker.isReady trigger = true ∧
        Evaluated worker id trigger (worker.fire id event around).worker ∧
        (around.documents.OwnKeyed worker.space →
          (worker.fire id event around).around.documents.OwnKeyed worker.space)) := by
  cases evaluates : worker.evaluates id with
  | false => exact .inl ⟨rfl, fire_of_not_evaluates event around evaluates⟩
  | true =>
    right
    refine ⟨rfl, ?_⟩
    unfold Worker.evaluates at evaluates
    cases found : Dict.get? worker.triggers id with
    | none =>
      rw [found] at evaluates
      cases evaluates
    | some trigger =>
      rw [found] at evaluates
      have fired : worker.fire id event around =
          (worker.activate id).evaluate id trigger event around := by
        simp only [fire, found]
        exact if_pos evaluates
      refine ⟨trigger, rfl, evaluates, ?_⟩
      rw [fired]
      rcases evaluate_cases (worker.activate id) keeps (ordered id trigger found)
        event around with ⟨same, keyed⟩ | ⟨done, settled, keyed, leaves⟩
      · rw [same]
        exact ⟨.counted found (ordered id trigger found), keyed⟩
      · rw [settled]
        exact ⟨.settle found (own id trigger found) (ordered id trigger found) leaves,
          fun before => ownKeyed_settle (worker.activate id) (keyed before)⟩

end Worker

end EventFlow
