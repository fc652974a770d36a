import EventFlow.Proofs.Engine.Processing

/-!
# Turns without a firing

A trigger whose evaluation fails, at whatever point, leaves as little behind as one whose
condition does not hold: the evaluation is counted, and whatever the handlers have set, emitted
or asked for is dropped. The other triggers do not notice the difference. Two workers that agree
on all triggers but one, which fires in neither of them, give all others the same turns.
-/

namespace EventFlow

/-- All handlers of a registry act through the evaluation alone. -/
abbrev Registry.Confined (registry : Registry) : Prop :=
  registry.Leaves fun around => around

/-- What it takes for a trigger to be ready: the id under which its evaluations are looked up,
what it waits for, and how it joins. -/
def Trigger.joining (trigger : Trigger) : String × List EventKey × Bool :=
  (trigger.id, trigger.dependencies, Worker.joinsAny trigger)

namespace Worker

/-- Two workers that agree on all triggers but one. That one waits for the same events in both;
its record may name other handlers, and the names may stand for other handlers. -/
structure AlikeBut (id : String) (left right : Worker) : Prop where
  space : left.space = right.space
  lifecycle : left.lifecycle = right.lifecycle
  globalContext : left.globalContext = right.globalContext
  eventSource : left.eventSource = right.eventSource
  sourceEvents : left.sourceEvents = right.sourceEvents
  retired : left.retired = right.retired
  received : left.received = right.received
  activations : left.activations = right.activations
  others : ∀ other, other ≠ id → Dict.get? left.triggers other = Dict.get? right.triggers other
  joining : (Dict.get? left.triggers id).map Trigger.joining =
    (Dict.get? right.triggers id).map Trigger.joining
  handlers : ∀ other trigger, other ≠ id → Dict.get? left.triggers other = some trigger →
    left.registry.condition trigger.condition = right.registry.condition trigger.condition ∧
      left.registry.action trigger.action = right.registry.action trigger.action

/-- Two scenes of such workers with the same surroundings and the same outbox. -/
structure Scene.AlikeBut (id : String) (left right : Scene) : Prop where
  worker : Worker.AlikeBut id left.worker right.worker
  around : left.around = right.around
  outbox : left.outbox = right.outbox

/-- The turns that an event of this key leads to. -/
def turnsAt (worker : Worker) (key : EventKey) (event : Json) (around : Surroundings) : List Turn :=
  turnsIn event (SourceEvents.waiting worker.sourceEvents key.subject)
    { worker := worker.receive key event, around }

/-! ## What is left behind -/

/-- A turn that performs no action leaves nothing behind but its count, and that only if it was
an evaluation. -/
theorem fire_of_not_performed {worker : Worker} (confined : worker.registry.Confined) {id : String}
    {event : Json} {around : Surroundings}
    (unfired : performed (worker.fire id event around).result = false) :
    (worker.fire id event around).worker =
        (if worker.evaluates id then worker.activate id else worker) ∧
      (worker.fire id event around).outbox = [] ∧
      (worker.fire id event around).around = around := by
  rcases worker.turn_cases id event around with
    ⟨idle, fired⟩ | ⟨evaluates, trigger, -, ⟨-, counted, silent, same⟩ | ⟨done, settled, -⟩⟩
  · rw [fired, idle]
    exact ⟨rfl, rfl, rfl⟩
  · rw [evaluates, if_pos rfl]
    exact ⟨counted, silent, same confined⟩
  · rw [settled, ((worker.activate id).settle_eq id trigger done).1] at unfired
    cases unfired

/-! ## Workers that differ in one trigger -/

section Alike

variable {id : String} {left right : Worker}

/-- The same events complete the same triggers. -/
theorem AlikeBut.isReady_eq (alike : AlikeBut id left right) {trigger twin : Trigger}
    (joining : trigger.joining = twin.joining) : left.isReady trigger = right.isReady twin := by
  simp only [Trigger.joining, Prod.mk.injEq] at joining
  obtain ⟨own, dependencies, joins⟩ := joining
  have arrivals : left.arrivals = right.arrivals := by
    funext key
    rw [Worker.arrivals, Worker.arrivals, alike.received]
  have consumed : left.consumed trigger.id = right.consumed twin.id := by
    rw [Worker.consumed, Worker.consumed, alike.activations, own]
  rw [isReady, isReady, available_eq, available_eq, arrivals, consumed, dependencies, joins]

/-- Both workers evaluate the same triggers, also where they differ. -/
theorem AlikeBut.evaluates_eq (alike : AlikeBut id left right) (other : String) :
    left.evaluates other = right.evaluates other := by
  have joining : (Dict.get? left.triggers other).map Trigger.joining =
      (Dict.get? right.triggers other).map Trigger.joining := by
    by_cases same : other = id
    · exact same ▸ alike.joining
    · rw [alike.others other same]
  unfold evaluates
  cases here : Dict.get? left.triggers other with
  | none =>
    rw [here, Option.map_none, eq_comm, Option.map_eq_none_iff] at joining
    rw [joining]
  | some trigger =>
    rw [here, Option.map_some, eq_comm, Option.map_eq_some_iff] at joining
    obtain ⟨twin, there, same⟩ := joining
    rw [there]
    exact alike.isReady_eq same.symm

/-- Both workers show the same to the handlers of a trigger. -/
theorem AlikeBut.evaluation_eq (alike : AlikeBut id left right) (trigger : Trigger) :
    left.evaluation trigger = right.evaluation trigger := by
  have runtime : left.runtimeData trigger = right.runtimeData trigger := by
    simp only [runtimeData, relevantEvents, alike.eventSource, alike.received, alike.sourceEvents]
  rw [evaluation, evaluation, runtime, alike.globalContext]

/-- Counting an evaluation on both sides keeps them alike. -/
theorem AlikeBut.activate (alike : AlikeBut id left right) (other : String) :
    AlikeBut id (left.activate other) (right.activate other) := by
  refine { alike with activations := ?_ }
  simp only [Worker.activate, consumed, alike.activations]

/-- Writing back into the same other trigger keeps both sides alike. -/
theorem AlikeBut.keep (alike : AlikeBut id left right) {other : String} (different : other ≠ id)
    {trigger : Trigger} (found : Dict.get? left.triggers other = some trigger)
    (lifecycle : Lifecycle) (context : Dict Json) :
    AlikeBut id
      { left with lifecycle, triggers := Dict.insert left.triggers other { trigger with context } }
      { right with
        lifecycle, triggers := Dict.insert right.triggers other { trigger with context } } := by
  refine { alike with lifecycle := rfl, others := ?_, joining := ?_, handlers := ?_ }
  · intro name foreign
    rw [Dict.get?_insert, Dict.get?_insert, alike.others name foreign]
  · rw [Dict.get?_insert_of_ne _ _ different, Dict.get?_insert_of_ne _ _ different]
    exact alike.joining
  · intro name held foreign listed
    rw [Dict.get?_insert] at listed
    split at listed
    · cases listed
      exact alike.handlers other trigger different found
    · exact alike.handlers name held foreign listed

/-- Retiring the same trigger keeps both sides alike. -/
theorem AlikeBut.retire (alike : AlikeBut id left right) (trigger : Trigger) :
    AlikeBut id (left.retire trigger) (right.retire trigger) := by
  refine { alike with sourceEvents := ?_, retired := ?_, others := ?_, joining := ?_, handlers := ?_ }
  · simp only [Worker.retire, alike.sourceEvents]
  · simp only [Worker.retire, alike.retired]
  · intro other foreign
    simp only [Worker.retire, Dict.get?_erase, alike.others other foreign]
  · simp only [Worker.retire, Dict.get?_erase]
    split
    · rfl
    · exact alike.joining
  · intro other held foreign listed
    simp only [Worker.retire, Dict.get?_erase] at listed
    split at listed
    · cases listed
    · exact alike.handlers other held foreign listed

/-- Settling the same other trigger does the same on both sides. -/
theorem AlikeBut.settle (alike : AlikeBut id left right) {other : String} (different : other ≠ id)
    {trigger : Trigger} (found : Dict.get? left.triggers other = some trigger)
    (done : Handled Unit) :
    (left.settle other trigger done).result = (right.settle other trigger done).result ∧
      (left.settle other trigger done).around = (right.settle other trigger done).around ∧
      (left.settle other trigger done).outbox = (right.settle other trigger done).outbox ∧
      AlikeBut id (left.settle other trigger done).worker
        (right.settle other trigger done).worker := by
  have there : Dict.get? right.triggers other = some trigger :=
    alike.others other different ▸ found
  have own : right.ownData done.context.data = left.ownData done.context.data := by
    simp only [ownData, alike.globalContext]
  have kept := alike.keep different found
    (if done.context.terminate then .finished else left.lifecycle)
    (Dict.overlay trigger.context (left.ownData done.context.data))
  rw [settle_of_found found, settle_of_found there, own, ← alike.lifecycle]
  dsimp only
  split
  · exact ⟨rfl, by rw [alike.space], rfl, kept.retire trigger⟩
  · exact ⟨rfl, rfl, rfl, kept⟩

/-- Evaluating the same other trigger does the same on both sides. -/
theorem AlikeBut.evaluate (alike : AlikeBut id left right) {other : String} (different : other ≠ id)
    {trigger : Trigger} (found : Dict.get? left.triggers other = some trigger) (event : Json)
    (around : Surroundings) :
    (left.evaluate other trigger event around).result =
        (right.evaluate other trigger event around).result ∧
      (left.evaluate other trigger event around).around =
        (right.evaluate other trigger event around).around ∧
      (left.evaluate other trigger event around).outbox =
        (right.evaluate other trigger event around).outbox ∧
      AlikeBut id (left.evaluate other trigger event around).worker
        (right.evaluate other trigger event around).worker := by
  obtain ⟨condition, action⟩ := alike.handlers other trigger different found
  unfold Worker.evaluate
  rw [← condition, ← action, ← alike.evaluation_eq trigger]
  split
  · exact ⟨rfl, rfl, rfl, alike⟩
  · exact ⟨rfl, rfl, rfl, alike⟩
  · dsimp only
    split
    · exact ⟨rfl, rfl, rfl, alike⟩
    · exact ⟨rfl, rfl, rfl, alike⟩
    · split
      · exact ⟨rfl, rfl, rfl, alike⟩
      · exact alike.settle different found _

/-- The handlers of the same other trigger leave the same on both sides. -/
theorem AlikeBut.handled_eq (alike : AlikeBut id left right) {other : String}
    (different : other ≠ id) {trigger : Trigger}
    (found : Dict.get? left.triggers other = some trigger) (event : Json) (around : Surroundings) :
    left.handled trigger event around = right.handled trigger event around := by
  obtain ⟨condition, action⟩ := alike.handlers other trigger different found
  unfold handled
  rw [← condition, ← action, ← alike.evaluation_eq trigger]

/-- Another trigger has the same turn on both sides, and leaves both sides alike. -/
theorem AlikeBut.fire (alike : AlikeBut id left right) {other : String} (different : other ≠ id)
    (event : Json) (around : Surroundings) :
    left.turnOf other event around = right.turnOf other event around ∧
      (left.fire other event around).around = (right.fire other event around).around ∧
      (left.fire other event around).outbox = (right.fire other event around).outbox ∧
      AlikeBut id (left.fire other event around).worker (right.fire other event around).worker := by
  have there := alike.others other different
  cases found : Dict.get? left.triggers other with
  | none =>
    rw [found] at there
    simp only [turnOf, Worker.fire, found, ← there]
    exact ⟨trivial, trivial, trivial, alike⟩
  | some trigger =>
    rw [found] at there
    simp only [turnOf, Worker.fire, found, ← there, ← alike.isReady_eq (rfl : trigger.joining = _)]
    split
    · have counted := alike.activate other
      obtain ⟨result, behind, outbox, after⟩ := counted.evaluate different found event around
      rw [result, counted.handled_eq different found]
      exact ⟨rfl, behind, outbox, after⟩
    · exact ⟨rfl, rfl, rfl, alike⟩

/-- The turn of the one trigger leaves both sides alike if it fires on neither. -/
theorem AlikeBut.fire_self (alike : AlikeBut id left right) (event : Json) (around : Surroundings)
    (leftConfined : left.registry.Confined) (rightConfined : right.registry.Confined)
    (leftUnfired : performed (left.fire id event around).result = false)
    (rightUnfired : performed (right.fire id event around).result = false) :
    (left.fire id event around).around = (right.fire id event around).around ∧
      (left.fire id event around).outbox = (right.fire id event around).outbox ∧
      AlikeBut id (left.fire id event around).worker (right.fire id event around).worker := by
  obtain ⟨leftWorker, leftOutbox, leftAround⟩ := fire_of_not_performed leftConfined leftUnfired
  obtain ⟨rightWorker, rightOutbox, rightAround⟩ := fire_of_not_performed rightConfined rightUnfired
  rw [leftWorker, leftOutbox, leftAround, rightWorker, rightOutbox, rightAround,
    ← alike.evaluates_eq id]
  refine ⟨rfl, rfl, ?_⟩
  split
  · exact alike.activate id
  · exact alike

end Alike

/-! ## Dispatches that differ in one trigger -/

/-- A trigger does not fire in any of these turns. -/
def NeverFires (id : String) (turns : List Turn) : Prop :=
  ∀ turn ∈ turns, turn.id = id → performed turn.result = false

instance (id : String) (turns : List Turn) : Decidable (NeverFires id turns) :=
  inferInstanceAs (Decidable (∀ turn ∈ turns, turn.id = id → performed turn.result = false))

/-- One turn keeps both scenes alike, if it is the turn of another trigger or performs nothing
on either side. The turn of another trigger is the same on both sides. -/
theorem Scene.AlikeBut.turn {id other : String} {left right : Scene}
    (alike : Scene.AlikeBut id left right) (event : Json)
    (leftConfined : left.worker.registry.Confined)
    (rightConfined : right.worker.registry.Confined)
    (leftUnfired : NeverFires id [left.worker.turnOf other event left.around])
    (rightUnfired : NeverFires id [right.worker.turnOf other event right.around]) :
    (other ≠ id → left.worker.turnOf other event left.around =
        right.worker.turnOf other event right.around) ∧
      Scene.AlikeBut id (Worker.fireAll event [other] left) (Worker.fireAll event [other] right) := by
  obtain ⟨leftWorker, around, outbox⟩ := left
  obtain ⟨rightWorker, rightAround, rightOutbox⟩ := right
  obtain ⟨worker, rfl, rfl⟩ := alike
  by_cases same : other = id
  · subst same
    obtain ⟨behind, emitted, after⟩ := worker.fire_self event around leftConfined rightConfined
      (leftUnfired _ List.mem_cons_self rfl) (rightUnfired _ List.mem_cons_self rfl)
    exact ⟨fun different => absurd rfl different, { after with }, behind,
      congrArg (outbox ++ ·) emitted⟩
  · obtain ⟨turn, behind, emitted, after⟩ := worker.fire same event around
    exact ⟨fun _ => turn, { after with }, behind, congrArg (outbox ++ ·) emitted⟩

/-- Giving the ids of a list their turns keeps both scenes alike, and all turns but those of the
one trigger are the same. -/
theorem Scene.AlikeBut.fireAll {id : String} {left right : Scene}
    (alike : Scene.AlikeBut id left right) (event : Json) (ids : List String)
    (leftConfined : left.worker.registry.Confined)
    (rightConfined : right.worker.registry.Confined)
    (leftUnfired : NeverFires id (turnsIn event ids left))
    (rightUnfired : NeverFires id (turnsIn event ids right)) :
    (turnsIn event ids left).filter (·.id ≠ id) = (turnsIn event ids right).filter (·.id ≠ id) ∧
      Scene.AlikeBut id (Worker.fireAll event ids left) (Worker.fireAll event ids right) := by
  induction ids generalizing left right with
  | nil => exact ⟨rfl, alike⟩
  | cons other rest ih =>
    -- no turn changes the registry, so the handlers are confined at every turn
    have leftSame := (left.worker.steady_fire other event left.around).registry
    have rightSame := (right.worker.steady_fire other event right.around).registry
    obtain ⟨leftFirst, leftRest⟩ := List.forall_mem_cons.mp leftUnfired
    obtain ⟨rightFirst, rightRest⟩ := List.forall_mem_cons.mp rightUnfired
    obtain ⟨turn, next⟩ := alike.turn event leftConfined rightConfined
      (List.forall_mem_singleton.mpr leftFirst) (List.forall_mem_singleton.mpr rightFirst)
    obtain ⟨later, last⟩ := ih next (leftSame ▸ leftConfined) (rightSame ▸ rightConfined)
      leftRest rightRest
    refine ⟨?_, last⟩
    rw [turnsIn, turnsIn, List.filter_cons, List.filter_cons, later]
    by_cases same : other = id
    · simp [turnOf, same]
    · rw [turn same]

/-- A dispatch keeps both workers alike, and all turns but those of the one trigger are the
same. -/
theorem AlikeBut.dispatch {id : String} {left right : Worker} (alike : AlikeBut id left right)
    (key : EventKey) (event : Json) (around : Surroundings) (leftConfined : left.registry.Confined)
    (rightConfined : right.registry.Confined)
    (leftUnfired : NeverFires id (left.turnsAt key event around))
    (rightUnfired : NeverFires id (right.turnsAt key event around)) :
    (left.turnsAt key event around).filter (·.id ≠ id) =
        (right.turnsAt key event around).filter (·.id ≠ id) ∧
      Scene.AlikeBut id (left.dispatch key event around) (right.dispatch key event around) := by
  have received : AlikeBut id (left.receive key event) (right.receive key event) := by
    refine { alike with received := ?_ }
    simp only [receive, alike.received]
  have waiting : (right.receive key event).sourceEvents = (left.receive key event).sourceEvents :=
    alike.sourceEvents.symm
  unfold turnsAt at leftUnfired rightUnfired ⊢
  rw [← alike.sourceEvents] at rightUnfired ⊢
  have start : Scene.AlikeBut id { worker := left.receive key event, around }
      { worker := right.receive key event, around } := ⟨received, rfl, rfl⟩
  obtain ⟨turns, scenes⟩ := start.fireAll event _ leftConfined rightConfined leftUnfired
    rightUnfired
  refine ⟨turns, ?_⟩
  unfold Worker.dispatch
  dsimp only
  rw [waiting]
  cases listed : Dict.get? (left.receive key event).sourceEvents key.subject with
  | none => exact ⟨{ received with }, rfl, rfl⟩
  | some ids =>
    have same : SourceEvents.waiting left.sourceEvents key.subject = ids := by
      rw [SourceEvents.waiting, show Dict.get? left.sourceEvents key.subject = some ids from listed]
      rfl
    rw [same] at scenes
    exact scenes

/-- A turn that ends without a firing, whether it fails or its condition does not hold, changes
nothing but the number of evaluations of its trigger, and that by one if it was an evaluation:
what its handlers have set, emitted or asked for is dropped. So a trigger that does not fire in a
dispatch does not show there. In two workers that agree on all other triggers, these have the
same turns, emit the same events and end with the same contexts. -/
theorem unfired_leaves_no_trace (worker : Worker) (confined : worker.registry.Confined)
    (id : String) (event : Json) (around : Surroundings) :
    (performed (worker.fire id event around).result = false →
        (worker.fire id event around).worker = { worker with
          activations :=
            if worker.evaluates id then
              Dict.insert worker.activations id (worker.consumed id + 1)
            else worker.activations } ∧
        (worker.fire id event around).outbox = [] ∧
        (worker.fire id event around).around = around) ∧
      ∀ (other : Worker) (key : EventKey), AlikeBut id worker other → other.registry.Confined →
        NeverFires id (worker.turnsAt key event around) →
        NeverFires id (other.turnsAt key event around) →
        (worker.turnsAt key event around).filter (·.id ≠ id) =
            (other.turnsAt key event around).filter (·.id ≠ id) ∧
          Scene.AlikeBut id (worker.dispatch key event around)
            (other.dispatch key event around) := by
  constructor
  · intro unfired
    obtain ⟨counted, silent, same⟩ := fire_of_not_performed confined unfired
    refine ⟨?_, silent, same⟩
    rw [counted]
    split <;> rfl
  · intro other key alike otherConfined unfired otherUnfired
    exact alike.dispatch key event around confined otherConfined unfired otherUnfired

/-- A trigger whose condition nobody knows. -/
def strayTrigger : Trigger where
  id := "stray"
  condition := "unheard of"
  action := Vocabulary.pass
  context := []
  dependencies := [⟨"left", "done"⟩]
  transient := false

/-- A trigger whose condition never holds, in place of the stray one. -/
def closedTrigger : Trigger :=
  { strayTrigger with
    condition := Vocabulary.stateCondition
    context := [("Condition", .object [("Or", .array [])])] }

/-- A trigger that announces its completion. -/
def announcingTrigger : Trigger :=
  { strayTrigger with
    id := "announcing"
    condition := Vocabulary.holds
    action := Vocabulary.statePass
    context := [("subject", .string "announcing")] }

/-- A worker with the announcing trigger behind another one. -/
def sharedWorker (first : Trigger) : Worker where
  id := "worker"
  space := "demo"
  lifecycle := .running
  triggers := [("announcing", announcingTrigger), ("stray", first)]
  sourceEvents := [("left", ["stray", "announcing"])]

/-- The event that both wait for. -/
def sharedEvent : Json :=
  EventKey.toRaw ⟨"left", "done"⟩ .null

/-- The stray trigger fails and is counted, and the announcing one behind it emits its event just
as it does behind a trigger whose condition does not hold. -/
theorem sample_leaves_no_trace :
    let failing := sharedWorker strayTrigger
    let closed := sharedWorker closedTrigger
    let received := failing.receive ⟨"left", "done"⟩ sharedEvent
    (received.fire "stray" sharedEvent {}).result.isOk = false ∧
      (received.fire "stray" sharedEvent {}).worker =
        { received with activations := [("stray", 1)] } ∧
      (failing.dispatch ⟨"left", "done"⟩ sharedEvent {}).outbox =
        (closed.dispatch ⟨"left", "done"⟩ sharedEvent {}).outbox ∧
      (failing.dispatch ⟨"left", "done"⟩ sharedEvent {}).outbox.length = 1 := by
  have confined : Registry.builtin.Confined := Registry.keepsJoin_builtin.leaves _
  have alike : AlikeBut "stray" (sharedWorker strayTrigger) (sharedWorker closedTrigger) := by
    refine ⟨rfl, rfl, rfl, rfl, rfl, rfl, rfl, rfl, fun other different => ?_, by decide,
      fun _ _ _ _ => ⟨rfl, rfl⟩⟩
    simp [sharedWorker, Ne.symm different]
  have first := (unfired_leaves_no_trace ((sharedWorker strayTrigger).receive
    ⟨"left", "done"⟩ sharedEvent) confined "stray" sharedEvent {}).1 (by decide +kernel)
  have whole := (unfired_leaves_no_trace (sharedWorker strayTrigger) confined "stray"
    sharedEvent {}).2 (sharedWorker closedTrigger) ⟨"left", "done"⟩ alike confined
    (by decide +kernel) (by decide +kernel)
  exact ⟨by decide +kernel, first.1, whole.2.outbox, by decide +kernel⟩

end Worker

end EventFlow
