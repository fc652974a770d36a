import Mathlib.Logic.Relation
import EventFlow.Proofs.Engine.Arrivals
import EventFlow.Proofs.Trigger.Stored

/-!
# Moments

The life of a worker is a sequence of small steps: others change the documents, the
worker refreshes its working copy, it passes over a record or receives the event of
one, and it gives the ids that wait for this event their turns, one after the
other. A history runs along that knows nothing of the worker's own counters: which
events were received, and which triggers were evaluated with what result. Every run
of a worker is made of such steps.
-/

namespace EventFlow

/-- The event of a record that holds one, with its key. -/
def Record.event? (record : Record) : Option (EventKey × Json) :=
  match record.json with
  | .error _ => none
  | .ok event => (EventKey.ofRaw? event).map fun key => (key, event)

/-- The event of a record comes with its own key. -/
theorem Record.ofRaw?_of_event? {record : Record} {key : EventKey} {event : Json}
    (holds : record.event? = some (key, event)) : EventKey.ofRaw? event = some key := by
  unfold Record.event? at holds
  split at holds
  · cases holds
  · obtain ⟨_, found, equal⟩ := Option.map_eq_some_iff.mp holds
    cases equal
    exact found

/-- Whether a turn of this id is an evaluation: the trigger is in the working copy
and ready. -/
def Worker.evaluates (worker : Worker) (id : String) : Bool :=
  match Dict.get? worker.triggers id with
  | none => false
  | some trigger => worker.isReady trigger

/-- A worker that was just created: it has no triggers and remembers nothing. -/
structure Worker.IsNew (worker : Worker) : Prop where
  triggers : worker.triggers = []
  retired : worker.retired = []
  received : worker.received = []
  activations : worker.activations = []

/-- A worker in its surroundings between two turns, with its history. -/
structure Moment where
  worker : Worker
  around : Surroundings
  /-- The event that was received last. -/
  event : Json := .null
  /-- The ids that have yet to get their turn on it. -/
  pending : List String := []
  /-- All events received so far. -/
  received : List Json := []
  /-- All evaluations so far: the id of the trigger and what came of it. -/
  evaluated : List (String × Except Failure Bool) := []

namespace Moment

/-- The moment behind the bootstrap of a worker. -/
def boot (worker : Worker) (around : Surroundings) : Moment where
  worker := (worker.bootstrap around.documents).2
  around

/-- Receive an event of this key. -/
def receive (moment : Moment) (key : EventKey) (event : Json) : Moment :=
  let worker := moment.worker.countRecord.receive key event
  { moment with
    worker :=
      if Dict.contains worker.sourceEvents key.subject then worker else worker.countUnexpected
    event
    pending := SourceEvents.waiting worker.sourceEvents key.subject
    received := moment.received ++ [event] }

/-- Give an id its turn; the rest have to wait. -/
def turn (moment : Moment) (id : String) (rest : List String) : Moment :=
  let firing := moment.worker.fire id moment.event moment.around
  { moment with
    worker := { firing.worker with tally := Worker.count firing.worker.tally firing.result }
    around := firing.around
    pending := rest
    evaluated :=
      if moment.worker.evaluates id then moment.evaluated ++ [(id, firing.result)]
      else moment.evaluated }

/-- One step in the life of a worker. -/
inductive Step : Moment → Moment → Prop where
  /-- The surroundings change, with triggers still stored under their own ids. -/
  | change {moment : Moment} {around : Surroundings}
      (keyed : moment.around.documents.OwnKeyed moment.worker.space →
        around.documents.OwnKeyed moment.worker.space) :
      Step moment { moment with around }
  /-- The working copy is refreshed between two records. -/
  | refresh {moment : Moment} (idle : moment.pending = []) :
      Step moment { moment with
        worker := (moment.worker.refresh moment.around.documents).2 }
  /-- A record that holds no event is passed over. -/
  | skip {moment : Moment} {record : Record} (idle : moment.pending = [])
      (nothing : record.event? = none) :
      Step moment { moment with worker := moment.worker.countRecord }
  /-- The event of a record is received. -/
  | receive {moment : Moment} {record : Record} {key : EventKey} {event : Json}
      (idle : moment.pending = []) (holds : record.event? = some (key, event)) :
      Step moment (moment.receive key event)
  /-- The first of the waiting ids gets its turn. -/
  | turn {moment : Moment} {id : String} {rest : List String}
      (next : moment.pending = id :: rest) :
      Step moment (moment.turn id rest)

/-- Any number of steps. -/
abbrev Steps : Moment → Moment → Prop :=
  Relation.ReflTransGen Step

/-! ## The history -/

/-- How many received events match a key in subject and type. -/
def arrivals (moment : Moment) (key : EventKey) : Nat :=
  moment.received.countP key.isKeyOf

/-- How often a trigger was evaluated. -/
def evaluations (moment : Moment) (id : String) : Nat :=
  (moment.evaluated.map Prod.fst).count id

/-- How often all of these keys have arrived: as often as the rarest of them, and
never if there are none. -/
def complete (moment : Moment) (dependencies : List EventKey) : Nat :=
  (dependencies.map moment.arrivals).min?.getD 0

/-- How often the dependencies of a trigger have been complete, by the history. -/
def completions (moment : Moment) (trigger : Trigger) : Nat :=
  Worker.completions (Worker.joinsAny trigger) trigger.dependencies moment.arrivals

/-! ## Runs are made of steps -/

/-- Giving the ids of a list their turns is made of steps. -/
theorem steps_fireAll (event : Json) (ids : List String) (scene : Worker.Scene)
    (moment : Moment) (worker : moment.worker = scene.worker)
    (around : moment.around = scene.around) (same : moment.event = event)
    (pending : moment.pending = ids) :
    ∃ next, Steps moment next ∧ next.worker = (Worker.fireAll event ids scene).worker ∧
      next.around = (Worker.fireAll event ids scene).around ∧ next.pending = [] := by
  induction ids generalizing scene moment with
  | nil => exact ⟨moment, .refl, worker, around, pending⟩
  | cons id rest ih =>
    have step : Step moment (moment.turn id rest) := .turn pending
    obtain ⟨next, steps, done⟩ := ih {
        worker := { (scene.worker.fire id event scene.around).worker with
          tally := Worker.count (scene.worker.fire id event scene.around).worker.tally
            (scene.worker.fire id event scene.around).result }
        around := (scene.worker.fire id event scene.around).around
        outbox := scene.outbox ++ (scene.worker.fire id event scene.around).outbox }
      (moment.turn id rest) (by simp only [turn, worker, around, same])
      (by simp only [turn, worker, around, same]) same rfl
    exact ⟨next, .head step steps, done⟩

/-- Consuming a record that holds no event is counting it. -/
theorem consume_of_event?_eq_none {worker : Worker} {record : Record} (around : Surroundings)
    (nothing : record.event? = none) :
    worker.consume record around = { worker := worker.countRecord, around } := by
  unfold Record.event? at nothing
  unfold Worker.consume
  split at nothing
  · simp [*]
  · rw [Option.map_eq_none_iff] at nothing
    simp [*]

/-- Consuming a record that holds an event is receiving the event and giving all that
wait for its subject their turns. -/
theorem consume_of_event?_eq_some {moment : Moment} {record : Record} {key : EventKey}
    {event : Json} (holds : record.event? = some (key, event)) :
    moment.worker.consume record moment.around =
      Worker.fireAll event (moment.receive key event).pending
        { worker := (moment.receive key event).worker, around := moment.around } := by
  have dispatched : moment.worker.consume record moment.around =
      moment.worker.countRecord.dispatch key event moment.around := by
    unfold Record.event? at holds
    unfold Worker.consume
    split at holds
    · cases holds
    · obtain ⟨_, keyed, equal⟩ := Option.map_eq_some_iff.mp holds
      cases equal
      simp [*]
  rw [dispatched]
  unfold Worker.dispatch receive SourceEvents.waiting Dict.contains
  dsimp only
  cases Dict.get? (moment.worker.countRecord.receive key event).sourceEvents key.subject <;> rfl

/-- Processing a record is made of steps. -/
theorem steps_process (topic : String) (record : Record) {moment : Moment}
    (idle : moment.pending = []) :
    ∃ next, Steps moment next ∧
      next.worker = (moment.worker.process topic record moment.around).1 ∧
      next.around = (moment.worker.process topic record moment.around).2 ∧ next.pending = [] := by
  have consumed : ∃ next, Steps moment next ∧
      next.worker = (moment.worker.consume record moment.around).worker ∧
      next.around = (moment.worker.consume record moment.around).around ∧ next.pending = [] := by
    cases holds : record.event? with
    | none =>
      rw [consume_of_event?_eq_none moment.around holds]
      exact ⟨_, .single (.skip idle holds), rfl, rfl, idle⟩
    | some found =>
      obtain ⟨key, event⟩ := found
      rw [consume_of_event?_eq_some holds]
      obtain ⟨next, steps, done⟩ := steps_fireAll event (moment.receive key event).pending
        { worker := (moment.receive key event).worker, around := moment.around }
        (moment.receive key event) rfl rfl rfl rfl
      exact ⟨next, .head (.receive idle holds) steps, done⟩
  obtain ⟨next, steps, worker, around, done⟩ := consumed
  have published : Step next { next with
      around := (moment.worker.process topic record moment.around).2 } := by
    refine .change fun keyed => ?_
    rw [around] at keyed
    exact keyed
  exact ⟨_, steps.tail published, worker, rfl, done⟩

/-- A refresh that is due is a step. -/
theorem steps_refreshed {run : Worker.Running} {moment : Moment} (idle : moment.pending = [])
    (worker : moment.worker = run.worker) (around : moment.around = run.around) :
    ∃ next, Steps moment next ∧ next.worker = run.refreshed.worker ∧
      next.around = run.refreshed.around ∧ next.pending = [] := by
  unfold Worker.Running.refreshed
  dsimp only
  split
  · refine ⟨_, .single (.refresh idle), ?_, around, idle⟩
    rw [worker, around]
  · exact ⟨moment, .refl, worker, around, idle⟩

/-- A poll is made of steps. -/
theorem steps_poll {run : Worker.Running} {moment : Moment} (idle : moment.pending = [])
    (worker : moment.worker = run.worker) (around : moment.around = run.around) :
    ∃ next, Steps moment next ∧ next.worker = run.poll.1.worker ∧
      next.around = run.poll.1.around ∧ next.pending = [] := by
  unfold Worker.Running.poll
  split
  · rename_i record cursor _
    obtain ⟨next, steps, done⟩ := steps_process cursor.topic record idle
    rw [worker, around] at done
    exact ⟨next, steps, done⟩
  · exact ⟨moment, .refl, worker, around, idle⟩

/-- A run to its end is made of steps. -/
theorem steps_toEnd {fuel : Nat} {run ended : Worker.Running} {moment : Moment}
    (idle : moment.pending = []) (worker : moment.worker = run.worker)
    (around : moment.around = run.around) (ends : run.toEnd fuel = some ended) :
    ∃ next, Steps moment next ∧ next.worker = ended.worker ∧ next.around = ended.around ∧
      next.pending = [] := by
  induction fuel generalizing run moment with
  | zero => cases ends
  | succ fuel ih =>
    unfold Worker.Running.toEnd at ends
    split at ends
    · cases ends
      exact ⟨moment, .refl, worker, around, idle⟩
    · obtain ⟨middle, refreshing, middleWorker, middleAround, middleIdle⟩ :=
        steps_refreshed idle worker around
      obtain ⟨polled, polling, polledWorker, polledAround, polledIdle⟩ :=
        steps_poll middleIdle middleWorker middleAround
      split at ends
      · rename_i after poll
        rw [poll] at polledWorker polledAround
        obtain ⟨next, steps, done⟩ := ih polledIdle polledWorker polledAround ends
        exact ⟨next, refreshing.trans (polling.trans steps), done⟩
      · rename_i after poll
        rw [poll] at polledWorker polledAround
        cases ends
        exact ⟨polled, refreshing.trans polling, polledWorker, polledAround, polledIdle⟩

/-- What a worker comes to is reached by steps from its bootstrap. -/
theorem steps_start {worker : Worker} {around : Surroundings} {fuel : Nat}
    {outcome : Worker.Outcome} (ends : worker.start fuel around = some outcome) :
    ∃ next, Steps (boot worker around) next ∧ next.worker = outcome.worker ∧
      next.around = outcome.around ∧ next.pending = [] := by
  unfold Worker.start at ends
  dsimp only at ends
  split at ends
  · cases ends
    exact ⟨_, .refl, rfl, rfl, rfl⟩
  · split at ends
    · cases ends
      exact ⟨_, .refl, rfl, rfl, rfl⟩
    · obtain ⟨run, ended, equal⟩ := Option.map_eq_some_iff.mp ends
      cases equal
      exact steps_toEnd rfl rfl rfl ended

end Moment

end EventFlow
