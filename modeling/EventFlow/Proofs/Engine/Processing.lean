import EventFlow.Proofs.Engine.Booting
import EventFlow.Proofs.Engine.Builtins

/-!
# Processing a topic

A worker reads the topic that it also publishes to. Every record that it polls is
processed to its end before the next one: the turns are played, what the triggers that
have fired emitted is appended to the log, and the record is marked as processed. The
position of the cursor, the committed offset and the number of processed records go in
step, whatever the records hold and whatever becomes of the handlers, as long as nobody
else writes to the topic.
-/

namespace EventFlow

/-- All handlers of a registry leave a topic as it is. -/
abbrev Registry.LeavesTopic (registry : Registry) (topic : String) : Prop :=
  registry.Leaves fun around => around.hub.topic topic

namespace Worker

/-! ## Turns -/

/-- The turn of an id: what came of it, and the events that the handlers have emitted,
whether or not the trigger fired. -/
structure Turn where
  id : String
  result : Except Failure Bool
  emitted : List Json

/-- What is published of a turn: what was emitted, if the action was performed. -/
def Turn.published (turn : Turn) : List Json :=
  if performed turn.result then turn.emitted else []

/-- The turn of an id. Nothing is emitted if its trigger is not evaluated. -/
def turnOf (worker : Worker) (id : String) (event : Json) (around : Surroundings) : Turn where
  id := id
  result := (worker.fire id event around).result
  emitted :=
    match Dict.get? worker.triggers id with
    | none => []
    | some trigger =>
      if worker.isReady trigger then
        ((worker.activate id).handled trigger event around).outbox
      else []

/-- The turns of a list of ids, in their order. -/
def turnsIn (event : Json) : List String → Scene → List Turn
  | [], _ => []
  | id :: rest, scene =>
    scene.worker.turnOf id event scene.around :: turnsIn event rest (fireAll event [id] scene)

/-- The turns on a record. There are none if it holds no event or nobody waits for it. -/
def turnsOn (worker : Worker) (record : Record) (around : Surroundings) : List Turn :=
  match record.event? with
  | none => []
  | some (key, event) =>
    let moment := Moment.receive { worker, around } key event
    turnsIn event moment.pending { worker := moment.worker, around }

section Turns

variable {worker : Worker} {topic : String}

/-- A turn leaves a topic that the handlers leave. -/
theorem topic_fire (leaves : worker.registry.LeavesTopic topic) (id : String) (event : Json)
    (around : Surroundings) :
    (worker.fire id event around).around.hub.topic topic = around.hub.topic topic := by
  rcases worker.turn_cases id event around with
    ⟨-, fired⟩ | ⟨-, trigger, -, ⟨-, -, -, same⟩ | ⟨done, settled, -, same⟩⟩
  · rw [fired]
  · exact same leaves
  · rw [settled, (settle_eq _ _ _ _).2.2.1]
    exact same leaves

/-- A turn puts into the outbox what is published of it. -/
theorem outbox_fire (worker : Worker) (id : String) (event : Json) (around : Surroundings) :
    (worker.fire id event around).outbox = (worker.turnOf id event around).published := by
  unfold Turn.published turnOf
  dsimp only
  rcases worker.turn_cases id event around with
    ⟨-, fired⟩ | ⟨evaluates, trigger, found, ⟨unfired, -, silent, -⟩ | ⟨done, settled, left, -⟩⟩
  · rw [fired]
    rfl
  · rw [unfired, silent]
    rfl
  · obtain ⟨performed, published, -⟩ := (worker.activate id).settle_eq id trigger done
    simp only [Worker.evaluates, found] at evaluates
    rw [settled, performed, published, left, found, if_pos rfl]
    exact (if_pos evaluates).symm

end Turns

/-- A scene after so many turns: they leave the handlers and the topic, they count no
record, and what is published of them is in the outbox. -/
structure Scene.Played (topic : String) (turns : List Turn) (scene after : Scene) : Prop where
  registry : after.worker.registry = scene.worker.registry
  topic : after.around.hub.topic topic = scene.around.hub.topic topic
  eventsProcessed : after.worker.tally.eventsProcessed = scene.worker.tally.eventsProcessed
  outbox : after.outbox = scene.outbox ++ turns.flatMap Turn.published

/-- Giving the ids of a list their turns plays them. -/
theorem played_fireAll {topic : String} (event : Json) (ids : List String) (scene : Scene)
    (leaves : scene.worker.registry.LeavesTopic topic) :
    scene.Played topic (turnsIn event ids scene) (fireAll event ids scene) := by
  induction ids generalizing scene with
  | nil => exact ⟨rfl, rfl, rfl, (List.append_nil _).symm⟩
  | cons id rest ih =>
    have registry : (fireAll event [id] scene).worker.registry = scene.worker.registry :=
      (scene.worker.steady_fire id event scene.around).registry
    have uncounted : (fireAll event [id] scene).worker.tally.eventsProcessed =
        scene.worker.tally.eventsProcessed := by
      have same := (scene.worker.steady_fire id event scene.around).tally
      simp only [fireAll, count]
      split <;> rw [same]
    obtain ⟨laterRegistry, laterTopic, laterCount, laterOutbox⟩ :=
      ih (fireAll event [id] scene) (registry ▸ leaves)
    refine ⟨laterRegistry.trans registry,
      laterTopic.trans (topic_fire leaves id event scene.around), laterCount.trans uncounted, ?_⟩
    calc (fireAll event (id :: rest) scene).outbox
        = (scene.outbox ++ (scene.worker.fire id event scene.around).outbox) ++
            (turnsIn event rest (fireAll event [id] scene)).flatMap Turn.published := laterOutbox
      _ = scene.outbox ++ (turnsIn event (id :: rest) scene).flatMap Turn.published := by
          rw [outbox_fire, turnsIn, List.flatMap_cons, List.append_assoc]

/-- Consuming a record counts it and plays the turns on it. -/
theorem played_consume {worker : Worker} {topic : String}
    (leaves : worker.registry.LeavesTopic topic) (record : Record) (around : Surroundings) :
    Scene.Played topic (worker.turnsOn record around) { worker := worker.countRecord, around }
      (worker.consume record around) := by
  unfold turnsOn
  cases holds : record.event? with
  | none =>
    rw [Moment.consume_of_event?_eq_none around holds]
    exact ⟨rfl, rfl, rfl, rfl⟩
  | some found =>
    obtain ⟨key, event⟩ := found
    have dispatched : worker.consume record around = _ :=
      @Moment.consume_of_event?_eq_some { worker, around } _ _ _ holds
    have received : (Moment.receive { worker, around } key event).worker.registry =
          worker.registry ∧
        (Moment.receive { worker, around } key event).worker.tally.eventsProcessed =
          worker.countRecord.tally.eventsProcessed := by
      unfold Moment.receive
      dsimp only
      split <;> exact ⟨rfl, rfl⟩
    rw [dispatched]
    obtain ⟨registry, topic, counted, outbox⟩ := played_fireAll event
      (Moment.receive { worker, around } key event).pending
      { worker := (Moment.receive { worker, around } key event).worker, around }
      (received.1 ▸ leaves)
    exact ⟨registry.trans received.1, topic, counted.trans received.2, outbox⟩

/-- Processing a record counts it, appends to the topic what is published of the turns on
it, and marks it as processed. -/
theorem process_eq {worker : Worker} {topic : String}
    (leaves : worker.registry.LeavesTopic topic) (record : Record) (around : Surroundings) :
    let after := worker.process topic record around
    after.1.registry = worker.registry ∧
      after.1.tally.eventsProcessed = worker.tally.eventsProcessed + 1 ∧
      after.2.hub.topic topic = {
        log := (around.hub.topic topic).log ++
          ((worker.turnsOn record around).flatMap Turn.published).map
            fun event => Text.bytesOf event.compact
        committed := max (around.hub.topic topic).committed (record.offset + 1) } := by
  obtain ⟨registry, same, counted, outbox⟩ := played_consume leaves record around
  refine ⟨registry, counted, ?_⟩
  rw [List.nil_append] at outbox
  unfold process
  dsimp only
  simp only [Hub.commit, List.max?_singleton, Hub.topic_insert, Hub.topic_publishAll, outbox]
  rw [show (worker.consume record around).around.hub.topic topic = around.hub.topic topic from same]

end Worker

/-! ## Runs -/

/-- A record that was processed, and the turns on it. -/
structure Round where
  record : Record
  turns : List Worker.Turn

/-- The events that are published in a round: what the triggers that have fired emitted,
in the order of their turns. -/
def Round.published (round : Round) : List Json :=
  round.turns.flatMap Worker.Turn.published

/-- The course of a run: how it stands, and the records that were processed in it so far. -/
structure Course where
  run : Worker.Running
  rounds : List Round := []

namespace Course

/-- The beginning of the run of a worker on a topic, behind its bootstrap. -/
def start (worker : Worker) (around : Surroundings) (topic : String) : Course where
  run := {
    worker := (({ worker with lifecycle := .running } : Worker).bootstrap around.documents).2
    around
    cursor := { topic } }

/-- The topic that is read. -/
def topic (course : Course) : Topic :=
  course.run.around.hub.topic course.run.cursor.topic

/-- One pass of the loop: a refresh if it is due, and a poll with all that follows. -/
def pass (course : Course) : Course :=
  let run := course.run.refreshed
  { run := run.poll.1
    rounds :=
      match (run.cursor.poll run.around.hub).1 with
      | some record => course.rounds ++ [⟨record, run.worker.turnsOn record run.around⟩]
      | none => course.rounds }

/-- One step of a run on a topic to which nobody else writes. -/
inductive Step : Course → Course → Prop where
  /-- Others change the surroundings, cancel the run maybe, and leave the topic. -/
  | others {course : Course} {around : Surroundings}
      (leaves : around.hub.topic course.run.cursor.topic = course.topic) :
      Step course { course with run := { course.run with around } }
  /-- The loop goes on. -/
  | pass {course : Course} (goes : course.run.isOver = false) : Step course course.pass

/-- Any number of steps. -/
abbrev Steps : Course → Course → Prop :=
  Relation.ReflTransGen Step

/-- A run in step with its topic: the records that were processed are those from the first
unprocessed one on, each of them once and in order; they are counted and marked; and the
log has grown by what was published on them and by nothing else. -/
structure InStep (before : Topic) (course : Course) : Prop where
  offsets : course.rounds.map (·.record.offset) =
    List.range' before.committed course.rounds.length
  payloads : course.rounds.map (·.record.payload) =
    (course.topic.log.drop before.committed).take course.rounds.length
  counted : course.run.worker.tally.eventsProcessed = course.rounds.length
  committed : course.topic.committed = before.committed + course.rounds.length
  log : course.topic.log = before.log ++
    (course.rounds.flatMap Round.published).map fun event => Text.bytesOf event.compact

/-- What makes the next pass keep in step: the handlers leave the topic, and the cursor
stands at the first unprocessed record. -/
structure Ready (course : Course) : Prop where
  leaves : course.run.worker.registry.LeavesTopic course.run.cursor.topic
  position : course.run.cursor.position.getD course.topic.committed = course.topic.committed

/-- A pass that finds no record moves nothing but the cursor and the count of polls. -/
theorem pass_of_none {course : Course} (ready : course.Ready)
    (all : course.topic.log[course.topic.committed]? = none) :
    course.pass.rounds = course.rounds ∧ course.pass.run.around = course.run.around ∧
      course.pass.run.worker = course.run.refreshed.worker ∧
      course.pass.run.cursor =
        { course.run.cursor with position := some course.topic.committed } := by
  obtain ⟨-, -, around, cursor⟩ := course.run.refreshed_same
  have polled : course.run.refreshed.cursor.poll course.run.refreshed.around.hub =
      (none, { course.run.cursor with position := some course.topic.committed }) := by
    unfold Cursor.poll
    rw [around, cursor]
    dsimp only
    rw [show course.run.around.hub.topic course.run.cursor.topic = course.topic from rfl,
      ready.position, all]
  unfold pass Worker.Running.poll
  dsimp only
  rw [polled]
  exact ⟨rfl, around, rfl, rfl⟩

/-- The next record is polled where the log goes on. -/
theorem poll_of_some {course : Course} (ready : course.Ready) {payload : List UInt8}
    (next : course.topic.log[course.topic.committed]? = some payload) :
    course.run.refreshed.cursor.poll course.run.refreshed.around.hub =
      (some ⟨course.topic.committed, payload⟩,
        { course.run.cursor with position := some (course.topic.committed + 1) }) := by
  obtain ⟨-, -, around, cursor⟩ := course.run.refreshed_same
  unfold Cursor.poll
  rw [around, cursor]
  dsimp only
  rw [show course.run.around.hub.topic course.run.cursor.topic = course.topic from rfl,
    ready.position, next]

/-- A pass that finds a record processes it. -/
theorem pass_of_some {course : Course} (ready : course.Ready) {payload : List UInt8}
    (next : course.topic.log[course.topic.committed]? = some payload) :
    let record : Record := ⟨course.topic.committed, payload⟩
    let worker := course.run.refreshed.worker
    course.pass.rounds = course.rounds ++ [⟨record, worker.turnsOn record course.run.around⟩] ∧
      course.pass.run.worker =
        (worker.process course.run.cursor.topic record course.run.around).1 ∧
      course.pass.run.around =
        (worker.process course.run.cursor.topic record course.run.around).2 ∧
      course.pass.run.cursor =
        { course.run.cursor with position := some (course.topic.committed + 1) } := by
  obtain ⟨-, -, around, -⟩ := course.run.refreshed_same
  unfold pass Worker.Running.poll
  dsimp only
  rw [poll_of_some ready next, around]
  exact ⟨rfl, rfl, rfl, rfl⟩

/-- Appending to a list that goes on takes the next element along. -/
theorem take_drop_append {α : Type} {list : List α} {start count : Nat} {next : α}
    (found : list[start + count]? = some next) (more : List α) :
    ((list ++ more).drop start).take (count + 1) = (list.drop start).take count ++ [next] := by
  obtain ⟨bound, -⟩ := List.getElem?_eq_some_iff.mp found
  have inside : count ≤ (list.drop start).length := by
    rw [List.length_drop]
    omega
  rw [List.drop_append_of_le_length (by omega), List.take_add_one,
    List.take_append_of_le_length inside, List.getElem?_append_left, List.getElem?_drop, found]
  · rfl
  · rw [List.length_drop]
    omega

/-- A run in which nothing was processed stays in step with its topic. -/
theorem InStep.congr {before : Topic} {course next : Course} (inStep : course.InStep before)
    (rounds : next.rounds = course.rounds) (topic : next.topic = course.topic)
    (counted : next.run.worker.tally.eventsProcessed =
      course.run.worker.tally.eventsProcessed) : next.InStep before := by
  constructor
  · rw [rounds]
    exact inStep.offsets
  · rw [rounds, topic]
    exact inStep.payloads
  · rw [rounds, counted]
    exact inStep.counted
  · rw [rounds, topic]
    exact inStep.committed
  · rw [rounds, topic]
    exact inStep.log

/-- Every step keeps a run in step with its topic. -/
theorem InStep.step {before : Topic} {course next : Course} (ready : course.Ready)
    (inStep : course.InStep before) (step : Step course next) :
    next.Ready ∧ next.InStep before := by
  cases step with
  | @others around leaves =>
    have same : topic { course with run := { course.run with around } } = course.topic := leaves
    refine ⟨⟨ready.leaves, ?_⟩, inStep.congr rfl same rfl⟩
    rw [same]
    exact ready.position
  | pass =>
    obtain ⟨registry, tally, -, -⟩ := course.run.refreshed_same
    have leaves : course.run.refreshed.worker.registry.LeavesTopic course.run.cursor.topic :=
      registry ▸ ready.leaves
    cases next : course.topic.log[course.topic.committed]? with
    | none =>
      obtain ⟨rounds, around, worker, cursor⟩ := pass_of_none ready next
      have same : course.pass.topic = course.topic := by
        rw [topic, around, cursor]
        rfl
      refine ⟨⟨?_, ?_⟩, inStep.congr rounds same ?_⟩
      · rw [worker, cursor]
        exact leaves
      · rw [same, cursor]
        rfl
      · rw [worker, tally]
    | some payload =>
      obtain ⟨rounds, worker, around, cursor⟩ := pass_of_some ready next
      obtain ⟨sameRegistry, counted, processed⟩ := Worker.process_eq leaves
        ⟨course.topic.committed, payload⟩ course.run.around
      have changed : course.pass.topic = {
          log := course.topic.log ++
            ((course.run.refreshed.worker.turnsOn ⟨course.topic.committed, payload⟩
              course.run.around).flatMap Worker.Turn.published).map
                fun event => Text.bytesOf event.compact
          committed := course.topic.committed + 1 } := by
        rw [topic, around, cursor, processed]
        simp [topic]
      have length : course.pass.rounds.length = course.rounds.length + 1 := by
        rw [rounds, List.length_append, List.length_singleton]
      have position := inStep.committed
      refine ⟨⟨?_, ?_⟩, ?_, ?_, ?_, ?_, ?_⟩
      · rw [worker, cursor, sameRegistry]
        exact leaves
      · rw [changed, cursor]
        rfl
      · rw [length, rounds, List.map_append, inStep.offsets, List.range'_1_concat, ← position]
        rfl
      · rw [length, rounds, changed, List.map_append, inStep.payloads]
        exact (take_drop_append (position ▸ next) _).symm
      · rw [length, worker, counted, tally, inStep.counted]
      · rw [length, changed, position, Nat.add_assoc]
      · rw [rounds, changed, inStep.log, List.flatMap_append, List.map_append, List.append_assoc]
        simp [Round.published]

/-- A run stays in step with its topic. -/
theorem InStep.steps {before : Topic} {course later : Course} (ready : course.Ready)
    (inStep : course.InStep before) (steps : Steps course later) :
    later.Ready ∧ later.InStep before := by
  induction steps with
  | refl => exact ⟨ready, inStep⟩
  | tail _ step ih => exact ih.2.step ih.1 step

/-! ## Runs are made of steps -/

/-- A bootstrap leaves the handlers and the counts. -/
theorem bootstrap_same (worker : Worker) (documents : Documents) :
    (worker.bootstrap documents).2.registry = worker.registry ∧
      (worker.bootstrap documents).2.tally = worker.tally := by
  unfold Worker.bootstrap
  split
  · exact ⟨rfl, rfl⟩
  · dsimp only
    split
    · exact ⟨rfl, rfl⟩
    · exact (Worker.refresh_same _ documents).2

/-- A run is in step with its topic when it starts. -/
theorem inStep_start {worker : Worker} {topic : String} (around : Surroundings)
    (uncounted : worker.tally.eventsProcessed = 0) (leaves : worker.registry.LeavesTopic topic) :
    (start worker around topic).Ready ∧
      (start worker around topic).InStep (around.hub.topic topic) := by
  obtain ⟨registry, tally⟩ := bootstrap_same { worker with lifecycle := .running } around.documents
  refine ⟨⟨?_, rfl⟩, rfl, rfl, ?_, rfl, ?_⟩
  · rw [start, registry]
    exact leaves
  · rw [start, tally]
    exact uncounted
  · exact (List.append_nil _).symm

/-- A run to its end is made of steps. It has been stopped, or there is nothing left to
read. -/
theorem steps_toEnd {before : Topic} {fuel : Nat} {course : Course} {ended : Worker.Running}
    (ready : course.Ready) (inStep : course.InStep before)
    (ends : course.run.toEnd fuel = some ended) :
    ∃ last, Steps course last ∧ last.run = ended ∧
      (ended.isOver = true ∨ last.topic.log[last.topic.committed]? = none) := by
  induction fuel generalizing course with
  | zero => cases ends
  | succ fuel ih =>
    unfold Worker.Running.toEnd at ends
    split at ends
    · rename_i stops
      cases ends
      exact ⟨course, .refl, rfl, .inl stops⟩
    · rename_i goes
      have passed : Step course course.pass := .pass (by simpa using goes)
      split at ends
      · rename_i run polled
        have equal : course.pass.run = run := congrArg Prod.fst polled
        obtain ⟨readyNext, inStepNext⟩ := inStep.step ready passed
        obtain ⟨last, steps, same, stopped⟩ := ih readyNext inStepNext (equal ▸ ends)
        exact ⟨last, .head passed steps, same, stopped⟩
      · rename_i run polled
        cases ends
        refine ⟨course.pass, .single passed, congrArg Prod.fst polled, .inr ?_⟩
        cases next : course.topic.log[course.topic.committed]? with
        | none =>
          obtain ⟨-, around, -, cursor⟩ := pass_of_none ready next
          have same : course.pass.topic = course.topic := by
            rw [topic, around, cursor]
            rfl
          rw [same, next]
        | some payload =>
          -- a run goes on behind a record
          have goesOn : course.run.refreshed.poll.2 = true := by
            unfold Worker.Running.poll
            rw [poll_of_some ready next]
          rw [polled] at goesOn
          cases goesOn

/-- A worker with handlers that leave its topic processes every record from the committed
offset on exactly once and in order, whatever they hold, and loses no event that a fired
trigger has emitted. After so many records the worker has counted as many, the committed
offset is as many further, and the log has grown by those events, in the order of the
firings, and by nothing else. That is also how a run leaves the topic when it comes to its
end: it was stopped, or there was nothing left to read. -/
theorem processes_in_step {worker : Worker} {around : Surroundings} {source : EventSource}
    {topic : String} (uncounted : worker.tally.eventsProcessed = 0)
    (leaves : worker.registry.LeavesTopic topic)
    (booted : (({ worker with lifecycle := .running } : Worker).bootstrap around.documents).1 =
      .ok source)
    (location : source.location = .memory topic) :
    (∀ course, Steps (start worker around topic) course →
        course.InStep (around.hub.topic topic)) ∧
      ∀ fuel outcome, worker.run fuel around = some outcome → outcome.result = .ok () →
        ∃ course, Steps (start worker around topic) course ∧
          outcome = Worker.finish course.run ∧
          (course.run.isOver = true ∨ course.topic.log[course.topic.committed]? = none) := by
  obtain ⟨ready, inStep⟩ := inStep_start around uncounted leaves
  refine ⟨fun course steps => (inStep.steps ready steps).2, fun fuel outcome ends succeeds => ?_⟩
  unfold Worker.run at ends
  split at ends
  · cases ends
    cases succeeds
  · obtain ⟨set, started, equal⟩ := Option.bind_eq_some_iff.mp ends
    cases equal
    unfold Worker.start at started
    simp only [booted, EventSource.open?, location] at started
    split at started
    · cases started
      cases succeeds
    · rename_i cursor opened
      split at opened
      · cases opened
        obtain ⟨ended, runs, rfl⟩ := Option.map_eq_some_iff.mp started
        obtain ⟨course, steps, rfl, stopped⟩ := steps_toEnd ready inStep runs
        exact ⟨course, steps, rfl, stopped⟩
      · cases opened

/-- A worker with the built-in handlers that has yet to run. -/
def echoWorker : Worker where
  id := "worker"
  space := "demo"
  settings := { maxIdlePolls := 1 }
  hasHub := true

/-- A trigger that announces the completion of its subject, and one that fails to. -/
def echoTriggers : List Trigger :=
  [{ id := "echo"
     condition := Vocabulary.holds
     action := Vocabulary.statePass
     context := [("subject", .string "out")]
     dependencies := [⟨"left", "done"⟩]
     transient := false },
   { id := "mute"
     condition := Vocabulary.holds
     action := Vocabulary.statePass
     context := []
     dependencies := [⟨"left", "done"⟩]
     transient := false }]

/-- A topic of which the first record has been processed. Behind it are one that is no JSON
and the event for which both triggers wait. -/
def echoAround : Surroundings where
  documents :=
    [("demo", [
      (Documents.eventSource, .object (EventSource.toFields ⟨"log", .memory "events"⟩)),
      (Documents.globalContext, .object []),
      (Documents.triggers,
        Documents.ofTriggers (echoTriggers.map fun trigger => (trigger.id, trigger)))])]
  hub := [("events", {
    log := [[0], [0], Text.bytesOf (EventKey.toRaw ⟨"left", "done"⟩ .null).compact]
    committed := 1 })]

/-- The worker processes both records and the event that the first trigger has emitted,
although the second one has failed. -/
theorem sample_processes_in_step : ∃ course,
    Steps (start echoWorker echoAround "events") course ∧
      course.InStep (echoAround.hub.topic "events") ∧ course.rounds.length = 3 ∧
      course.run.worker.tally.handlerFailures = 1 := by
  have settled := processes_in_step rfl (Registry.keepsJoin_builtin.leaves _)
    (show (({ echoWorker with lifecycle := .running } : Worker).bootstrap
      echoAround.documents).1 = .ok ⟨"log", .memory "events"⟩ from rfl) rfl
  have runs : (echoWorker.run 5 echoAround).any (fun outcome => outcome.result.isOk &&
      outcome.worker.tally.eventsProcessed == 3 && outcome.worker.tally.handlerFailures == 1) =
        true := by
    decide +kernel
  obtain ⟨outcome, ends, counted⟩ := (Option.any_eq_true _ _).mp runs
  simp only [Bool.and_eq_true, beq_iff_eq] at counted
  obtain ⟨⟨succeeds, processed⟩, failed⟩ := counted
  cases result : outcome.result with
  | error cause => simp [result, Except.isOk, Except.toBool] at succeeds
  | ok =>
    obtain ⟨course, steps, rfl, -⟩ := settled.2 5 outcome ends result
    have inStep := settled.1 course steps
    exact ⟨course, steps, inStep, inStep.counted.symm.trans processed, failed⟩

end Course

end EventFlow
