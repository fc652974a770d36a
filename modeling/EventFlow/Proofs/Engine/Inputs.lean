import EventFlow.Proofs.Engine.Contexts

/-!
# What a join works on

A worker remembers the events of a subject in the order of their arrival. A trigger that joins
all its dependencies is evaluated only once each of them has come, and what it passes on are the
data of the latest event of each, in the order of the dependencies. There is nothing else that
this depends on, least of all what the contexts hold.
-/

namespace EventFlow

/-- A raw event with a key has the subject of the key. -/
theorem EventKey.subject_of_ofRaw? {event : Json} {key : EventKey}
    (keyed : ofRaw? event = some key) : rawField? event "subject" = some key.subject := by
  have own : key.isKeyOf event = true := (isKeyOf_iff keyed key).mpr rfl
  rw [isKeyOf, Bool.and_eq_true, beq_iff_eq] at own
  exact own.1

/-- The latest event of a key is found among the events of its subject. -/
theorem EventKey.find?_reverse_filter (key : EventKey) (events : List Json) :
    (events.filter (rawField? · "subject" == some key.subject)).reverse.find? key.isKeyOf =
      events.reverse.find? key.isKeyOf := by
  rw [← List.filter_reverse, List.find?_filter]
  congr 1
  funext event
  cases subject : rawField? event "subject" == some key.subject with
  | true => simp only [isKeyOf, subject, Bool.true_and, true_and, Bool.decide_eq_true]
  | false => simp [isKeyOf, subject]

/-- A task has its invoker called with the input of the evaluation: it fails with the invoker,
leaves the rest to somebody else, or announces the output. -/
theorem Builtins.task_of_input {context : Evaluation} {event input : Json}
    (same : context.input event = input) (invoker : Invoker) (around : Surroundings) :
    task invoker context event around =
      let state := (context.get? "State").getD .null
      let called := invoker context state input around
      match called.1 with
      | .error cause => { result := .error cause, context, around := called.2 }
      | .ok .dispatched => { result := .ok (), context, around := called.2 }
      | .ok (.completed output) =>
        let completed := complete context output
        { result := completed.1, context := completed.2, around := called.2 } := by
  subst same
  rcases called : invoker context ((context.get? "State").getD .null) (context.input event) around
    with ⟨cause | ⟨output⟩ | _, behind⟩ <;>
    simp only [task, called]

namespace Moment

/-! ## The accumulated events -/

/-- The latest event of a key among all that were received. -/
def latest? (moment : Moment) (key : EventKey) : Option Json :=
  moment.received.reverse.find? key.isKeyOf

/-- A worker that has the events of every subject in the order in which they were received. -/
def Remembers (moment : Moment) : Prop :=
  ∀ subject, (Dict.get? moment.worker.received subject).getD [] =
    moment.received.filter (EventKey.rawField? · "subject" == some subject)

section Run

variable {worker : Worker} {around : Surroundings} {moment next : Moment}

/-- A new worker has nothing to remember. -/
theorem remembers_boot (new : worker.IsNew) : (boot worker around).Remembers := by
  have kept : (boot worker around).worker.received = worker.received := by
    unfold boot Worker.bootstrap
    dsimp only
    split
    · rfl
    · split
      · rfl
      · exact (Worker.refresh_fixed _ _).2.2
  intro subject
  rw [kept, new.received]
  rfl

/-- A worker remembers what it receives, and it forgets nothing. -/
theorem Remembers.move (remembers : moment.Remembers) (move : Move moment next) :
    next.Remembers := by
  cases move with
  | change => exact remembers
  | step step =>
    cases step with
    | change => exact remembers
    | refresh =>
      intro subject
      dsimp only
      rw [(moment.worker.refresh_fixed moment.around.documents).2.2]
      exact remembers subject
    | skip => exact remembers
    | @receive record key event _ holds =>
      have keyed := EventKey.subject_of_ofRaw? (Record.ofRaw?_of_event? holds)
      intro subject
      have received : (moment.receive key event).worker.received =
          Dict.insert moment.worker.received key.subject
            ((Dict.get? moment.worker.received key.subject).getD [] ++ [event]) := by
        unfold receive
        dsimp only
        split <;> rfl
      have history : (moment.receive key event).received = moment.received ++ [event] := rfl
      rw [received, history, Dict.get?_insert, List.filter_append]
      by_cases same : key.subject = subject
      · subst same
        simp [remembers key.subject, keyed]
      · simp [same, keyed, remembers subject]
    | @turn id _ _ =>
      intro subject
      have steady := moment.worker.steady_fire id moment.event moment.around
      unfold turn
      dsimp only
      rw [steady.received]
      exact remembers subject

/-- A worker goes on remembering what it receives. -/
theorem Remembers.moves (remembers : moment.Remembers) (moves : Moves moment next) :
    next.Remembers := by
  induction moves with
  | refl => exact remembers
  | tail _ move ih => exact ih.move move

/-! ## The latest events -/

/-- Every dependency of a trigger that is evaluated and joins all of them has come. -/
theorem exists_latest {id : String} {trigger : Trigger} (remembers : moment.Remembers)
    (found : Dict.get? moment.worker.triggers id = some trigger)
    (evaluates : moment.worker.evaluates id = true) (all : Worker.joinsAny trigger = false)
    {key : EventKey} (member : key ∈ trigger.dependencies) :
    ∃ event, moment.latest? key = some event := by
  have some : trigger.dependencies ≠ [] := List.ne_nil_of_mem member
  -- whoever is ready has been complete once more than it was evaluated, so at least once
  have ready : 1 ≤ Worker.completions false trigger.dependencies moment.worker.arrivals := by
    unfold Worker.evaluates at evaluates
    rw [found] at evaluates
    simp only [Worker.isReady, Worker.available_eq, all, decide_eq_true_eq] at evaluates
    omega
  have arrived := (Worker.le_completions_all_iff some).mp ready key member
  rw [Worker.arrivals, remembers key.subject] at arrived
  obtain ⟨event, come⟩ := List.exists_mem_of_length_pos arrived
  obtain ⟨known, own⟩ := List.mem_filter.mp come
  rw [← Option.isSome_iff_exists, latest?, List.find?_isSome]
  exact ⟨event, List.mem_reverse.mpr (List.mem_filter.mp known).1, own⟩

/-- An evaluation shows the latest event of every dependency that has come. -/
theorem latest?_evaluation {trigger : Trigger} (remembers : moment.Remembers) {key : EventKey}
    (member : key ∈ trigger.dependencies) {event : Json} (latest : moment.latest? key = some event) :
    (moment.worker.evaluation trigger).latest? key = some event := by
  have waits : key.subject ∈ trigger.subjects := Trigger.mem_subjects_iff.mpr ⟨key, member, rfl⟩
  rw [Moment.latest?, ← key.find?_reverse_filter, ← remembers key.subject] at latest
  cases held : Dict.get? moment.worker.received key.subject with
  | none =>
    rw [held] at latest
    cases latest
  | some events =>
    rw [held, Option.getD_some] at latest
    have shown := Worker.get?_relevantEvents waits held
    simp only [Evaluation.latest?,
      Worker.get?_evaluation_of_runtimeData Worker.get?_runtimeData.2, bind, Option.bind_some,
      Json.get?] at shown ⊢
    rw [shown]
    exact latest

/-- An evaluation with the entries of the worker works on the data of the latest event of each of
several dependencies. -/
theorem input_of_latest {trigger : Trigger} {latest : List Json} (remembers : moment.Remembers)
    (several : 2 ≤ trigger.dependencies.length)
    (come : List.Forall₂ (fun key event => moment.latest? key = some event) trigger.dependencies
      latest)
    {context : Evaluation} (same : ∀ key ∈ Evaluation.runtimeKeys,
      context.get? key = (moment.worker.evaluation trigger).get? key) (event : Json) :
    context.input event = .array (latest.map eventData) := by
  have own : (moment.worker.evaluation trigger).dependencies = trigger.dependencies :=
    Worker.dependencies_evaluation
  have waits : context.dependencies = trigger.dependencies := by
    rw [← own, Evaluation.dependencies, Evaluation.dependencies, same _ (by decide)]
  have shown : ∀ key, context.latest? key = (moment.worker.evaluation trigger).latest? key := by
    intro key
    rw [Evaluation.latest?, Evaluation.latest?, same _ (by decide)]
  have data : ∀ (keys : List EventKey) (events : List Json),
      (∀ key ∈ keys, key ∈ trigger.dependencies) →
      List.Forall₂ (fun key event => moment.latest? key = some event) keys events →
      keys.map context.latestData = events.map eventData := by
    intro keys events within come
    induction come with
    | nil => rfl
    | @cons key event rest others latest _ ih =>
      have member := within key List.mem_cons_self
      rw [List.map_cons, List.map_cons, Evaluation.latestData, shown,
        latest?_evaluation remembers member latest,
        ih fun other listed => within other (List.mem_cons_of_mem _ listed)]
  have all := data _ _ (fun _ member => member) come
  rw [Evaluation.input, waits, ← all]
  rcases shape : trigger.dependencies with _ | ⟨first, _ | ⟨second, rest⟩⟩
  · simp [shape] at several
  · simp [shape] at several
  · rfl

/-- A trigger that joins all of several dependencies works on the data of the latest event of
each, in their order, if its condition leaves the entries of the worker. There is always such an
event. What the trigger, the global context and the event at hand hold besides does not matter. A
pass state writes its result into these data and announces them, and a task has its invoker called
with them: it fails with the invoker, leaves the rest to somebody else, or announces the output. -/
theorem joined_input_latest {id : String} {trigger : Trigger} (new : worker.IsNew)
    (reached : Moves (boot worker around) moment)
    (found : Dict.get? moment.worker.triggers id = some trigger)
    (evaluates : moment.worker.evaluates id = true) (all : Worker.joinsAny trigger = false)
    (several : 2 ≤ trigger.dependencies.length) :
    ∃ latest : List Json,
      List.Forall₂ (fun key event => moment.latest? key = some event) trigger.dependencies latest ∧
        ∀ (condition : Condition) (event : Json) (around : Surroundings),
          let judged := condition (moment.worker.evaluation trigger) event around
          (∀ key ∈ Evaluation.runtimeKeys,
            judged.context.get? key = (moment.worker.evaluation trigger).get? key) →
          judged.context.input event = .array (latest.map eventData) ∧
            (∀ around, Builtins.statePass judged.context event around =
              let completed := Builtins.complete judged.context
                (Builtins.passOutput (judged.context.get? "State") (.array (latest.map eventData)))
              { result := completed.1, context := completed.2, around }) ∧
            ∀ invoker around, Builtins.task invoker judged.context event around =
              let state := (judged.context.get? "State").getD .null
              let called := invoker judged.context state (.array (latest.map eventData)) around
              match called.1 with
              | .error cause =>
                { result := .error cause, context := judged.context, around := called.2 }
              | .ok .dispatched =>
                { result := .ok (), context := judged.context, around := called.2 }
              | .ok (.completed output) =>
                let completed := Builtins.complete judged.context output
                { result := completed.1, context := completed.2, around := called.2 } := by
  have remembers : moment.Remembers := (remembers_boot new).moves reached
  have come : List.Forall₂ (fun key event => moment.latest? key = some event) trigger.dependencies
      (trigger.dependencies.map fun key => (moment.latest? key).getD .null) := by
    rw [List.forall₂_map_right_iff, List.forall₂_same]
    intro key member
    obtain ⟨event, latest⟩ := exists_latest remembers found evaluates all member
    rw [latest, Option.getD_some]
  refine ⟨_, come, fun condition event around same => ?_⟩
  have input := input_of_latest remembers several come same event
  refine ⟨input, fun around => ?_, fun invoker around => ?_⟩
  · rw [Builtins.statePass, Handler.confined, input]
  · exact Builtins.task_of_input input invoker around

end Run

/-- Receive an event with a text as its data. -/
def tell (moment : Moment) (key : EventKey) (text : String) : Moment :=
  moment.receive key (key.toRaw (.string text))

/-- Receive such an event, and give all that wait for its subject their turns. -/
def told (moment : Moment) (key : EventKey) (text : String) : Moment :=
  turns (moment.tell key text).pending (moment.tell key text)

/-- An event with a text can be received between two records. -/
theorem step_tell {moment : Moment} (idle : moment.pending = []) (key : EventKey) (text : String) :
    Step moment (moment.tell key text) := by
  have relayed : (Json.string text).relayed? = some (.string text) :=
    Json.relayed?_of_fits trivial trivial
  have holds : (key.record (.string text) 0).event? = some (key, key.toRaw (.string text)) := by
    rw [EventKey.event?_record, relayed]
    rfl
  exact .receive idle holds

/-- Handling such an event is made of steps. -/
theorem steps_told {moment : Moment} (idle : moment.pending = []) (key : EventKey) (text : String) :
    Steps moment (moment.told key text) ∧ (moment.told key text).pending = [] := by
  obtain ⟨steps, done⟩ := steps_turns (moment.tell key text) rfl
  exact ⟨.head (step_tell idle key text) steps, done⟩

/-- The sample worker with its trigger about to be evaluated, one of the events that it waits for
having come twice. -/
def toldMoment : Moment :=
  (((boot sampleWorker sampleAround).told ⟨"left", "done"⟩ "first").told ⟨"left", "done"⟩
    "second").tell ⟨"right", "done"⟩ "third"

/-- A way to leave tasks to somebody else that notes down what they work on. -/
def notingInvoker : Invoker := fun _ _ input around =>
  (.ok .dispatched, { around with journal := around.journal.concat input })

/-- The sample trigger works on the data of the latest event of each kind, and as a task it has
its invoker called with them once. -/
theorem sample_joined_input :
    (toldMoment.worker.evaluation sampleTrigger).input toldMoment.event =
      .array [.string "second", .string "third"] ∧
    (Builtins.task notingInvoker (toldMoment.worker.evaluation sampleTrigger) toldMoment.event
      {}).around.journal = [.array [.string "second", .string "third"]] := by
  have started : (boot sampleWorker sampleAround).pending = [] := rfl
  obtain ⟨first, idle⟩ := steps_told started ⟨"left", "done"⟩ "first"
  obtain ⟨second, idle⟩ := steps_told idle ⟨"left", "done"⟩ "second"
  have reached : Moves (boot sampleWorker sampleAround) toldMoment :=
    Steps.moves ((first.trans second).tail (step_tell idle ⟨"right", "done"⟩ "third"))
  have found : Dict.get? toldMoment.worker.triggers "both" = some sampleTrigger := rfl
  have evaluates : toldMoment.worker.evaluates "both" = true := by decide +kernel
  obtain ⟨latest, come, works⟩ := joined_input_latest sampleWorker_isNew reached found
    evaluates rfl (by decide)
  obtain ⟨left, others, before, behind, rfl⟩ := List.forall₂_cons_left_iff.mp come
  obtain ⟨right, rest, after, nothing, rfl⟩ := List.forall₂_cons_left_iff.mp behind
  cases nothing
  cases (show toldMoment.latest? ⟨"left", "done"⟩ = some _ from rfl).symm.trans before
  cases (show toldMoment.latest? ⟨"right", "done"⟩ = some _ from rfl).symm.trans after
  obtain ⟨input, -, task⟩ := works Builtins.holds toldMoment.event {} fun _ _ => rfl
  exact ⟨input, congrArg (fun handled => handled.around.journal) (task notingInvoker {})⟩

end Moment

end EventFlow
