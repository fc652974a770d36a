import EventFlow.Proofs.Engine.Builtins
import EventFlow.Proofs.Engine.Refresh

/-!
# Joins

Over the history of a worker joins are accounted for exactly: no trigger is
evaluated more often than its dependencies have been complete, and one that the
index lists from the start is never behind by more than the turn that is still to
come.
-/

namespace EventFlow.Moment

/-! ## What a step can do -/

/-- The worker's own counters agree with the history, and its triggers are as they
were stored. -/
structure Counted (moment : Moment) : Prop where
  keeps : moment.worker.registry.KeepsKeys moment.worker.space
  documents : moment.around.documents.OwnKeyed moment.worker.space
  own : ∀ id trigger, Dict.get? moment.worker.triggers id = some trigger → trigger.id = id
  ordered : ∀ id trigger, Dict.get? moment.worker.triggers id = some trigger →
    Dict.Ascending trigger.context
  arrivals : ∀ key, moment.worker.arrivals key = moment.arrivals key
  consumed : ∀ id, moment.worker.consumed id = moment.evaluations id

/-- The counters agree with the history, and triggers go on joining as they did. -/
structure Accounted (moment : Moment) : Prop extends Counted moment where
  leaves : moment.worker.registry.LeavesJoin

/-- A ready trigger was evaluated less often than its dependencies were complete, any
other one as often. -/
theorem Counted.isReady_iff {moment : Moment} (counted : moment.Counted) {id : String}
    {trigger : Trigger} (found : Dict.get? moment.worker.triggers id = some trigger) :
    moment.worker.isReady trigger = true ↔ moment.evaluations id < moment.completions trigger := by
  have arrivals : moment.worker.arrivals = moment.arrivals := funext counted.arrivals
  rw [Worker.isReady, decide_eq_true_iff, Worker.available_eq, arrivals, counted.own id _ found,
    counted.consumed id]
  rfl

/-- Two workers with the same working copy, the same index and the same count of
evaluations. -/
structure SameCopy (worker after : Worker) : Prop where
  space : after.space = worker.space
  registry : after.registry = worker.registry
  triggers : after.triggers = worker.triggers
  sourceEvents : after.sourceEvents = worker.sourceEvents
  activations : after.activations = worker.activations
  retired : after.retired = worker.retired

/-- What a step can do to a worker and its history. -/
inductive Effect (moment next : Moment) : Prop where
  /-- Nothing happens but that triggers are taken up; who loses a turn by it was not
  to be evaluated. -/
  | quiet (stored : Dict Trigger)
      (storedOwn : ∀ entry ∈ stored, entry.2.id = entry.1 ∧ Dict.Ascending entry.2.context)
      (refreshed : Worker.Refreshed moment.worker next.worker stored)
      (received : next.received = moment.received)
      (evaluated : next.evaluated = moment.evaluated)
      (pending : ∀ id ∈ moment.pending, id ∈ next.pending ∨ moment.worker.evaluates id = false)
  /-- One more event arrives, and all that wait for its subject are to get a
  turn. -/
  | arrival (key : EventKey) (event : Json) (keyed : EventKey.ofRaw? event = some key)
      (idle : moment.pending = [])
      (same : SameCopy moment.worker next.worker)
      (arrivals : ∀ other, next.worker.arrivals other =
        moment.worker.arrivals other + if other = key then 1 else 0)
      (received : next.received = moment.received ++ [event])
      (evaluated : next.evaluated = moment.evaluated)
      (pending : next.pending = SourceEvents.waiting moment.worker.sourceEvents key.subject)
  /-- A ready trigger is evaluated. -/
  | evaluation (id : String) (trigger : Trigger) (rest : List String)
      (result : Except Failure Bool)
      (waiting : moment.pending = id :: rest)
      (found : Dict.get? moment.worker.triggers id = some trigger)
      (ready : moment.worker.isReady trigger = true)
      (change : Worker.Evaluated moment.worker id trigger next.worker)
      (received : next.received = moment.received)
      (evaluated : next.evaluated = moment.evaluated ++ [(id, result)])
      (pending : next.pending = rest)

/-- Receiving an event is an arrival. -/
theorem Effect.receive {moment : Moment} {key : EventKey} {event : Json}
    (keyed : EventKey.ofRaw? event = some key) (idle : moment.pending = []) :
    Effect moment (moment.receive key event) := by
  have counted : ∀ other, (moment.receive key event).worker.arrivals other =
      moment.worker.arrivals other + if other = key then 1 else 0 := by
    intro other
    rw [← Worker.arrivals_receive moment.worker keyed other]
    simp only [Moment.receive]
    split <;> rfl
  refine .arrival key event keyed idle ?_ counted rfl rfl rfl
  simp only [Moment.receive]
  split <;> exact ⟨rfl, rfl, rfl, rfl, rfl, rfl⟩

/-- A turn is an evaluation, or nothing happens. -/
theorem Effect.turn {moment : Moment} (counted : moment.Counted) {id : String}
    {rest : List String} (waiting : moment.pending = id :: rest) :
    Effect moment (moment.turn id rest) ∧
      (moment.turn id rest).around.documents.OwnKeyed (moment.turn id rest).worker.space := by
  rcases Worker.fire_cases counted.keeps counted.own counted.ordered id moment.event
    moment.around with ⟨idle, fired⟩ | ⟨evaluates, trigger, found, ready, change, keyed⟩
  · have same : moment.turn id rest = { moment with
        worker := { moment.worker with tally := moment.worker.tally }, pending := rest } := by
      simp [Moment.turn, fired, idle, Worker.count]
    rw [same]
    refine ⟨.quiet [] (by simp) (.refl _ _ _) rfl rfl fun other member => ?_,
      counted.documents⟩
    rw [waiting] at member
    rcases List.mem_cons.mp member with rfl | later
    · exact .inr idle
    · exact .inl later
  · constructor
    · refine .evaluation id trigger rest _ waiting found ready ?_ rfl (if_pos evaluates) rfl
      exact { change with }
    · have documents := keyed counted.documents
      rw [← change.space] at documents
      exact documents

/-- A step has one of the three effects, and stored triggers stay under their own
ids. -/
theorem Step.effect {moment next : Moment} (counted : moment.Counted)
    (step : Step moment next) :
    Effect moment next ∧ next.around.documents.OwnKeyed next.worker.space := by
  cases step with
  | change keyed =>
    exact ⟨.quiet [] (by simp) (.refl _ _ _) rfl rfl fun _ member => .inl member,
      keyed counted.documents⟩
  | refresh idle =>
    obtain ⟨stored, storedOwn, refreshed⟩ := Worker.refresh_refreshed _ counted.documents
    exact ⟨.quiet stored storedOwn refreshed rfl rfl fun _ member => .inl member,
      refreshed.space ▸ counted.documents⟩
  | skip idle nothing =>
    exact ⟨.quiet [] (by simp) (.refl _ _ _) rfl rfl fun _ member => .inl member,
      counted.documents⟩
  | @receive record key event idle holds =>
    have effect := Effect.receive (Record.ofRaw?_of_event? holds) idle
    refine ⟨effect, ?_⟩
    have space : (moment.receive key event).worker.space = moment.worker.space := by
      simp only [Moment.receive]
      split <;> rfl
    rw [space]
    exact counted.documents
  | turn waiting => exact Effect.turn counted waiting

/-! ## Counting by steps -/

section Counting

variable {moment next : Moment}

/-- Without a new event there are no more arrivals. -/
theorem arrivals_of_received_eq (received : next.received = moment.received) :
    next.arrivals = moment.arrivals := by
  funext key
  rw [arrivals, arrivals, received]

/-- One more event is one more arrival of its key. -/
theorem arrivals_of_received_append {event : Json} {key : EventKey}
    (keyed : EventKey.ofRaw? event = some key)
    (received : next.received = moment.received ++ [event]) :
    next.arrivals = fun other => moment.arrivals other + if other = key then 1 else 0 := by
  funext other
  have matching := EventKey.isKeyOf_iff keyed other
  by_cases same : other = key
  · subst same
    simp [arrivals, received, List.countP_append, matching]
  · simp [arrivals, received, List.countP_append, same, mt matching.mp same]

/-- Without a new evaluation the counts stay. -/
theorem evaluations_of_evaluated_eq (evaluated : next.evaluated = moment.evaluated)
    (id : String) : next.evaluations id = moment.evaluations id := by
  rw [evaluations, evaluations, evaluated]

/-- One more evaluation counts for its trigger alone. -/
theorem evaluations_of_evaluated_append {id : String} {result : Except Failure Bool}
    (evaluated : next.evaluated = moment.evaluated ++ [(id, result)]) (other : String) :
    next.evaluations other = moment.evaluations other + if other = id then 1 else 0 := by
  rw [evaluations, evaluated, List.map_append, List.count_append, evaluations]
  by_cases same : other = id
  · simp [same]
  · simp [same, eq_comm (a := id)]

/-- Completions depend on what a trigger waits for and how it joins. -/
theorem completions_congr {trigger other : Trigger}
    (dependencies : other.dependencies = trigger.dependencies)
    (joins : Worker.joinsAny other = Worker.joinsAny trigger) :
    moment.completions other = moment.completions trigger := by
  rw [completions, completions, dependencies, joins]

end Counting

/-- The counters of the worker agree with the history after every step. -/
theorem Counted.step {moment next : Moment} (counted : moment.Counted)
    (step : Step moment next) : next.Counted := by
  obtain ⟨effect, documents⟩ := step.effect counted
  cases effect with
  | quiet stored storedOwn refreshed received evaluated pending =>
    refine ⟨refreshed.registry ▸ refreshed.space ▸ counted.keeps, documents, ?_, ?_, ?_, ?_⟩
    · intro id trigger found
      rcases refreshed.new id trigger found with known | new
      · exact counted.own id trigger known
      · exact (storedOwn _ new.2.2).1
    · intro id trigger found
      rcases refreshed.new id trigger found with known | new
      · exact counted.ordered id trigger known
      · exact (storedOwn _ new.2.2).2
    · intro key
      rw [arrivals_of_received_eq received, ← counted.arrivals key, Worker.arrivals,
        Worker.arrivals, refreshed.received]
    · intro id
      rw [evaluations_of_evaluated_eq evaluated, ← counted.consumed id, Worker.consumed,
        Worker.consumed, refreshed.activations]
  | arrival key event keyed idle same arrivals received evaluated pending =>
    refine ⟨same.registry ▸ same.space ▸ counted.keeps, documents, ?_, ?_, ?_, ?_⟩
    · exact same.triggers ▸ counted.own
    · exact same.triggers ▸ counted.ordered
    · intro other
      rw [arrivals other, arrivals_of_received_append keyed received, counted.arrivals other]
    · intro id
      rw [evaluations_of_evaluated_eq evaluated, ← counted.consumed id, Worker.consumed,
        Worker.consumed, same.activations]
  | evaluation id trigger rest result waiting found ready change received evaluated pending =>
    refine ⟨change.registry ▸ change.space ▸ counted.keeps, documents, ?_, ?_, ?_, ?_⟩
    · intro other held heldFound
      rcases change.get?_cases heldFound with ⟨_, before⟩ | ⟨rfl, context, rfl, _⟩
      · exact counted.own other held before
      · exact counted.own other trigger found
    · intro other held heldFound
      rcases change.get?_cases heldFound with ⟨_, before⟩ | ⟨rfl, context, rfl, ordered, _⟩
      · exact counted.ordered other held before
      · exact ordered
    · intro key
      rw [arrivals_of_received_eq received, ← counted.arrivals key, Worker.arrivals,
        Worker.arrivals, change.received]
    · intro other
      rw [evaluations_of_evaluated_append evaluated, ← counted.consumed other, Worker.consumed,
        change.activations, Worker.activate]
      by_cases same : other = id
      · simp [same, Worker.consumed]
      · rw [Dict.get?_insert_of_ne _ _ (Ne.symm same), if_neg same]
        rfl

/-- A step leaves the handlers. -/
theorem Effect.registry {moment next : Moment} (effect : Effect moment next) :
    next.worker.registry = moment.worker.registry := by
  cases effect with
  | quiet _ _ refreshed => exact refreshed.registry
  | arrival _ _ _ _ same => exact same.registry
  | evaluation _ _ _ _ _ _ _ change => exact change.registry

/-- The counters agree after every step, and triggers go on joining as they did. -/
theorem Accounted.step {moment next : Moment} (accounted : moment.Accounted)
    (step : Step moment next) : next.Accounted where
  toCounted := accounted.toCounted.step step
  leaves := (step.effect accounted.toCounted).1.registry ▸ accounted.leaves

/-- Dependencies are never complete less often than before. -/
theorem Effect.completions_le {moment next : Moment} (effect : Effect moment next)
    (trigger : Trigger) : moment.completions trigger ≤ next.completions trigger := by
  refine Worker.completions_mono fun key _ => ?_
  cases effect with
  | quiet _ _ _ received => rw [arrivals_of_received_eq received]
  | arrival key event keyed _ _ _ received =>
    rw [arrivals_of_received_append keyed received]
    exact Nat.le_add_right _ _
  | evaluation _ _ _ _ _ _ _ _ received => rw [arrivals_of_received_eq received]

/-! ## The bound -/

/-- No trigger of the working copy was evaluated more often than its dependencies
were complete, and nobody was evaluated who was never in the working copy. -/
structure Bounded (moment : Moment) : Prop where
  live : ∀ id trigger, Dict.get? moment.worker.triggers id = some trigger →
    moment.evaluations id ≤ moment.completions trigger
  unknown : ∀ id, Dict.get? moment.worker.triggers id = none → id ∉ moment.worker.retired →
    moment.evaluations id = 0

/-- Every step keeps the bound. -/
theorem Bounded.step {moment next : Moment} (accounted : moment.Accounted)
    (bounded : moment.Bounded) (step : Step moment next) : next.Bounded := by
  obtain ⟨effect, _⟩ := step.effect accounted.toCounted
  have more := effect.completions_le
  cases effect with
  | quiet stored storedOwn refreshed received evaluated pending =>
    constructor
    · intro id trigger found
      rw [evaluations_of_evaluated_eq evaluated]
      rcases refreshed.new id trigger found with known | ⟨absent, live, _⟩
      · exact (bounded.live id trigger known).trans (more trigger)
      · rw [bounded.unknown id absent live]
        exact Nat.zero_le _
    · intro id absent live
      rw [evaluations_of_evaluated_eq evaluated]
      exact bounded.unknown id (refreshed.absent absent) (refreshed.retired ▸ live)
  | arrival key event keyed idle same arrivals received evaluated pending =>
    constructor
    · intro id trigger found
      rw [evaluations_of_evaluated_eq evaluated]
      exact (bounded.live id trigger (same.triggers ▸ found)).trans (more trigger)
    · intro id absent live
      rw [evaluations_of_evaluated_eq evaluated]
      exact bounded.unknown id (same.triggers ▸ absent) (same.retired ▸ live)
  | evaluation id trigger rest result waiting found ready change received evaluated pending =>
    have before := (accounted.isReady_iff found).mp ready
    constructor
    · intro other held heldFound
      rw [evaluations_of_evaluated_append evaluated]
      rcases change.get?_cases heldFound with ⟨different, earlier⟩ | ⟨rfl, context, rfl, _, join, _⟩
      · rw [if_neg different]
        exact (bounded.live other held earlier).trans (more held)
      · have same : next.completions { trigger with context } = next.completions trigger :=
          completions_congr rfl (join accounted.leaves)
        rw [if_pos rfl, same]
        exact before.trans_le (more trigger)
    · intro other absent live
      rw [evaluations_of_evaluated_append evaluated]
      rcases change.outcome with ⟨_, kept, _, _, _, retired⟩ | ⟨_, _, retired⟩
      · by_cases same : other = id
        · rw [same, kept] at absent
          cases absent
        · rw [if_neg same, bounded.unknown other (change.others other same ▸ absent)
            (retired ▸ live)]
      · rw [retired, List.mem_cons, not_or] at live
        rw [if_neg live.1, bounded.unknown other (change.others other live.1 ▸ absent) live.2]

/-- A trigger that was once in the working copy is still there, with another context
at most, or it has been retired; and it was not evaluated more often than its
dependencies were complete. -/
structure Watched (id : String) (trigger : Trigger) (moment : Moment) : Prop where
  same : ∀ held, Dict.get? moment.worker.triggers id = some held →
    held.dependencies = trigger.dependencies ∧ Worker.joinsAny held = Worker.joinsAny trigger
  gone : Dict.get? moment.worker.triggers id = none → id ∈ moment.worker.retired
  bounded : moment.evaluations id ≤ moment.completions trigger

/-- A trigger is watched from any moment on at which it is in the working copy. -/
theorem Watched.start {moment : Moment} {id : String} {trigger : Trigger}
    (bounded : moment.Bounded) (found : Dict.get? moment.worker.triggers id = some trigger) :
    moment.Watched id trigger where
  same held heldFound := by
    rw [found] at heldFound
    cases heldFound
    exact ⟨rfl, rfl⟩
  gone absent := by
    rw [found] at absent
    cases absent
  bounded := bounded.live id trigger found

/-- A watched trigger is ready as long as it was evaluated less often than its dependencies were
complete. -/
theorem Watched.isReady_iff {moment : Moment} {id : String} {trigger held : Trigger}
    (accounted : moment.Accounted) (watched : moment.Watched id trigger)
    (found : Dict.get? moment.worker.triggers id = some held) :
    moment.worker.isReady held = true ↔ moment.evaluations id < moment.completions trigger := by
  obtain ⟨dependencies, join⟩ := watched.same held found
  rw [accounted.isReady_iff found, completions_congr dependencies join]

/-- Every step keeps a watched trigger within its bound. -/
theorem Watched.step {moment next : Moment} {id : String} {trigger : Trigger}
    (accounted : moment.Accounted) (watched : moment.Watched id trigger)
    (step : Step moment next) : next.Watched id trigger := by
  obtain ⟨effect, _⟩ := step.effect accounted.toCounted
  have more := effect.completions_le trigger
  cases effect with
  | quiet stored storedOwn refreshed received evaluated pending =>
    refine ⟨fun held found => ?_, fun absent => ?_, ?_⟩
    · rcases refreshed.new id held found with known | ⟨absent, live, _⟩
      · exact watched.same held known
      · exact absurd (watched.gone absent) live
    · rw [refreshed.retired]
      exact watched.gone (refreshed.absent absent)
    · rw [evaluations_of_evaluated_eq evaluated]
      exact watched.bounded.trans more
  | arrival key event keyed idle same arrivals received evaluated pending =>
    refine ⟨same.triggers ▸ watched.same, ?_, ?_⟩
    · rw [same.triggers, same.retired]
      exact watched.gone
    · rw [evaluations_of_evaluated_eq evaluated]
      exact watched.bounded.trans more
  | evaluation other held rest result waiting found ready change received evaluated pending =>
    refine ⟨fun after afterFound => ?_, fun absent => ?_, ?_⟩
    · rcases change.get?_cases afterFound with ⟨_, earlier⟩ | ⟨rfl, context, rfl, _, join, _⟩
      · exact watched.same after earlier
      · exact ⟨(watched.same held found).1,
          (join accounted.leaves).trans (watched.same held found).2⟩
    · by_cases evaluatedNow : id = other
      · subst evaluatedNow
        rcases change.outcome with ⟨_, kept, _⟩ | ⟨_, _, retired⟩
        · rw [kept] at absent
          cases absent
        · rw [retired]
          exact List.mem_cons_self
      · have retiredBefore := watched.gone (change.others id evaluatedNow ▸ absent)
        rcases change.outcome with ⟨_, _, _, _, _, retired⟩ | ⟨_, _, retired⟩
        · exact retired ▸ retiredBefore
        · rw [retired]
          exact List.mem_cons_of_mem _ retiredBefore
    · rw [evaluations_of_evaluated_append evaluated]
      split
      · rename_i evaluatedNow
        subst evaluatedNow
        exact ((watched.isReady_iff accounted found).mp ready).trans_le more
      · exact watched.bounded.trans more

/-! ## Keeping up -/

/-- A count of the events in a history that never exceeds the completions of a trigger.
An event raises it by one at most, and only an event that the trigger waits for. -/
structure Paces (count : Moment → Nat) (trigger : Trigger) : Prop where
  least : ∀ moment, count moment ≤ moment.completions trigger
  same : ∀ moment next : Moment, next.received = moment.received → count next = count moment
  arrival : ∀ (moment next : Moment) (key : EventKey) (event : Json),
    EventKey.ofRaw? event = some key → next.received = moment.received ++ [event] →
    count next ≤ count moment + if key ∈ trigger.dependencies then 1 else 0

/-- Completions are such a count if a single event completes the dependencies at most
once. -/
theorem paces_completions {trigger : Trigger}
    (single : Worker.joinsAny trigger = false ∨ trigger.dependencies.Nodup) :
    Paces (fun moment => moment.completions trigger) trigger where
  least moment := Nat.le_refl _
  same moment next received := by
    rw [completions, completions, arrivals_of_received_eq received]
  arrival moment next key event keyed received := by
    rw [completions, arrivals_of_received_append keyed received]
    split
    · exact Worker.completions_arrival single
    · rename_i unconcerned
      refine Worker.completions_mono fun other member => ?_
      have different : other ≠ key := fun equal => unconcerned (equal ▸ member)
      simp [different]

/-- As long as a trigger is in the working copy, the index lists it under all its
subjects, and it was evaluated as often as the count says, or it lacks one evaluation
and its turn is still to come. -/
def KeepsUp (count : Moment → Nat) (id : String) (trigger : Trigger) (moment : Moment) : Prop :=
  ∀ held, Dict.get? moment.worker.triggers id = some held →
    (∀ key ∈ trigger.dependencies,
      id ∈ SourceEvents.waiting moment.worker.sourceEvents key.subject) ∧
    (count moment ≤ moment.evaluations id ∨
      (count moment ≤ moment.evaluations id + 1 ∧ id ∈ moment.pending))

/-- The index goes on listing a watched trigger under its subjects. -/
theorem Watched.listed {moment next : Moment} {id : String} {trigger : Trigger}
    (accounted : moment.Accounted) (watched : moment.Watched id trigger)
    (listed : ∀ held, Dict.get? moment.worker.triggers id = some held →
      ∀ key ∈ trigger.dependencies,
        id ∈ SourceEvents.waiting moment.worker.sourceEvents key.subject)
    (step : Step moment next) {held : Trigger}
    (found : Dict.get? next.worker.triggers id = some held) :
    ∀ key ∈ trigger.dependencies,
      id ∈ SourceEvents.waiting next.worker.sourceEvents key.subject := by
  intro key member
  have accountedNext := accounted.step step
  obtain ⟨effect, _⟩ := step.effect accounted.toCounted
  cases effect with
  | quiet stored storedOwn refreshed received evaluated pending =>
    rcases refreshed.new id held found with known | ⟨absent, live, _⟩
    · rcases refreshed.index with same | ⟨index, rebuilt⟩
      · exact same ▸ listed held known key member
      · rw [rebuilt]
        refine Worker.lists_rebuildIndex index accountedNext.own id held found key.subject ?_
        rw [Trigger.mem_subjects_iff, (watched.same held known).1]
        exact ⟨key, member, rfl⟩
    · exact absurd (watched.gone absent) live
  | arrival other event keyed idle same arrivals received evaluated pending =>
    rw [same.sourceEvents]
    exact listed held (same.triggers ▸ found) key member
  | evaluation other turned rest result waiting turnedFound ready change received evaluated pending =>
    rcases change.get?_cases found with ⟨different, earlier⟩ | ⟨rfl, context, rfl, _, _, index⟩
    · rcases change.outcome with ⟨_, _, _, _, index, _⟩ | ⟨_, index, _⟩
      · exact index ▸ listed held earlier key member
      · rw [index, SourceEvents.mem_waiting_remove, accounted.own other turned turnedFound]
        exact ⟨listed held earlier key member, fun both => different both.1⟩
    · rw [index]
      exact listed turned turnedFound key member

/-- Every step has a trigger keep up with a count. -/
theorem KeepsUp.step {count : Moment → Nat} {moment next : Moment} {id : String}
    {trigger : Trigger} (paces : Paces count trigger)
    (accounted : moment.Accounted) (watched : moment.Watched id trigger)
    (keeping : moment.KeepsUp count id trigger) (step : Step moment next) :
    next.KeepsUp count id trigger := by
  intro held found
  refine ⟨watched.listed accounted (fun held found => (keeping held found).1) step found, ?_⟩
  obtain ⟨effect, _⟩ := step.effect accounted.toCounted
  cases effect with
  | quiet stored storedOwn refreshed received evaluated pending =>
    rw [evaluations_of_evaluated_eq evaluated, paces.same moment next received]
    rcases refreshed.new id held found with known | ⟨absent, live, _⟩
    · rcases (keeping held known).2 with done | ⟨one, waiting⟩
      · exact .inl done
      · rcases pending id waiting with still | idle
        · exact .inr ⟨one, still⟩
        · have notReady : ¬ moment.worker.isReady held = true := by
            rw [Worker.evaluates, known] at idle
            simpa using idle
          rw [watched.isReady_iff accounted known] at notReady
          exact .inl ((paces.least moment).trans (Nat.not_lt.mp notReady))
    · exact absurd (watched.gone absent) live
  | arrival key event keyed idle same arrivals received evaluated pending =>
    obtain ⟨listed, counted⟩ := keeping held (same.triggers ▸ found)
    rw [idle] at counted
    have done := counted.resolve_right fun waiting => absurd waiting.2 List.not_mem_nil
    have more := paces.arrival moment next key event keyed received
    rw [evaluations_of_evaluated_eq evaluated, pending]
    by_cases concerned : key ∈ trigger.dependencies
    · rw [if_pos concerned] at more
      exact .inr ⟨more.trans (Nat.add_le_add_right done 1), listed key concerned⟩
    · rw [if_neg concerned] at more
      exact .inl (more.trans done)
  | evaluation other turned rest result waiting turnedFound ready change received evaluated pending =>
    rw [evaluations_of_evaluated_append evaluated, paces.same moment next received, pending]
    rcases change.get?_cases found with ⟨different, earlier⟩ | ⟨rfl, _⟩
    · rw [if_neg different]
      rcases (keeping held earlier).2 with done | ⟨one, turn⟩
      · exact .inl done
      · rw [waiting] at turn
        exact .inr ⟨one, (List.mem_cons.mp turn).resolve_left different⟩
    · rw [if_pos rfl]
      rcases (keeping turned turnedFound).2 with done | ⟨one, _⟩
      · exact .inl (done.trans (Nat.le_add_right _ _))
      · exact .inl one

/-- As long as a trigger is in the working copy, the index lists it under all its
subjects, and it was evaluated as often as its dependencies were complete, or it
lacks one evaluation and its turn is still to come. -/
def Served (id : String) (trigger : Trigger) (moment : Moment) : Prop :=
  ∀ held, Dict.get? moment.worker.triggers id = some held →
    (∀ key ∈ trigger.dependencies,
      id ∈ SourceEvents.waiting moment.worker.sourceEvents key.subject) ∧
    (moment.completions trigger ≤ moment.evaluations id ∨
      (moment.completions trigger ≤ moment.evaluations id + 1 ∧ id ∈ moment.pending))

/-! ## Whole runs -/

/-- A new worker has its counters right after its bootstrap, with the handlers that it
was created with, and it has an index that lists all its triggers. -/
theorem counted_boot {worker : Worker} {around : Surroundings} {source : EventSource}
    (new : worker.IsNew) (keeps : worker.registry.KeepsKeys worker.space)
    (keyed : around.documents.OwnKeyed worker.space)
    (booted : (worker.bootstrap around.documents).1 = .ok source) :
    (boot worker around).Counted ∧
      (boot worker around).worker.registry = worker.registry ∧
      Worker.Lists (boot worker around).worker.triggers
        (boot worker around).worker.sourceEvents := by
  obtain ⟨globalContext, _, _, succeeds, equal⟩ := Worker.bootstrap_eq_ok booted
  obtain ⟨stored, storedOwn, refreshed⟩ := Worker.refresh_refreshed
    { worker with globalContext, eventSource := some source } keyed
  have lists := Worker.lists_refresh
    { worker with globalContext, eventSource := some source } keyed new.triggers succeeds
  have fromStored : ∀ id trigger, Dict.get? (boot worker around).worker.triggers id =
      some trigger → (id, trigger) ∈ stored := by
    intro id trigger found
    rw [boot, equal] at found
    rcases refreshed.new id trigger found with known | taken
    · rw [new.triggers] at known
      cases known
    · exact taken.2.2
  refine ⟨⟨?_, ?_, ?_, ?_, ?_, ?_⟩, ?_, ?_⟩
  · rw [boot, equal, refreshed.registry, refreshed.space]
    exact keeps
  · rw [boot, equal, refreshed.space]
    exact keyed
  · exact fun id trigger found => (storedOwn _ (fromStored id trigger found)).1
  · exact fun id trigger found => (storedOwn _ (fromStored id trigger found)).2
  · intro key
    rw [boot, equal, Worker.arrivals, refreshed.received, new.received]
    rfl
  · intro id
    rw [boot, equal, Worker.consumed, refreshed.activations, new.activations]
    rfl
  · rw [boot, equal, refreshed.registry]
  · rw [boot, equal]
    exact lists

/-- A new worker has its counters right after its bootstrap, and it has an index that
lists all its triggers. -/
theorem accounted_boot {worker : Worker} {around : Surroundings} {source : EventSource}
    (new : worker.IsNew) (keeps : worker.registry.KeepsKeys worker.space)
    (leaves : worker.registry.LeavesJoin) (keyed : around.documents.OwnKeyed worker.space)
    (booted : (worker.bootstrap around.documents).1 = .ok source) :
    (boot worker around).Accounted ∧
      Worker.Lists (boot worker around).worker.triggers
        (boot worker around).worker.sourceEvents := by
  obtain ⟨counted, registry, lists⟩ := counted_boot new keeps keyed booted
  exact ⟨⟨counted, registry ▸ leaves⟩, lists⟩

/-- Nobody was evaluated before the bootstrap. -/
theorem bounded_boot (worker : Worker) (around : Surroundings) :
    (boot worker around).Bounded :=
  ⟨fun _ _ _ => Nat.zero_le _, fun _ _ _ => rfl⟩

/-- Every trigger keeps up right after the bootstrap. -/
theorem keepsUp_boot {count : Moment → Nat} {worker : Worker} {around : Surroundings}
    (lists : Worker.Lists (boot worker around).worker.triggers
      (boot worker around).worker.sourceEvents) {id : String} {trigger : Trigger}
    (least : count (boot worker around) ≤ (boot worker around).completions trigger)
    (found : Dict.get? (boot worker around).worker.triggers id = some trigger) :
    (boot worker around).KeepsUp count id trigger := by
  intro held heldFound
  rw [found] at heldFound
  cases heldFound
  refine ⟨fun key member => lists id trigger found key.subject
    (Trigger.mem_subjects_iff.mpr ⟨key, member, rfl⟩), .inl ?_⟩
  have nothing : (boot worker around).completions trigger = 0 := Worker.completions_zero
  exact (least.trans nothing.le).trans (Nat.zero_le _)

/-- Every trigger is served right after the bootstrap. -/
theorem served_boot {worker : Worker} {around : Surroundings}
    (lists : Worker.Lists (boot worker around).worker.triggers
      (boot worker around).worker.sourceEvents) {id : String} {trigger : Trigger}
    (found : Dict.get? (boot worker around).worker.triggers id = some trigger) :
    (boot worker around).Served id trigger :=
  show (boot worker around).KeepsUp (fun moment => moment.completions trigger) id trigger from
    keepsUp_boot lists (Nat.le_refl _) found

section Run

variable {worker : Worker} {around : Surroundings} {source : EventSource} {moment : Moment}

/-- The counters agree with the history in every moment of a run, whatever the handlers
do to the way of joining. -/
theorem Counted.steps {earlier later : Moment} (counted : earlier.Counted)
    (steps : Steps earlier later) : later.Counted := by
  induction steps with
  | refl => exact counted
  | tail _ step ih => exact ih.step step

/-- The counters agree with the history in every moment of a run. -/
theorem Accounted.steps {earlier later : Moment} (accounted : earlier.Accounted)
    (bounded : earlier.Bounded) (steps : Steps earlier later) :
    later.Accounted ∧ later.Bounded := by
  induction steps with
  | refl => exact ⟨accounted, bounded⟩
  | tail _ step ih => exact ⟨ih.1.step step, ih.2.step ih.1 step⟩

/-- A trigger stays within its bound from any moment on at which it is in the working
copy. -/
theorem Watched.steps {earlier later : Moment} {id : String} {trigger : Trigger}
    (accounted : earlier.Accounted) (bounded : earlier.Bounded)
    (watched : earlier.Watched id trigger) (steps : Steps earlier later) :
    later.Watched id trigger := by
  induction steps with
  | refl => exact watched
  | tail before step ih => exact ih.step (accounted.steps bounded before).1 step

/-- A trigger goes on keeping up with a count. -/
theorem KeepsUp.steps {count : Moment → Nat} {earlier later : Moment} {id : String}
    {trigger : Trigger} (paces : Paces count trigger)
    (accounted : earlier.Accounted) (bounded : earlier.Bounded)
    (watched : earlier.Watched id trigger) (keeping : earlier.KeepsUp count id trigger)
    (steps : Steps earlier later) : later.KeepsUp count id trigger := by
  induction steps with
  | refl => exact keeping
  | tail before step ih =>
    exact ih.step paces (accounted.steps bounded before).1
      (watched.steps accounted bounded before) step

/-- A trigger stays served that a single event completes at most once. -/
theorem Served.steps {earlier later : Moment} {id : String} {trigger : Trigger}
    (single : Worker.joinsAny trigger = false ∨ trigger.dependencies.Nodup)
    (accounted : earlier.Accounted) (bounded : earlier.Bounded)
    (watched : earlier.Watched id trigger) (served : earlier.Served id trigger)
    (steps : Steps earlier later) : later.Served id trigger :=
  KeepsUp.steps (paces_completions single) accounted bounded watched served steps

/-- A trigger that joins all its dependencies was never evaluated more often than the
rarest of them has arrived, from any moment on at which it is in the working copy.
One that was loaded at bootstrap and is still there was evaluated exactly as often
whenever no turn is pending, whatever came of its evaluations. -/
theorem evaluations_follow_arrivals (new : worker.IsNew)
    (keeps : worker.registry.KeepsKeys worker.space) (leaves : worker.registry.LeavesJoin)
    (keyed : around.documents.OwnKeyed worker.space)
    (booted : (worker.bootstrap around.documents).1 = .ok source)
    (reached : Steps (boot worker around) moment) :
    (∀ earlier id trigger, Steps (boot worker around) earlier → Steps earlier moment →
        Dict.get? earlier.worker.triggers id = some trigger → Worker.joinsAny trigger = false →
        moment.evaluations id ≤ moment.complete trigger.dependencies) ∧
      ∀ id trigger, Dict.get? (boot worker around).worker.triggers id = some trigger →
        Worker.joinsAny trigger = false → Dict.contains moment.worker.triggers id = true →
        moment.pending = [] →
        moment.evaluations id = moment.complete trigger.dependencies := by
  obtain ⟨accounted, lists⟩ := accounted_boot new keeps leaves keyed booted
  have bounded := bounded_boot worker around
  have together : ∀ trigger, Worker.joinsAny trigger = false →
      moment.completions trigger = moment.complete trigger.dependencies := by
    intro trigger all
    simp [completions, Worker.completions, all, complete]
  constructor
  · intro earlier id trigger before after found all
    obtain ⟨accountedEarlier, boundedEarlier⟩ := accounted.steps bounded before
    have watched := (Watched.start boundedEarlier found).steps accountedEarlier boundedEarlier after
    exact together trigger all ▸ watched.bounded
  · intro id trigger found all live idle
    have watched := Watched.start bounded found
    have served := (served_boot lists found).steps (.inl all) accounted bounded watched
      reached
    obtain ⟨held, heldFound⟩ := Option.isSome_iff_exists.mp live
    obtain ⟨_, done | ⟨_, turn⟩⟩ := served held heldFound
    · rw [← together trigger all]
      exact Nat.le_antisymm (watched.steps accounted bounded reached).bounded done
    · rw [idle] at turn
      exact absurd turn List.not_mem_nil

end Run

/-- A worker with the built-in handlers for one namespace. -/
def sampleWorker : Worker where
  id := "worker"
  space := "demo"
  settings := { maxIdlePolls := 1 }
  hasHub := true
  lifecycle := .running

/-- A trigger that waits for two events. -/
def sampleTrigger : Trigger where
  id := "both"
  condition := Vocabulary.holds
  action := Vocabulary.pass
  context := []
  dependencies := [⟨"left", "done"⟩, ⟨"right", "done"⟩]
  transient := false

/-- A namespace with this trigger, and a topic on which both events have been
published. -/
def sampleAround : Surroundings where
  documents :=
    [("demo", [
      (Documents.eventSource, .object (EventSource.toFields ⟨"log", .memory "events"⟩)),
      (Documents.globalContext, .object []),
      (Documents.triggers, Documents.ofTriggers [("both", sampleTrigger)])])]
  hub :=
    Worker.publishAll [] "events"
      [EventKey.toRaw ⟨"left", "done"⟩ .null, EventKey.toRaw ⟨"right", "done"⟩ .null]

/-- A condition that notes down whose trigger it is asked for, and never holds. -/
def notingCondition : Condition := fun context _ around =>
  { result := .ok false, context
    around := { around with journal := around.journal.concat (.string context.trigger) } }

/-- A worker with this condition in place of the one that always holds. -/
def notingWorker : Worker :=
  { sampleWorker with
    registry := Registry.builtin.registerCondition Vocabulary.holds notingCondition }

/-- The condition touches neither documents nor the way of joining. -/
theorem notingWorker_handlers : notingWorker.registry.KeepsKeys notingWorker.space ∧
    notingWorker.registry.LeavesJoin :=
  ⟨(Registry.keepsJoin_builtin.keepsKeys _).registerCondition _ fun _ _ _ keyed => keyed,
    Registry.keepsJoin_builtin.leavesJoin.registerCondition _
      ⟨fun _ _ _ distinct => distinct, fun _ _ _ => rfl⟩⟩

/-- The sample surroundings, with both events published twice. -/
def repeatedAround : Surroundings :=
  { sampleAround with
    hub := Worker.publishAll sampleAround.hub "events"
      [EventKey.toRaw ⟨"left", "done"⟩ .null, EventKey.toRaw ⟨"right", "done"⟩ .null] }

/-- A run over both events, each of them twice, evaluates the trigger twice, as often as both have
come, although it never fires. Both times its condition was asked. -/
theorem sample_evaluations : ∃ moment trigger,
    Steps (boot notingWorker repeatedAround) moment ∧
      Dict.get? (boot notingWorker repeatedAround).worker.triggers "both" = some trigger ∧
      moment.evaluations "both" = 2 ∧ moment.complete trigger.dependencies = 2 ∧
      moment.around.journal.map Json.asString? = [some "both", some "both"] := by
  have new : notingWorker.IsNew := ⟨rfl, rfl, rfl, rfl⟩
  obtain ⟨keeps, leaves⟩ := notingWorker_handlers
  have written : repeatedAround.documents.get? notingWorker.space Documents.triggers =
      some (Documents.ofTriggers [("both", sampleTrigger)]) := rfl
  have keyed := Documents.OwnKeyed.of_get? written (by simp [sampleTrigger])
  have boots : (notingWorker.bootstrap repeatedAround.documents).1.isOk = true := by decide +kernel
  have loads : (Dict.get? (boot notingWorker repeatedAround).worker.triggers "both").any
      (fun trigger => !Worker.joinsAny trigger) = true := by
    decide +kernel
  have runs : (notingWorker.start 6 repeatedAround).any (fun outcome =>
      Dict.contains outcome.worker.triggers "both" && outcome.worker.consumed "both" == 2 &&
        outcome.around.journal.map Json.asString? == [some "both", some "both"]) = true := by
    decide +kernel
  obtain ⟨trigger, found, all⟩ := (Option.any_eq_true _ _).mp loads
  obtain ⟨outcome, ends, told⟩ := (Option.any_eq_true _ _).mp runs
  simp only [Bool.and_eq_true, beq_iff_eq] at told
  obtain ⟨⟨live, counted⟩, noted⟩ := told
  obtain ⟨moment, steps, worker, around, idle⟩ := steps_start ends
  cases booted : (notingWorker.bootstrap repeatedAround.documents).1 with
  | error cause => simp [booted, Except.isOk, Except.toBool] at boots
  | ok source =>
    have exact := (evaluations_follow_arrivals new keeps leaves keyed booted steps).2
      "both" trigger found (by simpa using all) (worker ▸ live) idle
    have accounted := (accounted_boot new keeps leaves keyed booted).1
    have twice := (accounted.steps (bounded_boot _ _) steps).1.consumed "both"
    rw [worker, counted] at twice
    exact ⟨moment, trigger, steps, found, twice.symm, exact ▸ twice.symm, around ▸ noted⟩

end EventFlow.Moment
