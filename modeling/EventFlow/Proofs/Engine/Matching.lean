import EventFlow.Proofs.Engine.Listing
import EventFlow.Proofs.Log.Relay

/-!
# Matching events

A turn goes to whoever waits for the subject of an event, so it is up to the counters
whether a trigger is evaluated on an event of another type. The event is no arrival for
such a trigger: if it is ready all the same, then its dependencies had already been
complete once more than it was evaluated when the event came. A trigger that had nothing
to catch up on when it came into the working copy never gets that far behind.
-/

namespace EventFlow

/-- A trigger waits for an event if one of its dependencies has the event's key. -/
def Trigger.Awaits (trigger : Trigger) (event : Json) : Prop :=
  ∃ key ∈ trigger.dependencies, key.isKeyOf event = true

instance (trigger : Trigger) (event : Json) : Decidable (trigger.Awaits event) :=
  inferInstanceAs (Decidable (∃ key ∈ trigger.dependencies, key.isKeyOf event = true))

namespace Moment

/-! ## The event at hand -/

/-- While turns are pending they are turns on the event that was received last, and it
was received between two records. -/
theorem Steps.last_receipt {start moment : Moment} (idle : start.pending = [])
    (steps : Steps start moment) (busy : moment.pending ≠ []) :
    ∃ before key, Steps start before ∧ before.pending = [] ∧
      Step before (before.receive key moment.event) ∧
      Steps (before.receive key moment.event) moment ∧
      moment.received = before.received ++ [moment.event] := by
  induction steps with
  | refl => exact absurd idle busy
  | @tail middle _ earlier step ih =>
    cases step with
    | change keyed =>
      obtain ⟨before, key, first, quiet, receipt, later, received⟩ := ih busy
      exact ⟨before, key, first, quiet, receipt, later.tail (.change keyed), received⟩
    | refresh quiet => exact absurd quiet busy
    | skip quiet => exact absurd quiet busy
    | @receive record key event quiet holds =>
      exact ⟨middle, key, earlier, quiet, .receive quiet holds, .refl, rfl⟩
    | turn waiting =>
      obtain ⟨before, key, first, quiet, receipt, later, received⟩ := ih (by simp [waiting])
      exact ⟨before, key, first, quiet, receipt, later.tail (.turn waiting), received⟩

/-- An event that a trigger does not wait for completes nothing for it. -/
theorem completions_of_not_awaits {before moment : Moment} {trigger : Trigger} {event : Json}
    (received : moment.received = before.received ++ [event]) (other : ¬ trigger.Awaits event) :
    moment.completions trigger = before.completions trigger := by
  have same : ∀ key ∈ trigger.dependencies, moment.arrivals key = before.arrivals key := by
    intro key member
    have foreign : ¬ key.isKeyOf event = true := fun own => other ⟨key, member, own⟩
    simp [arrivals, received, List.countP_append, foreign]
  exact Nat.le_antisymm (Worker.completions_mono fun key member => (same key member).le)
    (Worker.completions_mono fun key member => (same key member).ge)

/-- No step takes an evaluation back. -/
theorem evaluations_le_of_steps {before moment : Moment} (steps : Steps before moment)
    (id : String) : before.evaluations id ≤ moment.evaluations id := by
  induction steps with
  | refl => exact Nat.le_refl _
  | tail _ step ih =>
    refine ih.trans ?_
    cases step with
    | change | refresh | skip | receive => exact Nat.le_refl _
    | turn =>
      simp only [turn, evaluations]
      split
      · rw [List.map_append, List.count_append]
        exact Nat.le_add_right _ _
      · exact Nat.le_refl _

/-- A trigger that was retired does not come back. -/
theorem Counted.absent_of_retired {before moment : Moment} {id : String}
    (counted : before.Counted) (absent : Dict.get? before.worker.triggers id = none)
    (retired : id ∈ before.worker.retired) (steps : Steps before moment) :
    Dict.get? moment.worker.triggers id = none ∧ id ∈ moment.worker.retired := by
  induction steps with
  | refl => exact ⟨absent, retired⟩
  | @tail middle next earlier step ih =>
    obtain ⟨absent, retired⟩ := ih
    obtain ⟨effect, _⟩ := step.effect (counted.steps earlier)
    cases effect with
    | quiet stored storedOwn refreshed =>
      refine ⟨?_, refreshed.retired ▸ retired⟩
      cases found : Dict.get? next.worker.triggers id with
      | none => rfl
      | some trigger =>
        rcases refreshed.new id trigger found with known | ⟨_, live, _⟩
        · rw [absent] at known
          cases known
        · exact absurd retired live
    | arrival key event keyed idle same =>
      rw [same.triggers, same.retired]
      exact ⟨absent, retired⟩
    | evaluation other held rest result waiting found ready change =>
      have different : id ≠ other := by
        rintro rfl
        rw [absent] at found
        cases found
      refine ⟨(change.others id different).trans absent, ?_⟩
      rcases change.outcome with ⟨_, _, _, _, _, same⟩ | ⟨_, _, more⟩
      · exact same ▸ retired
      · exact more ▸ List.mem_cons_of_mem other retired

/-- A watched trigger that is still in the working copy was there all the time. -/
theorem Watched.exists_before {before moment : Moment} {id : String} {trigger held : Trigger}
    (watched : before.Watched id trigger) (counted : before.Counted) (steps : Steps before moment)
    (found : Dict.get? moment.worker.triggers id = some held) :
    ∃ earlier, Dict.get? before.worker.triggers id = some earlier := by
  rw [← Option.isSome_iff_exists, Option.isSome_iff_ne_none]
  intro absent
  rw [(counted.absent_of_retired absent (watched.gone absent) steps).1] at found
  cases found

/-- A trigger that is evaluated on an event which it does not wait for was behind before
that event came. -/
theorem Counted.behind {before moment : Moment} {id : String} {held : Trigger}
    (counted : moment.Counted) (found : Dict.get? moment.worker.triggers id = some held)
    (evaluates : moment.worker.evaluates id = true)
    (received : moment.received = before.received ++ [moment.event])
    (other : ¬ held.Awaits moment.event) :
    moment.evaluations id < before.completions held := by
  rw [← completions_of_not_awaits received other]
  refine (counted.isReady_iff found).mp ?_
  simpa [Worker.evaluates, found] using evaluates

/-! ## Nothing to catch up on -/

/-- A moment at which a trigger has just come into the working copy and has nothing to
catch up on: behind the bootstrap, or behind a refresh that succeeded before the
dependencies of the trigger were ever complete. -/
inductive TakenUp (worker : Worker) (around : Surroundings) (id : String) (trigger : Trigger) :
    Moment → Prop where
  | boot (found : Dict.get? (boot worker around).worker.triggers id = some trigger) :
      TakenUp worker around id trigger (boot worker around)
  | refresh {moment : Moment} (reached : Steps (Moment.boot worker around) moment)
      (idle : moment.pending = [])
      (absent : Dict.get? moment.worker.triggers id = none)
      (succeeds : (moment.worker.refresh moment.around.documents).1 = .ok ())
      (found : Dict.get? (moment.worker.refresh moment.around.documents).2.triggers id =
        some trigger)
      (fresh : moment.completions trigger = 0) :
      TakenUp worker around id trigger
        { moment with worker := (moment.worker.refresh moment.around.documents).2 }

section TakenUp

variable {worker : Worker} {around : Surroundings} {id : String} {trigger : Trigger}
  {start : Moment}

/-- A moment at which a trigger was taken up is one of the run. -/
theorem TakenUp.reached (taken : TakenUp worker around id trigger start) :
    Steps (Moment.boot worker around) start := by
  cases taken with
  | boot => exact .refl
  | refresh reached idle => exact reached.tail (.refresh idle)

/-- Triggers are taken up between two records. -/
theorem TakenUp.idle (taken : TakenUp worker around id trigger start) : start.pending = [] := by
  cases taken with
  | boot => rfl
  | refresh _ idle => exact idle

/-- A trigger that was taken up is in the working copy. -/
theorem TakenUp.found (taken : TakenUp worker around id trigger start) :
    Dict.get? start.worker.triggers id = some trigger := by
  cases taken with
  | boot found => exact found
  | refresh _ _ _ _ found => exact found

/-- A trigger is served from the moment on at which it was taken up. -/
theorem TakenUp.served (taken : TakenUp worker around id trigger start)
    (counted : start.Counted)
    (lists : Worker.Lists (Moment.boot worker around).worker.triggers
      (Moment.boot worker around).worker.sourceEvents) :
    start.Served id trigger := by
  cases taken with
  | boot found => exact served_boot lists found
  | @refresh moment _ _ absent succeeds found fresh =>
    intro held heldFound
    rw [found] at heldFound
    cases heldFound
    have grown : (moment.worker.refresh moment.around.documents).2.triggers ≠
        moment.worker.triggers := by
      intro same
      rw [same, absent] at found
      cases found
    refine ⟨fun key member => ?_, .inl ?_⟩
    · rw [← counted.own id trigger found]
      exact Worker.indexed_of_refresh_ok grown succeeds id trigger found key member
    · exact fresh.le.trans (Nat.zero_le _)

/-- From the moment on at which it was taken up a trigger is watched, and between two
records it is never behind. -/
theorem TakenUp.caught_up (taken : TakenUp worker around id trigger start)
    (accounted : (Moment.boot worker around).Accounted)
    (lists : Worker.Lists (Moment.boot worker around).worker.triggers
      (Moment.boot worker around).worker.sourceEvents)
    (single : Worker.joinsAny trigger = false ∨ trigger.dependencies.Nodup) {moment : Moment}
    (steps : Steps start moment) :
    moment.Watched id trigger ∧ ∀ held, moment.pending = [] →
      Dict.get? moment.worker.triggers id = some held →
      moment.completions trigger ≤ moment.evaluations id := by
  obtain ⟨accountedStart, boundedStart⟩ := accounted.steps (bounded_boot _ _) taken.reached
  have watched := Watched.start boundedStart taken.found
  have served := (taken.served accountedStart.toCounted lists).steps single accountedStart
    boundedStart watched steps
  refine ⟨watched.steps accountedStart boundedStart steps, fun held idle found => ?_⟩
  rcases (served held found).2 with done | ⟨_, turn⟩
  · exact done
  · rw [idle] at turn
    exact absurd turn List.not_mem_nil

/-- A trigger that was taken up with nothing to catch up on is evaluated on events that it
waits for alone. -/
theorem TakenUp.awaits (taken : TakenUp worker around id trigger start)
    (accounted : (Moment.boot worker around).Accounted)
    (lists : Worker.Lists (Moment.boot worker around).worker.triggers
      (Moment.boot worker around).worker.sourceEvents)
    (single : Worker.joinsAny trigger = false ∨ trigger.dependencies.Nodup) {moment : Moment}
    {held : Trigger} (onward : Steps start moment) (busy : moment.pending ≠ [])
    (found : Dict.get? moment.worker.triggers id = some held)
    (evaluates : moment.worker.evaluates id = true) : held.Awaits moment.event := by
  have counted := accounted.toCounted
  by_contra other
  obtain ⟨before, key, first, idle, receipt, later, received⟩ :=
    onward.last_receipt taken.idle busy
  have rest : Steps before moment := .head receipt later
  obtain ⟨watched, caughtUp⟩ := taken.caught_up accounted lists single first
  obtain ⟨earlier, foundBefore⟩ :=
    watched.exists_before (counted.steps (taken.reached.trans first)) rest found
  have done : before.completions trigger ≤ moment.evaluations id :=
    (caughtUp earlier idle foundBefore).trans (evaluations_le_of_steps rest id)
  obtain ⟨dependencies, joins⟩ :=
    (taken.caught_up accounted lists single onward).1.same held found
  have behind := (counted.steps (taken.reached.trans onward)).behind found evaluates received other
  rw [completions_congr dependencies joins] at behind
  exact absurd done (Nat.not_le.mpr behind)

end TakenUp

/-- A trigger is evaluated on an event that it does not wait for only if its dependencies
had been complete more often than it has been evaluated already when the event came. That never
happens to one that was taken up with nothing to catch up on, if the handlers do not set
the way of joining and no event completes its dependencies twice. -/
theorem evaluated_on_awaited {worker : Worker} {around : Surroundings} {source : EventSource}
    {moment : Moment} {id : String} {rest : List String} {held : Trigger}
    (new : worker.IsNew) (keeps : worker.registry.KeepsKeys worker.space)
    (keyed : around.documents.OwnKeyed worker.space)
    (booted : (worker.bootstrap around.documents).1 = .ok source)
    (reached : Steps (boot worker around) moment) (next : moment.pending = id :: rest)
    (found : Dict.get? moment.worker.triggers id = some held)
    (evaluates : moment.worker.evaluates id = true) :
    (held.Awaits moment.event ∨
        ∃ before key, Steps (boot worker around) before ∧ before.pending = [] ∧
          Steps (before.receive key moment.event) moment ∧
          moment.evaluations id < before.completions held) ∧
      (worker.registry.LeavesJoin → ∀ start trigger, TakenUp worker around id trigger start →
        Steps start moment → (Worker.joinsAny trigger = false ∨ trigger.dependencies.Nodup) →
        held.Awaits moment.event) := by
  obtain ⟨counted, -, lists⟩ := counted_boot new keeps keyed booted
  have busy : moment.pending ≠ [] := by simp [next]
  constructor
  · by_cases awaited : held.Awaits moment.event
    · exact .inl awaited
    · obtain ⟨before, key, first, quiet, -, later, received⟩ := reached.last_receipt rfl busy
      exact .inr ⟨before, key, first, quiet, later,
        (counted.steps reached).behind found evaluates received awaited⟩
  · intro leaves start trigger taken onward single
    obtain ⟨accounted, -⟩ := accounted_boot new keeps leaves keyed booted
    exact taken.awaits accounted lists single onward busy found evaluates

/-- Give all ids of a list their turns. -/
def turns : List String → Moment → Moment
  | [], moment => moment
  | id :: rest, moment => turns rest (moment.turn id rest)

/-- Receive an event without data. -/
def meet (moment : Moment) (key : EventKey) : Moment :=
  moment.receive key (key.toRaw .null)

/-- Receive an event without data, and give all that wait for its subject their turns. -/
def handle (moment : Moment) (key : EventKey) : Moment :=
  turns (moment.meet key).pending (moment.meet key)

/-- An event without data can be received between two records. -/
theorem step_meet {moment : Moment} (idle : moment.pending = []) (key : EventKey) :
    Step moment (moment.meet key) := by
  have relayed : Json.null.relayed? = some .null := Json.relayed?_of_fits trivial trivial
  have holds : (key.record .null 0).event? = some (key, key.toRaw .null) := by
    rw [EventKey.event?_record, relayed]
    rfl
  exact .receive idle holds

/-- Giving all pending ids their turns is made of steps. -/
theorem steps_turns {ids : List String} (moment : Moment) (pending : moment.pending = ids) :
    Steps moment (turns ids moment) ∧ (turns ids moment).pending = [] := by
  induction ids generalizing moment with
  | nil => exact ⟨.refl, pending⟩
  | cons id rest ih =>
    obtain ⟨steps, done⟩ := ih (moment.turn id rest) rfl
    exact ⟨.head (.turn pending) steps, done⟩

/-- Handling an event is made of steps. -/
theorem steps_handle {moment : Moment} (idle : moment.pending = []) (key : EventKey) :
    Steps moment (moment.handle key) ∧ (moment.handle key).pending = [] := by
  obtain ⟨steps, done⟩ := steps_turns (moment.meet key) rfl
  exact ⟨.head (step_meet idle key) steps, done⟩

/-- The sample worker with its trigger about to be evaluated on the second of the events
that it waits for. -/
def sampleMoment : Moment :=
  ((boot sampleWorker sampleAround).handle ⟨"left", "done"⟩).meet ⟨"right", "done"⟩

/-- The sample trigger is evaluated on an event for which it waits. -/
theorem sample_evaluated_on_awaited : Steps (boot sampleWorker sampleAround) sampleMoment ∧
    sampleMoment.pending = ["both"] ∧ sampleMoment.worker.evaluates "both" = true ∧
    sampleTrigger.Awaits sampleMoment.event := by
  have started : (boot sampleWorker sampleAround).pending = [] := rfl
  obtain ⟨handled, idle⟩ := steps_handle started ⟨"left", "done"⟩
  have reached : Steps (boot sampleWorker sampleAround) sampleMoment :=
    handled.tail (step_meet idle ⟨"right", "done"⟩)
  have found : Dict.get? sampleMoment.worker.triggers "both" = some sampleTrigger := rfl
  have evaluates : sampleMoment.worker.evaluates "both" = true := by decide +kernel
  have turn := evaluated_on_awaited sampleWorker_isNew (Registry.keepsJoin_builtin.keepsKeys _)
    sampleAround_ownKeyed sampleWorker_booted reached rfl found evaluates
  have awaited := turn.2 Registry.keepsJoin_builtin.leavesJoin _ sampleTrigger (.boot rfl)
    reached (.inl rfl)
  exact ⟨reached, rfl, evaluates, awaited⟩

/-- The next turn is an evaluation of a trigger on an event that it does not wait for. -/
def Strays (moment : Moment) : Prop :=
  ∃ id ∈ moment.pending.head?, ∃ held ∈ Dict.get? moment.worker.triggers id,
    moment.worker.evaluates id = true ∧ ¬ held.Awaits moment.event

instance (moment : Moment) : Decidable moment.Strays := by
  unfold Strays
  infer_instance

/-- Change the documents, and refresh the working copy from them. -/
def renew (moment : Moment) (documents : Documents) : Moment :=
  { moment with
    around := { moment.around with documents }
    worker := (moment.worker.refresh documents).2 }

/-- Renewing the documents of the sample namespace is made of steps. -/
theorem steps_renew {moment : Moment} (idle : moment.pending = [])
    (space : moment.worker.space = "demo") (triggers : List Trigger) (index : Json) :
    Steps moment (moment.renew (documentsWith triggers index)) ∧
      (moment.renew (documentsWith triggers index)).pending = [] := by
  have keyed : (documentsWith triggers index).OwnKeyed moment.worker.space :=
    space ▸ ownKeyed_documentsWith triggers index
  have posted : Step moment { moment with
      around := { moment.around with documents := documentsWith triggers index } } :=
    .change fun _ => keyed
  exact ⟨.tail (.single posted) (.refresh idle), idle⟩

/-- A trigger that waits for one event twice, and joins any. -/
def doubledTrigger : Trigger :=
  { sampleTrigger with
    context := [("join", .string "any")]
    dependencies := [⟨"left", "done"⟩, ⟨"left", "done"⟩] }

/-- A trigger whose action has it join any. -/
def wideningTrigger : Trigger :=
  { sampleTrigger with action := "widen" }

/-- A worker with this action. -/
def wideningWorker : Worker :=
  { sampleWorker with
    registry := Registry.builtin.registerAction "widen" (Handler.confined fun context _ =>
      (.ok (), context.set Worker.joinKey (.string "any"))) }

/-- The sample surroundings with another trigger. -/
def aroundWith (trigger : Trigger) : Surroundings :=
  { sampleAround with documents := documentsWith [trigger] (.object []) }

/-- A trigger that was taken up when its dependencies had been complete, about to have its
turn on another event. -/
def lateMoment : Moment :=
  ((((boot sampleWorker sampleAround).handle ⟨"left", "done"⟩).renew
    (documentsWith [sampleTrigger, lateTrigger] (.object []))).meet ⟨"left", "other"⟩).turn
      "both" ["late"]

/-- A trigger that was taken up before that, but listed only by a later refresh. -/
def missedMoment : Moment :=
  (((((boot sampleWorker sampleAround).renew spoiledDocuments).handle ⟨"left", "done"⟩).renew
    (documentsWith [sampleTrigger, lateTrigger, { lateTrigger with id := "next" }]
      (.object []))).meet ⟨"left", "other"⟩).turn "both" ["late", "next"]

/-- A trigger that was had joining any after it had joined all. -/
def widenedMoment : Moment :=
  ((((boot wideningWorker (aroundWith wideningTrigger)).handle ⟨"left", "done"⟩).handle
    ⟨"left", "done"⟩).handle ⟨"right", "done"⟩).meet ⟨"left", "other"⟩

/-- A trigger for which one event has counted twice. -/
def doubledMoment : Moment :=
  ((boot sampleWorker (aroundWith doubledTrigger)).handle ⟨"left", "done"⟩).meet ⟨"left", "other"⟩

/-- A trigger is evaluated on an event that it does not wait for if it was taken up when
its dependencies had been complete, if it was taken up before but not listed, if a handler
sets the way of joining, or if one event counts twice for it. -/
theorem evaluated_on_other_events :
    (Steps (boot sampleWorker sampleAround) lateMoment ∧ lateMoment.Strays) ∧
      (Steps (boot sampleWorker sampleAround) missedMoment ∧ missedMoment.Strays) ∧
      (Steps (boot wideningWorker (aroundWith wideningTrigger)) widenedMoment ∧
        widenedMoment.Strays) ∧
      Steps (boot sampleWorker (aroundWith doubledTrigger)) doubledMoment ∧
        doubledMoment.Strays := by
  refine ⟨⟨?_, by decide +kernel⟩, ⟨?_, by decide +kernel⟩, ⟨?_, by decide +kernel⟩,
    ?_, by decide +kernel⟩
  · have started : (boot sampleWorker sampleAround).pending = [] := rfl
    obtain ⟨handled, idle⟩ := steps_handle started ⟨"left", "done"⟩
    obtain ⟨renewed, idle⟩ := steps_renew idle rfl [sampleTrigger, lateTrigger] (.object [])
    exact ((handled.trans renewed).tail (step_meet idle ⟨"left", "other"⟩)).tail (.turn rfl)
  · have started : (boot sampleWorker sampleAround).pending = [] := rfl
    obtain ⟨spoiled, idle⟩ := steps_renew started rfl [sampleTrigger, lateTrigger]
      (.string "none")
    obtain ⟨handled, idle⟩ := steps_handle idle ⟨"left", "done"⟩
    obtain ⟨renewed, idle⟩ := steps_renew idle rfl
      [sampleTrigger, lateTrigger, { lateTrigger with id := "next" }] (.object [])
    exact (((spoiled.trans handled).trans renewed).tail (step_meet idle ⟨"left", "other"⟩)).tail
      (.turn rfl)
  · have started : (boot wideningWorker (aroundWith wideningTrigger)).pending = [] := rfl
    obtain ⟨first, idle⟩ := steps_handle started ⟨"left", "done"⟩
    obtain ⟨second, idle⟩ := steps_handle idle ⟨"left", "done"⟩
    obtain ⟨third, idle⟩ := steps_handle idle ⟨"right", "done"⟩
    exact ((first.trans second).trans third).tail (step_meet idle ⟨"left", "other"⟩)
  · have started : (boot sampleWorker (aroundWith doubledTrigger)).pending = [] := rfl
    obtain ⟨handled, idle⟩ := steps_handle started ⟨"left", "done"⟩
    exact handled.tail (step_meet idle ⟨"left", "other"⟩)

end Moment

end EventFlow
