import EventFlow.Proofs.Engine.Matching

/-!
# Joining any

A trigger that joins any of its dependencies has been complete as often as all of them
together have arrived, so an event counts once for each dependency that it matches. Such
a trigger is evaluated on every event that it waits for, and on no other event if it
names no dependency twice. One that does is still ready after an event that has counted
twice, and makes up for it on the next event of that subject, whatever its type.
-/

namespace EventFlow

/-- The key of an event can be read from it. -/
theorem EventKey.ofRaw?_of_isKeyOf {key : EventKey} {event : Json}
    (own : key.isKeyOf event = true) : ofRaw? event = some key := by
  obtain ⟨subject, kind⟩ := key
  simp only [isKeyOf, rawField?, Bool.and_eq_true, beq_iff_eq, Option.bind_eq_some_iff] at own
  obtain ⟨⟨first, hasSubject, isText⟩, second, hasKind, isKind⟩ := own
  simp [ofRaw?, hasSubject, isText, hasKind, isKind]

/-- For how many of its dependencies an event counts with a trigger. -/
def Trigger.weight (trigger : Trigger) (event : Json) : Nat :=
  trigger.dependencies.countP (·.isKeyOf event)

/-- An event counts with the triggers that wait for it. -/
theorem Trigger.awaits_iff {trigger : Trigger} {event : Json} :
    trigger.Awaits event ↔ 0 < trigger.weight event :=
  List.countP_pos_iff.symm

/-- An event counts at most once for a trigger that names no dependency twice. -/
theorem Trigger.weight_le_one {trigger : Trigger} (distinct : trigger.dependencies.Nodup)
    (event : Json) : trigger.weight event ≤ 1 := by
  cases keyed : EventKey.ofRaw? event with
  | none =>
    have nobody : trigger.weight event = 0 := List.countP_eq_zero.mpr fun key _ own => by
      rw [EventKey.ofRaw?_of_isKeyOf own] at keyed
      cases keyed
    rw [nobody]
    exact Nat.zero_le 1
  | some key =>
    have counted : trigger.weight event = trigger.dependencies.count key := by
      refine List.countP_congr fun other _ => ?_
      rw [EventKey.isKeyOf_iff keyed, beq_iff_eq]
    rw [counted]
    exact List.nodup_iff_count.mp distinct key

namespace Moment

variable {trigger : Trigger}

/-- How many of the received events a trigger waits for. -/
def awaited (moment : Moment) (trigger : Trigger) : Nat :=
  moment.received.countP fun event => trigger.Awaits event

/-- A trigger that joins any has been complete once for each time that an event has
counted with it. -/
theorem completions_any (any : Worker.joinsAny trigger = true) (moment : Moment) :
    moment.completions trigger = (moment.received.map trigger.weight).sum := by
  have weighed : ∀ event, (trigger.dependencies.map fun key =>
      if key.isKeyOf event then 1 else 0).sum = trigger.weight event := by
    intro event
    unfold Trigger.weight
    induction trigger.dependencies with
    | nil => rfl
    | cons key rest ih => rw [List.map_cons, List.sum_cons, ih, List.countP_cons, Nat.add_comm]
  have together : moment.completions trigger = (trigger.dependencies.map moment.arrivals).sum := by
    simp [completions, Worker.completions, any]
  rw [together]
  unfold arrivals
  induction moment.received with
  | nil => simp
  | cons event rest ih =>
    simp only [List.countP_cons, List.sum_map_add, ih, weighed, List.map_cons, List.sum_cons]
    exact Nat.add_comm _ _

/-- A trigger that joins any has been complete for every event that it waits for. -/
theorem awaited_le_completions (any : Worker.joinsAny trigger = true) (moment : Moment) :
    moment.awaited trigger ≤ moment.completions trigger := by
  rw [completions_any any, awaited]
  induction moment.received with
  | nil => exact Nat.le_refl _
  | cons event rest ih =>
    rw [List.countP_cons, List.map_cons, List.sum_cons, Nat.add_comm]
    refine Nat.add_le_add ?_ ih
    by_cases waits : trigger.Awaits event
    · simpa [waits, Nat.one_le_iff_ne_zero, Nat.pos_iff_ne_zero] using Trigger.awaits_iff.mp waits
    · simp [waits]

/-- It has been complete for these alone if it names no dependency twice. -/
theorem completions_le_awaited (any : Worker.joinsAny trigger = true)
    (distinct : trigger.dependencies.Nodup) (moment : Moment) :
    moment.completions trigger ≤ moment.awaited trigger := by
  rw [completions_any any, awaited]
  induction moment.received with
  | nil => exact Nat.le_refl _
  | cons event rest ih =>
    rw [List.countP_cons, List.map_cons, List.sum_cons, Nat.add_comm]
    refine Nat.add_le_add ih ?_
    by_cases waits : trigger.Awaits event
    · simpa [waits] using Trigger.weight_le_one distinct event
    · simpa [waits] using mt Trigger.awaits_iff.mpr waits

/-- A trigger that joins any can keep up with the events that it waits for. -/
theorem paces_awaited (any : Worker.joinsAny trigger = true) :
    Paces (fun moment => moment.awaited trigger) trigger where
  least := awaited_le_completions any
  same moment next received := by
    rw [awaited, awaited, received]
  arrival moment next key event keyed received := by
    have concerned : trigger.Awaits event ↔ key ∈ trigger.dependencies := by
      constructor
      · rintro ⟨other, member, own⟩
        exact (EventKey.isKeyOf_iff keyed other).mp own ▸ member
      · exact fun member => ⟨key, member, (EventKey.isKeyOf_iff keyed key).mpr rfl⟩
    simp [awaited, received, List.countP_append, List.countP_cons, concerned]

section Run

variable {worker : Worker} {around : Surroundings} {source : EventSource} {moment : Moment}
  {id : String}

/-- A trigger that was loaded at bootstrap and joins any keeps up with the events that it
waits for, and never gets ahead of its completions. -/
theorem keepsUp_any (accounted : (boot worker around).Accounted)
    (lists : Worker.Lists (boot worker around).worker.triggers
      (boot worker around).worker.sourceEvents)
    (found : Dict.get? (boot worker around).worker.triggers id = some trigger)
    (any : Worker.joinsAny trigger = true) (reached : Steps (boot worker around) moment) :
    moment.Watched id trigger ∧
      moment.KeepsUp (fun moment => moment.awaited trigger) id trigger := by
  have bounded := bounded_boot worker around
  have watched := Watched.start bounded found
  have paces := paces_awaited any
  exact ⟨watched.steps accounted bounded reached,
    (keepsUp_boot lists (paces.least _) found).steps paces accounted bounded watched reached⟩

/-- A trigger that was loaded at bootstrap and joins any was evaluated, whenever no turn
is pending and it is still there, at least once for each event that it waits for, and at
most once for each time that an event has counted with it. If it names no dependency
twice, it was evaluated exactly once for each event that it waits for, and on no other
event. -/
theorem evaluations_per_arrival (new : worker.IsNew)
    (keeps : worker.registry.KeepsKeys worker.space) (leaves : worker.registry.LeavesJoin)
    (keyed : around.documents.OwnKeyed worker.space)
    (booted : (worker.bootstrap around.documents).1 = .ok source)
    (found : Dict.get? (boot worker around).worker.triggers id = some trigger)
    (any : Worker.joinsAny trigger = true) (reached : Steps (boot worker around) moment)
    (live : Dict.contains moment.worker.triggers id = true) :
    (moment.pending = [] → moment.awaited trigger ≤ moment.evaluations id ∧
        moment.evaluations id ≤ (moment.received.map trigger.weight).sum) ∧
      (trigger.dependencies.Nodup →
        (moment.pending = [] → moment.evaluations id = moment.awaited trigger) ∧
        (moment.pending ≠ [] → moment.worker.evaluates id = true →
          trigger.Awaits moment.event)) := by
  obtain ⟨accounted, lists⟩ := accounted_boot new keeps leaves keyed booted
  obtain ⟨watched, keeping⟩ := keepsUp_any accounted lists found any reached
  obtain ⟨held, known⟩ := Option.isSome_iff_exists.mp live
  have enough (idle : moment.pending = []) : moment.awaited trigger ≤ moment.evaluations id := by
    rcases (keeping held known).2 with done | ⟨_, turn⟩
    · exact done
    · rw [idle] at turn
      exact absurd turn List.not_mem_nil
  refine ⟨fun idle => ⟨enough idle, completions_any any moment ▸ watched.bounded⟩,
    fun distinct => ⟨fun idle => ?_, fun busy evaluates => ?_⟩⟩
  · exact Nat.le_antisymm (watched.bounded.trans (completions_le_awaited any distinct moment))
      (enough idle)
  · obtain ⟨dependencies, -⟩ := watched.same held known
    have awaits := (TakenUp.boot found).awaits accounted lists (.inr distinct) reached busy known
      evaluates
    rwa [Trigger.Awaits, dependencies] at awaits

end Run

/-- A trigger that waits for either of two events. -/
def eitherTrigger : Trigger :=
  { sampleTrigger with context := [("join", .string "any")] }

/-- Both events and one of another type have come, in between. -/
def eitherMoment : Moment :=
  (((boot sampleWorker (aroundWith eitherTrigger)).handle ⟨"left", "done"⟩).handle
    ⟨"left", "other"⟩).handle ⟨"right", "done"⟩

/-- The trigger that waits for either event was evaluated on each of them, and not on the
third. -/
theorem sample_evaluations_per_arrival :
    Steps (boot sampleWorker (aroundWith eitherTrigger)) eitherMoment ∧
      eitherMoment.evaluations "both" = 2 ∧ eitherMoment.awaited eitherTrigger = 2 ∧
      (eitherMoment.meet ⟨"left", "done"⟩).worker.evaluates "both" = true ∧
      eitherTrigger.Awaits (eitherMoment.meet ⟨"left", "done"⟩).event := by
  have started : (boot sampleWorker (aroundWith eitherTrigger)).pending = [] := rfl
  obtain ⟨first, idle⟩ := steps_handle started ⟨"left", "done"⟩
  obtain ⟨second, idle⟩ := steps_handle idle ⟨"left", "other"⟩
  obtain ⟨third, idle⟩ := steps_handle idle ⟨"right", "done"⟩
  have reached : Steps (boot sampleWorker (aroundWith eitherTrigger)) eitherMoment :=
    (first.trans second).trans third
  have onward := reached.tail (step_meet idle ⟨"left", "done"⟩)
  have evaluates : (eitherMoment.meet ⟨"left", "done"⟩).worker.evaluates "both" = true := by
    decide +kernel
  have booted : (sampleWorker.bootstrap (aroundWith eitherTrigger).documents).1 =
      .ok ⟨"log", .memory "events"⟩ := rfl
  have keyed := ownKeyed_documentsWith [eitherTrigger] (.object [])
  have found : Dict.get? (boot sampleWorker (aroundWith eitherTrigger)).worker.triggers "both" =
      some eitherTrigger := rfl
  have keeps := Registry.keepsJoin_builtin
  have settled := evaluations_per_arrival sampleWorker_isNew (keeps.keepsKeys _) keeps.leavesJoin
    keyed booted found rfl reached rfl
  have busy := evaluations_per_arrival sampleWorker_isNew (keeps.keepsKeys _) keeps.leavesJoin
    keyed booted found rfl onward rfl
  have twice : eitherMoment.awaited eitherTrigger = 2 := by decide +kernel
  exact ⟨reached, ((settled.2 (by decide)).1 idle).trans twice, twice, evaluates,
    (busy.2 (by decide)).2 (by decide) evaluates⟩

/-- The event that counts twice has come, and behind it one of another type. -/
def overcountedMoment : Moment :=
  ((boot sampleWorker (aroundWith doubledTrigger)).handle ⟨"left", "done"⟩).handle
    ⟨"left", "other"⟩

/-- A trigger that names a dependency twice and joins any was evaluated twice, although
only one event has come that it waits for: it was still ready after that event, and was
evaluated again on one of another type. -/
theorem doubled_evaluated_twice :
    Steps (boot sampleWorker (aroundWith doubledTrigger)) overcountedMoment ∧
      Dict.get? (boot sampleWorker (aroundWith doubledTrigger)).worker.triggers "both" =
        some doubledTrigger ∧
      Worker.joinsAny doubledTrigger = true ∧
      Dict.contains overcountedMoment.worker.triggers "both" = true ∧
      overcountedMoment.pending = [] ∧ overcountedMoment.evaluations "both" = 2 ∧
      overcountedMoment.awaited doubledTrigger = 1 := by
  have started : (boot sampleWorker (aroundWith doubledTrigger)).pending = [] := rfl
  obtain ⟨first, idle⟩ := steps_handle started ⟨"left", "done"⟩
  obtain ⟨second, idle⟩ := steps_handle idle ⟨"left", "other"⟩
  exact ⟨first.trans second, rfl, rfl, by decide +kernel, idle, by decide +kernel,
    by decide +kernel⟩

end Moment

end EventFlow
