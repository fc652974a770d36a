import EventFlow.Proofs.Engine.Matching

/-!
# Transient triggers

A transient trigger goes with the turn that has performed its action: it leaves the
working copy and the index, and its id stays among the retired ones, so that no refresh
takes it up again, whatever is still stored. A turn that comes to no action leaves it
where it is.
-/

namespace EventFlow

/-- A rebuilt index lists the ids of the working copy and of the triggers in it, and no
others. -/
theorem SourceEvents.known_of_mem_rebuildIndex {triggers : Dict Trigger} {stored : SourceEvents}
    {id subject : String} (listed : id ∈ waiting (Worker.rebuildIndex triggers stored) subject) :
    Dict.contains triggers id = true ∨ ∃ trigger ∈ triggers.map Prod.snd, trigger.id = id := by
  have added : ∀ (added : List Trigger) (index : SourceEvents),
      id ∈ waiting (added.foldl add index) subject →
        id ∈ waiting index subject ∨ ∃ trigger ∈ added, trigger.id = id := by
    intro added
    induction added with
    | nil => exact fun index listed => .inl listed
    | cons first rest ih =>
      intro index listed
      rcases ih _ listed with before | ⟨trigger, member, own⟩
      · exact (mem_waiting_add.mp before).imp_right fun ⟨own, _⟩ =>
          ⟨first, List.mem_cons_self, own.symm⟩
      · exact .inr ⟨trigger, List.mem_cons_of_mem _ member, own⟩
  refine (added _ _ listed).imp_left fun live => ?_
  cases found : Dict.get? (Worker.liveIndex triggers stored) subject with
  | none => simp [waiting, found] at live
  | some ids =>
    obtain ⟨entry, -, kept⟩ := List.mem_filterMap.mp (Dict.mem_of_get? found)
    dsimp only at kept
    split at kept
    · cases kept
    · cases kept
      simp only [waiting, found, Option.getD_some, List.mem_filter] at live
      exact live.2

namespace Worker

variable {worker : Worker} {id : String} {trigger : Trigger}

/-- Who is not in the working copy is not listed once the index was rebuilt. -/
theorem not_mem_rebuildIndex {triggers : Dict Trigger} (copy : Dict.Ascending triggers)
    (own : ∀ id trigger, Dict.get? triggers id = some trigger → trigger.id = id)
    (absent : Dict.get? triggers id = none) (stored : SourceEvents) (subject : String) :
    id ∉ SourceEvents.waiting (rebuildIndex triggers stored) subject := by
  intro listed
  rcases SourceEvents.known_of_mem_rebuildIndex listed with known | ⟨trigger, member, rfl⟩
  · simp [Dict.contains, absent] at known
  · obtain ⟨⟨key, _⟩, inside, rfl⟩ := List.mem_map.mp member
    have found := Dict.get?_of_mem copy.nodup inside
    rw [own key _ found, found] at absent
    cases absent

/-! ## What a turn does to a transient trigger -/

/-- A transient trigger that is evaluated performs its action and is gone, or it performs
nothing and stays as it was. -/
theorem fire_transient (own : trigger.id = id)
    (found : Dict.get? worker.triggers id = some trigger) (transient : trigger.transient = true)
    (ready : worker.isReady trigger = true) (event : Json) (around : Surroundings) :
    (performed (worker.fire id event around).result = true ∧
        Dict.get? (worker.fire id event around).worker.triggers id = none) ∨
      (performed (worker.fire id event around).result = false ∧
        Dict.get? (worker.fire id event around).worker.triggers id = some trigger) := by
  have fired : worker.fire id event around =
      (worker.activate id).evaluate id trigger event around := by
    simp only [fire, found]
    exact if_pos ready
  have known : Dict.get? (worker.activate id).triggers id = some trigger := found
  rw [fired]
  rcases (worker.activate id).evaluate_performed_or id trigger event around with
    ⟨done, settled, -⟩ | ⟨nothing, same, -⟩
  · rw [settled]
    refine .inl ⟨(settle_eq _ _ _ _).1, ?_⟩
    rcases (settle_cases own known done).2 with ⟨-, gone, -⟩ | ⟨persistent, -⟩
    · exact gone
    · rw [transient] at persistent
      cases persistent
  · rw [same]
    exact .inr ⟨nothing, found⟩

/-- A turn keeps the working copy in order. -/
theorem ascending_fire (copy : Dict.Ascending worker.triggers) (id : String) (event : Json)
    (around : Surroundings) :
    Dict.Ascending (worker.fire id event around).worker.triggers := by
  rcases worker.turn_cases id event around with
    ⟨-, fired⟩ | ⟨-, trigger, found, ⟨-, counted, -⟩ | ⟨done, settled, -⟩⟩
  · rw [fired]
    exact copy
  · rw [counted]
    exact copy
  · have known : Dict.get? (worker.activate id).triggers id = some trigger := found
    rw [settled, settle_of_found known]
    dsimp only
    split
    · exact Dict.Ascending.erase (copy.insert _ _) _
    · exact copy.insert _ _

/-- A refresh keeps the working copy in order. -/
theorem ascending_refresh (copy : Dict.Ascending worker.triggers) (documents : Documents) :
    Dict.Ascending (worker.refresh documents).2.triggers := by
  unfold refresh
  split
  · exact copy
  · dsimp only
    split
    · exact copy
    · split <;> exact ascending_takeUp_all copy _

end Worker

namespace Moment

/-- A step keeps the working copy in order. -/
theorem ascending_step {moment next : Moment} (copy : Dict.Ascending moment.worker.triggers)
    (step : Step moment next) : Dict.Ascending next.worker.triggers := by
  cases step with
  | change | skip => exact copy
  | refresh => exact Worker.ascending_refresh copy _
  | receive =>
    simp only [Moment.receive]
    split <;> exact copy
  | turn => exact Worker.ascending_fire copy _ _ _

/-! ## Firings -/

/-- How often a trigger has fired: how many of its evaluations have performed its
action. -/
def firings (moment : Moment) (id : String) : Nat :=
  moment.evaluated.countP fun entry => entry.1 == id && Worker.performed entry.2

section Counting

variable {moment next : Moment} {id : String} {trigger : Trigger} {result : Except Failure Bool}

/-- Without a new evaluation nothing has fired. -/
theorem firings_of_evaluated_eq (evaluated : next.evaluated = moment.evaluated) (id : String) :
    next.firings id = moment.firings id := by
  rw [firings, firings, evaluated]

/-- An evaluation that performs its action is one more firing of its trigger. -/
theorem firings_of_performed (evaluated : next.evaluated = moment.evaluated ++ [(id, result)])
    (performed : Worker.performed result = true) : next.firings id = moment.firings id + 1 := by
  simp [firings, evaluated, List.countP_append, performed]

/-- An evaluation that performs nothing is no firing. -/
theorem firings_of_not_performed
    (evaluated : next.evaluated = moment.evaluated ++ [(id, result)])
    (nothing : Worker.performed result = false) : next.firings id = moment.firings id := by
  simp [firings, evaluated, List.countP_append, nothing]

/-- The evaluation of another trigger is no firing. -/
theorem firings_of_other {other : String} (different : other ≠ id)
    (evaluated : next.evaluated = moment.evaluated ++ [(other, result)]) :
    next.firings id = moment.firings id := by
  simp [firings, evaluated, List.countP_append, different]

/-- A transient trigger that is evaluated in a step fires and is gone, or it does not fire
and stays as it was. -/
theorem Step.transient (counted : moment.Counted) (step : Step moment next)
    (found : Dict.get? moment.worker.triggers id = some trigger)
    (transient : trigger.transient = true)
    (evaluated : next.evaluated = moment.evaluated ++ [(id, result)]) :
    (next.firings id = moment.firings id + 1 ∧ Dict.get? next.worker.triggers id = none) ∨
      (next.firings id = moment.firings id ∧
        Dict.get? next.worker.triggers id = some trigger) := by
  have impossible : moment.evaluated ≠ moment.evaluated ++ [(id, result)] := by simp
  cases step with
  | change | refresh | skip | receive => exact absurd evaluated impossible
  | @turn other rest waiting =>
    by_cases evaluates : moment.worker.evaluates other = true
    · have happened : (moment.turn other rest).evaluated = moment.evaluated ++
          [(other, (moment.worker.fire other moment.event moment.around).result)] :=
        if_pos evaluates
      obtain ⟨rfl, rfl⟩ : other = id ∧
          (moment.worker.fire other moment.event moment.around).result = result := by
        simpa using happened.symm.trans evaluated
      have ready : moment.worker.isReady trigger = true := by
        simpa [Worker.evaluates, found] using evaluates
      rcases Worker.fire_transient (counted.own _ _ found) found transient ready moment.event
        moment.around with ⟨performed, gone⟩ | ⟨nothing, kept⟩
      · exact .inl ⟨firings_of_performed evaluated performed, gone⟩
      · exact .inr ⟨firings_of_not_performed evaluated nothing, kept⟩
    · have nothing : (moment.turn other rest).evaluated = moment.evaluated := if_neg evaluates
      exact absurd (nothing.symm.trans evaluated) impossible

end Counting

/-- Nobody has fired who was never in the working copy, and no transient trigger that is
still there. -/
structure Unfired (moment : Moment) : Prop where
  unknown : ∀ id, Dict.get? moment.worker.triggers id = none → id ∉ moment.worker.retired →
    moment.firings id = 0
  armed : ∀ id trigger, Dict.get? moment.worker.triggers id = some trigger →
    trigger.transient = true → moment.firings id = 0

/-- A transient trigger of the working copy has not fired after any step. -/
theorem Unfired.step {moment next : Moment} (counted : moment.Counted)
    (unfired : moment.Unfired) (step : Step moment next) : next.Unfired := by
  obtain ⟨effect, _⟩ := step.effect counted
  cases effect with
  | quiet stored storedOwn refreshed received evaluated pending =>
    have same := firings_of_evaluated_eq evaluated
    constructor
    · intro id absent live
      rw [same]
      exact unfired.unknown id (refreshed.absent absent) (refreshed.retired ▸ live)
    · intro id trigger found transient
      rw [same]
      rcases refreshed.new id trigger found with known | ⟨absent, live, _⟩
      · exact unfired.armed id trigger known transient
      · exact unfired.unknown id absent live
  | arrival key event keyed idle same arrivals received evaluated pending =>
    have none := firings_of_evaluated_eq evaluated
    constructor
    · intro id absent live
      rw [none]
      exact unfired.unknown id (same.triggers ▸ absent) (same.retired ▸ live)
    · intro id trigger found transient
      rw [none]
      exact unfired.armed id trigger (same.triggers ▸ found) transient
  | evaluation other trigger rest result waiting found ready change received evaluated pending =>
    constructor
    · intro id absent live
      have different : id ≠ other := by
        rintro rfl
        rcases change.outcome with ⟨_, kept, _⟩ | ⟨_, _, retired⟩
        · rw [kept] at absent
          cases absent
        · exact live (retired ▸ List.mem_cons_self)
      have before : id ∉ moment.worker.retired := by
        rcases change.outcome with ⟨_, _, _, _, _, retired⟩ | ⟨_, _, retired⟩
        · exact retired ▸ live
        · exact fun member => live (retired ▸ List.mem_cons_of_mem _ member)
      rw [firings_of_other different.symm evaluated]
      exact unfired.unknown id (change.others id different ▸ absent) before
    · intro id held heldFound transient
      rcases change.get?_cases heldFound with ⟨different, earlier⟩ | ⟨rfl, context, rfl, _⟩
      · rw [firings_of_other different.symm evaluated]
        exact unfired.armed id held earlier transient
      · rcases step.transient counted found transient evaluated with ⟨_, gone⟩ | ⟨same, _⟩
        · rw [gone] at heldFound
          cases heldFound
        · rw [same]
          exact unfired.armed id trigger found transient

/-- A trigger that is gone for good: it is not in the working copy, it is not to come back,
and nobody who asks the index for one of its subjects is told of it. -/
structure Retired (id : String) (trigger : Trigger) (moment : Moment) : Prop where
  absent : Dict.get? moment.worker.triggers id = none
  remembered : id ∈ moment.worker.retired
  unlisted : ∀ key ∈ trigger.dependencies,
    id ∉ SourceEvents.waiting moment.worker.sourceEvents key.subject

/-- No step brings back a trigger that is gone, lists it or evaluates it. -/
theorem Retired.step {moment next : Moment} {id : String} {trigger : Trigger}
    (counted : moment.Counted) (copy : Dict.Ascending moment.worker.triggers)
    (gone : moment.Retired id trigger) (step : Step moment next) :
    next.Retired id trigger ∧ next.firings id = moment.firings id ∧
      next.evaluations id = moment.evaluations id := by
  obtain ⟨absent, remembered⟩ :=
    counted.absent_of_retired gone.absent gone.remembered (.single step)
  obtain ⟨effect, _⟩ := step.effect counted
  cases effect with
  | quiet stored storedOwn refreshed received evaluated pending =>
    refine ⟨⟨absent, remembered, fun key member => ?_⟩, firings_of_evaluated_eq evaluated id,
      evaluations_of_evaluated_eq evaluated id⟩
    rcases refreshed.index with same | ⟨index, rebuilt⟩
    · exact same ▸ gone.unlisted key member
    · rw [rebuilt]
      exact Worker.not_mem_rebuildIndex (ascending_step copy step) (counted.step step).own absent
        index key.subject
  | arrival key event keyed idle same arrivals received evaluated pending =>
    exact ⟨⟨absent, remembered, same.sourceEvents ▸ gone.unlisted⟩,
      firings_of_evaluated_eq evaluated id, evaluations_of_evaluated_eq evaluated id⟩
  | evaluation other held rest result waiting found ready change received evaluated pending =>
    have different : id ≠ other := by
      rintro rfl
      rw [gone.absent] at found
      cases found
    refine ⟨⟨absent, remembered, fun key member => ?_⟩, firings_of_other different.symm evaluated,
      ?_⟩
    · rcases change.outcome with ⟨_, _, _, _, index, _⟩ | ⟨_, index, _⟩
      · exact index ▸ gone.unlisted key member
      · rw [index, SourceEvents.mem_waiting_remove]
        exact fun listed => gone.unlisted key member listed.1
    · rw [evaluations_of_evaluated_append evaluated, if_neg different, Nat.add_zero]

/-- A transient trigger that was once in the working copy: it is still there, with another
context at most, and has not fired, or it has fired once and is gone for good. -/
inductive OneShot (id : String) (trigger : Trigger) (moment : Moment) : Prop where
  | armed (context : Dict Json)
      (found : Dict.get? moment.worker.triggers id = some { trigger with context })
      (unfired : moment.firings id = 0)
  | spent (once : moment.firings id = 1) (gone : moment.Retired id trigger)

/-- A transient trigger fires in no step, or it fires in one and is gone. -/
theorem OneShot.step {moment next : Moment} {id : String} {trigger : Trigger}
    (counted : moment.Counted) (copy : Dict.Ascending moment.worker.triggers)
    (transient : trigger.transient = true) (shot : moment.OneShot id trigger)
    (step : Step moment next) : next.OneShot id trigger := by
  cases shot with
  | spent once gone =>
    obtain ⟨stays, fires, -⟩ := gone.step counted copy step
    exact .spent (fires.trans once) stays
  | armed context found unfired =>
    obtain ⟨effect, _⟩ := step.effect counted
    cases effect with
    | quiet stored storedOwn refreshed received evaluated pending =>
      exact .armed context (refreshed.known id _ found)
        ((firings_of_evaluated_eq evaluated id).trans unfired)
    | arrival key event keyed idle same arrivals received evaluated pending =>
      exact .armed context (same.triggers ▸ found)
        ((firings_of_evaluated_eq evaluated id).trans unfired)
    | evaluation other held rest result waiting heldFound ready change received evaluated pending =>
      by_cases concerned : id = other
      · subst concerned
        rw [found] at heldFound
        cases heldFound
        rcases step.transient counted found transient evaluated with ⟨fires, absent⟩ | ⟨same, kept⟩
        · rw [unfired] at fires
          rcases change.outcome with ⟨_, kept, _⟩ | ⟨_, index, retired⟩
          · rw [kept] at absent
            cases absent
          · refine .spent fires ⟨absent, retired ▸ List.mem_cons_self, fun key member => ?_⟩
            rw [index, SourceEvents.mem_waiting_remove]
            refine fun listed => listed.2 ⟨(counted.own id _ found).symm, ?_⟩
            exact Trigger.mem_subjects_iff.mpr ⟨key, member, rfl⟩
        · exact .armed context kept (same.trans unfired)
      · exact .armed context ((change.others id concerned).trans found)
          ((firings_of_other (Ne.symm concerned) evaluated).trans unfired)

/-! ## Whole runs -/

section Steps

variable {earlier later : Moment} {id : String} {trigger : Trigger}

/-- The working copy stays in order. -/
theorem ascending_steps (copy : Dict.Ascending earlier.worker.triggers)
    (steps : Steps earlier later) : Dict.Ascending later.worker.triggers := by
  induction steps with
  | refl => exact copy
  | tail _ step ih => exact ascending_step ih step

/-- A transient trigger of the working copy has not fired at any moment. -/
theorem Unfired.steps (counted : earlier.Counted) (unfired : earlier.Unfired)
    (steps : Steps earlier later) : later.Unfired := by
  induction steps with
  | refl => exact unfired
  | tail before step ih => exact ih.step (counted.steps before) step

/-- A trigger that is gone stays so, and is neither evaluated nor fired again. -/
theorem Retired.steps (counted : earlier.Counted)
    (copy : Dict.Ascending earlier.worker.triggers) (gone : earlier.Retired id trigger)
    (steps : Steps earlier later) :
    later.Retired id trigger ∧ later.firings id = earlier.firings id ∧
      later.evaluations id = earlier.evaluations id := by
  induction steps with
  | refl => exact ⟨gone, rfl, rfl⟩
  | tail before step ih =>
    obtain ⟨stays, fires, evaluates⟩ := ih
    obtain ⟨next, sameFirings, sameEvaluations⟩ :=
      stays.step (counted.steps before) (ascending_steps copy before) step
    exact ⟨next, sameFirings.trans fires, sameEvaluations.trans evaluates⟩

/-- A transient trigger fires at most once from any moment on at which it has not. -/
theorem OneShot.steps (counted : earlier.Counted)
    (copy : Dict.Ascending earlier.worker.triggers) (transient : trigger.transient = true)
    (shot : earlier.OneShot id trigger) (steps : Steps earlier later) :
    later.OneShot id trigger := by
  induction steps with
  | refl => exact shot
  | tail before step ih =>
    exact ih.step (counted.steps before) (ascending_steps copy before) transient step

end Steps

/-- A transient trigger that comes into the working copy of a run is there, unfired, until
it fires. It fires at most once, whatever is stored by then and whatever becomes of it in
the documents. From that turn on it is never again in the working copy, in no list of the
index for a subject that it depends on, and neither evaluated nor fired. -/
theorem transient_fires_once {worker : Worker} {around : Surroundings} {source : EventSource}
    {earlier moment : Moment} {id : String} {trigger : Trigger} (new : worker.IsNew)
    (keeps : worker.registry.KeepsKeys worker.space)
    (keyed : around.documents.OwnKeyed worker.space)
    (booted : (worker.bootstrap around.documents).1 = .ok source)
    (reached : Steps (boot worker around) earlier)
    (found : Dict.get? earlier.worker.triggers id = some trigger)
    (transient : trigger.transient = true) (onward : Steps earlier moment) :
    (moment.firings id = 0 ∧ Dict.contains moment.worker.triggers id = true) ∨
      (moment.firings id = 1 ∧ ∀ last, Steps moment last →
        last.Retired id trigger ∧ last.worker.evaluates id = false ∧ last.firings id = 1 ∧
          last.evaluations id = moment.evaluations id) := by
  obtain ⟨started, -, -⟩ := counted_boot new keeps keyed booted
  have first : Dict.Ascending (boot worker around).worker.triggers := by
    obtain ⟨globalContext, -, -, -, equal⟩ := Worker.bootstrap_eq_ok booted
    rw [boot, equal]
    exact Worker.ascending_refresh (new.triggers ▸ .nil) _
  have nobody : (boot worker around).Unfired := ⟨fun _ _ _ => rfl, fun _ _ _ _ => rfl⟩
  have counted := started.steps reached
  have copy := ascending_steps first reached
  have armed : earlier.OneShot id trigger :=
    .armed trigger.context found ((nobody.steps started reached).armed id trigger found transient)
  cases armed.steps counted copy transient onward with
  | armed context held unfired =>
    exact .inl ⟨unfired, Option.isSome_iff_exists.mpr ⟨_, held⟩⟩
  | spent once gone =>
    refine .inr ⟨once, fun last later => ?_⟩
    obtain ⟨stays, fires, evaluates⟩ :=
      gone.steps (counted.steps onward) (ascending_steps copy onward) later
    refine ⟨stays, ?_, fires.trans once, evaluates⟩
    simp [Worker.evaluates, stays.absent]

/-- A trigger that is to fire once. -/
def passingTrigger : Trigger :=
  { sampleTrigger with dependencies := [⟨"left", "done"⟩], transient := true }

/-- The trigger has had its event. -/
def passedMoment : Moment :=
  (boot sampleWorker (aroundWith passingTrigger)).handle ⟨"left", "done"⟩

/-- It has been stored again, listed twice, and the event has come once more. -/
def repostedMoment : Moment :=
  (passedMoment.renew (documentsWith [passingTrigger, lateTrigger]
    (.object [("left", .array [.string "both", .string "both"])]))).handle ⟨"left", "done"⟩

/-- The trigger that is to fire once has fired on its event, and it is not taken up when it
is stored again. -/
theorem sample_retired_for_good : Steps (boot sampleWorker (aroundWith passingTrigger)) repostedMoment ∧
    passedMoment.firings "both" = 1 ∧ repostedMoment.Retired "both" passingTrigger ∧
      repostedMoment.firings "both" = 1 ∧
      repostedMoment.evaluations "both" = passedMoment.evaluations "both" := by
  have started : (boot sampleWorker (aroundWith passingTrigger)).pending = [] := rfl
  obtain ⟨passed, idle⟩ := steps_handle started ⟨"left", "done"⟩
  obtain ⟨renewed, idle⟩ := steps_renew idle rfl [passingTrigger, lateTrigger]
    (.object [("left", .array [.string "both", .string "both"])])
  obtain ⟨again, -⟩ := steps_handle idle ⟨"left", "done"⟩
  have booted : (sampleWorker.bootstrap (aroundWith passingTrigger).documents).1 =
      .ok ⟨"log", .memory "events"⟩ := rfl
  have fired : passedMoment.firings "both" = 1 := by decide +kernel
  have settled := transient_fires_once sampleWorker_isNew
    (Registry.keepsJoin_builtin.keepsKeys _) (ownKeyed_documentsWith [passingTrigger] (.object []))
    booted .refl (show Dict.get? _ "both" = some passingTrigger from rfl) rfl passed
  rcases settled with ⟨unfired, -⟩ | ⟨-, last⟩
  · exact absurd (fired.symm.trans unfired) Nat.one_ne_zero
  · obtain ⟨gone, -, once, same⟩ := last repostedMoment (renewed.trans again)
    exact ⟨passed.trans (renewed.trans again), fired, gone, once, same⟩

end Moment

end EventFlow
