import EventFlow.Proofs.Engine.Turns
import EventFlow.Proofs.Engine.Refresh

/-!
# Firings

Which triggers fire in a run, in the order in which they do. The list is told from the
turns alone; the number that a worker keeps of its firings is its length.
-/

namespace EventFlow.Worker

variable {worker : Worker}

/-- The id of a turn, if its trigger has fired. -/
def Firing.fired (firing : Firing) (id : String) : List String :=
  match firing.result with
  | .ok true => [id]
  | _ => []

/-- Nothing fires in a turn that does not come to an action. -/
theorem fired_of_failed {firing : Firing} {id : String} (failed : firing.result ≠ .ok true) :
    firing.fired id = [] := by
  unfold Firing.fired
  split
  · next succeeded => exact absurd succeeded failed
  · rfl

/-- The ids of the triggers that fire in the turns of a list. -/
def firedIn (event : Json) : List String → Scene → List String
  | [], _ => []
  | id :: rest, scene =>
    (scene.worker.fire id event scene.around).fired id ++ firedIn event rest (fireAll event [id] scene)

/-- The ids of the triggers that fire on a record. -/
def firedOn (worker : Worker) (record : Record) (around : Surroundings) : List String :=
  match record.event? with
  | none => []
  | some (key, event) =>
    let moment := Moment.receive { worker, around } key event
    firedIn event moment.pending { worker := moment.worker, around }

namespace Running

/-- The ids of the triggers that fire with one poll. -/
def fired (run : Running) : List String :=
  match run.cursor.poll run.around.hub with
  | (some record, _) => run.worker.firedOn record run.around
  | (none, _) => []

/-- The ids of the triggers that fire until a run ends. -/
def firings : Nat → Running → List String
  | 0, _ => []
  | fuel + 1, run =>
    if run.isOver then []
    else run.refreshed.fired ++
      match run.refreshed.poll with
      | (next, true) => next.firings fuel
      | (_, false) => []

end Running

/-- The ids of the triggers that fire while a worker is run. -/
def firings (worker : Worker) (fuel : Nat) (around : Surroundings) : List String :=
  let (source, worker) := { worker with lifecycle := .running }.bootstrap around.documents
  match source with
  | .error _ => []
  | .ok source =>
    match source.open? worker.hasHub around.servers with
    | .error _ => []
    | .ok cursor => Running.firings fuel { worker, around, cursor }

/-- With more fuel the firings of a run go on. -/
theorem Running.firings_prefix {fuel plenty : Nat} (more : fuel ≤ plenty) (run : Running) :
    run.firings fuel <+: run.firings plenty := by
  induction plenty generalizing fuel run with
  | zero =>
      obtain rfl := Nat.le_zero.mp more
      exact List.prefix_rfl
  | succ plenty ih =>
      cases fuel with
      | zero => exact List.nil_prefix
      | succ fuel =>
          unfold Running.firings
          split
          · exact List.prefix_rfl
          · rw [List.prefix_append_right_inj]
            split
            · exact ih (Nat.le_of_succ_le_succ more) _
            · exact List.prefix_rfl

/-- With more fuel the firings of a worker go on. -/
theorem firings_prefix {fuel plenty : Nat} (more : fuel ≤ plenty) (worker : Worker)
    (around : Surroundings) : worker.firings fuel around <+: worker.firings plenty around := by
  unfold firings
  dsimp only
  split
  · exact List.prefix_rfl
  · split
    · exact List.prefix_rfl
    · exact Running.firings_prefix more _

/-! ## The worker's own count -/

/-- Counting a turn counts its firing. -/
theorem triggersFired_count (tally : Tally) (firing : Firing) (id : String) :
    (count tally firing.result).triggersFired = tally.triggersFired + (firing.fired id).length := by
  unfold Firing.fired
  match firing.result with
  | .error cause => rfl
  | .ok false => rfl
  | .ok true => rfl

/-- The turns of a list are counted one by one. -/
theorem triggersFired_fireAll (event : Json) (ids : List String) (scene : Scene) :
    (fireAll event ids scene).worker.tally.triggersFired =
      scene.worker.tally.triggersFired + (firedIn event ids scene).length := by
  induction ids generalizing scene with
  | nil => rfl
  | cons id rest ih =>
      have first : (fireAll event [id] scene).worker.tally.triggersFired =
          scene.worker.tally.triggersFired +
            ((scene.worker.fire id event scene.around).fired id).length := by
        rw [← (scene.worker.steady_fire id event scene.around).tally]
        exact triggersFired_count _ _ id
      rw [firedIn, List.length_append, ← Nat.add_assoc, ← first]
      exact ih (fireAll event [id] scene)

/-- The firings on a record are counted. -/
theorem triggersFired_process (worker : Worker) (topic : String) (record : Record)
    (around : Surroundings) :
    (worker.process topic record around).1.tally.triggersFired =
      worker.tally.triggersFired + (worker.firedOn record around).length := by
  show (worker.consume record around).worker.tally.triggersFired = _
  unfold firedOn
  cases holds : record.event? with
  | none =>
      rw [Moment.consume_of_event?_eq_none around holds]
      rfl
  | some found =>
      obtain ⟨key, event⟩ := found
      have dispatched : worker.consume record around = _ :=
        @Moment.consume_of_event?_eq_some { worker, around } _ _ _ holds
      have received : (Moment.receive { worker, around } key event).worker.tally.triggersFired =
          worker.tally.triggersFired := by
        unfold Moment.receive
        dsimp only
        split <;> rfl
      rw [dispatched, triggersFired_fireAll]
      exact congrArg (· + _) received

/-- A refresh that is due concerns the working copy alone. -/
theorem Running.refreshed_same (run : Running) :
    run.refreshed.worker.registry = run.worker.registry ∧
      run.refreshed.worker.tally = run.worker.tally ∧
      run.refreshed.around = run.around ∧ run.refreshed.cursor = run.cursor := by
  obtain ⟨-, registry, tally⟩ := run.worker.refresh_same run.around.documents
  unfold Running.refreshed
  dsimp only
  split
  · exact ⟨registry, tally, rfl, rfl⟩
  · exact ⟨rfl, rfl, rfl, rfl⟩

/-- A worker counts the triggers that fire in its run. -/
theorem Running.triggersFired_toEnd {fuel : Nat} {run ended : Running}
    (ends : run.toEnd fuel = some ended) :
    ended.worker.tally.triggersFired =
      run.worker.tally.triggersFired + (run.firings fuel).length := by
  induction fuel generalizing run with
  | zero => cases ends
  | succ fuel ih =>
      have refreshed := run.refreshed_same.2.1
      have polled : run.refreshed.poll.1.worker.tally.triggersFired =
          run.worker.tally.triggersFired + run.refreshed.fired.length := by
        rw [← refreshed]
        unfold Running.poll Running.fired
        rcases run.refreshed.cursor.poll run.refreshed.around.hub with ⟨_ | record, cursor⟩
        · rfl
        · exact triggersFired_process _ cursor.topic record _
      unfold toEnd at ends
      unfold firings
      split at ends
      · next isOver =>
        cases ends
        rw [if_pos isOver]
        rfl
      · next goes =>
        rw [if_neg goes, List.length_append, ← Nat.add_assoc, ← polled]
        split at ends
        · next next poll =>
          rw [poll]
          exact ih ends
        · next next poll =>
          cases ends
          rw [poll]
          rfl

end EventFlow.Worker
