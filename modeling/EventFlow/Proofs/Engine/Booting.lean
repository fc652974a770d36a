import EventFlow.Proofs.Engine.Reading

/-!
# Runs on a stored net

A worker that is created for a namespace takes up whatever is stored there. Where that is
a net of compiled triggers, and its topic holds nothing but the net's first announcement,
the worker reads the net from the start: its run comes to an end, and fires exactly the
triggers that the net announces.
-/

namespace EventFlow

namespace Worker

variable {worker : Worker} {net : Net} {documents : Documents}

/-! ## A first refresh -/

/-- With nothing retired, everything that is stored and not known is taken up. -/
theorem get?_takeUp_all (unretired : worker.retired = []) (stored triggers : Dict Trigger)
    (id : String) :
    Dict.get? (stored.foldl worker.takeUp triggers) id =
      (Dict.get? triggers id).or (Dict.get? stored id) := by
  induction stored generalizing triggers with
  | nil => exact (Option.or_none ..).symm
  | cons entry rest ih =>
      obtain ⟨key, value⟩ := entry
      have taken : Dict.get? (worker.takeUp triggers (key, value)) id =
          (Dict.get? triggers id).or (if key = id then some value else none) := by
        unfold takeUp
        rw [unretired]
        by_cases same : key = id
        · subst same
          cases known : Dict.get? triggers key <;> simp [Dict.contains, known]
        · cases known : Dict.get? triggers key <;>
            simp [Dict.contains, known, same, Dict.get?_insert_of_ne _ _ same]
      rw [List.foldl_cons, ih, taken, Dict.get?_cons, Option.or_assoc]
      by_cases same : key = id <;> simp [same]

/-- A worker without triggers takes up a stored net, and its index lists all of it. -/
theorem refresh_of_holds (worker : Worker) (first : worker.triggers = []) (unretired : worker.retired = [])
    (nonempty : net.triggers ≠ []) (holds : documents.Holds worker.space net.triggers) :
    ∃ triggers sourceEvents, worker.refresh documents = (.ok (), { worker with triggers, sourceEvents }) ∧
      Dict.Ascending triggers ∧ Lists triggers sourceEvents ∧
      ∀ id trigger, Dict.get? triggers id = some trigger ↔
        trigger ∈ net.triggers ∧ trigger.id = id := by
  obtain ⟨⟨stored, loaded, known⟩, index, indexed⟩ := holds
  let copy := stored.foldl worker.takeUp worker.triggers
  have found : ∀ id, Dict.get? copy id = Dict.get? stored id := by
    intro id
    rw [get?_takeUp_all unretired, first]
    exact Option.none_or
  have holds : ∀ id trigger, Dict.get? copy id = some trigger ↔
      trigger ∈ net.triggers ∧ trigger.id = id := fun id trigger => found id ▸ known id trigger
  have grown : copy.length ≠ worker.triggers.length := by
    obtain ⟨trigger, rest, shape⟩ := List.exists_cons_of_ne_nil nonempty
    have present := (holds trigger.id trigger).mpr ⟨by simp [shape], rfl⟩
    rw [first]
    intro empty
    rw [List.eq_nil_of_length_eq_zero empty] at present
    cases present
  refine ⟨copy, rebuildIndex copy index, ?_, ascending_takeUp_all (first ▸ .nil) stored,
    lists_rebuildIndex index fun id trigger found => ((holds id trigger).mp found).2, holds⟩
  unfold refresh
  simp only [loaded, indexed]
  exact if_neg grown

/-! ## The start of a run -/

/-- Surroundings in which the namespace reads a topic in memory that holds nothing but the
announcement of an initial event. Its global context hides nothing from the handlers. -/
structure Staged (around : Surroundings) (space topic : String) (first : Announcement) : Prop where
  source : ∃ source, loadSource around.documents space = .ok source ∧ source.location = .memory topic
  shown : ∃ globalContext, loadGlobalContext around.documents space = .ok globalContext ∧
    ∀ key ∈ ["subject", "State", "Condition", "root"], Dict.contains globalContext key = false
  log : around.hub.topic topic = { log := [payload first] }
  cancelled : around.cancelled = false

/-- A worker that serves a net and remembers nothing follows the net from its start. -/
theorem Serves.follows (serves : worker.Serves net) (received : worker.received = [])
    (activations : worker.activations = []) (running : worker.lifecycle = .running) :
    worker.Follows net [] [] ∧ worker.Idle net := by
  have unconsumed : ∀ id, worker.consumed id = 0 := by
    intro id
    rw [consumed, activations]
    rfl
  have follows : worker.Follows net [] [] := by
    refine ⟨serves, fun subject => ?_, .nil, by simp, .nil, by simp, fun trigger _ => ?_, by simp,
      fun trigger _ some => ?_, .inl running⟩
    · rw [received]
      rfl
    · rw [unconsumed]
      exact Nat.zero_le _
    · rw [unconsumed] at some
      cases some
  refine ⟨follows, fun trigger member => decide_eq_false ?_⟩
  have none : worker.available trigger = 0 := by
    cases joins : joinsAny trigger with
    | true =>
        rw [follows.available_any member joins]
        simp
    | false =>
        refine Nat.eq_zero_of_not_pos fun complete => ?_
        obtain ⟨subject, rest, shape⟩ :=
          List.exists_cons_of_ne_nil ((serves.compiled trigger member).waits_ne_nil joins)
        have arrived := (follows.available_all_iff member joins).mp complete subject (by simp [shape])
        exact absurd arrived List.not_mem_nil
  omega

/-- A run keeps to its topic. -/
theorem Running.topic_toEnd {fuel : Nat} {run ended : Running} (ends : run.toEnd fuel = some ended) :
    ended.cursor.topic = run.cursor.topic := by
  induction fuel generalizing run with
  | zero => cases ends
  | succ fuel ih =>
      have refreshed := run.refreshed_same.2.2.2
      have polled : run.refreshed.poll.1.cursor.topic = run.cursor.topic := by
        rw [← refreshed]
        unfold Running.poll Cursor.poll
        dsimp only
        split
        · next found =>
          split at found <;> cases found
          rfl
        · next found =>
          split at found <;> cases found
          rfl
      unfold toEnd at ends
      split at ends
      · cases ends
        rfl
      · split at ends
        · next next poll =>
          rw [poll] at polled
          exact (ih ends).trans polled
        · next next poll =>
          rw [poll] at polled
          cases ends
          exact polled

/-- What a worker comes to whose run, once it is set up, has come to this end. -/
def finish (ended : Running) : Outcome :=
  let worker : Worker := { ended.worker with lifecycle := .finished }
  { result := .ok ()
    worker
    around := { ended.around with documents := worker.saveStatus ended.around.documents } }

/-- A worker whose namespace can be loaded and whose topic can be opened comes to the end
of its polls, and fires what they fire. -/
theorem Running.Ends.run {ready : Worker} {around : Surroundings} {source : EventSource}
    {cursor : Cursor} {ended : Running} {ids : List String}
    (initialized : worker.lifecycle = .initialized)
    (booted : ({ worker with lifecycle := .running } : Worker).bootstrap around.documents =
      (.ok source, ready))
    (opened : source.open? ready.hasHub around.servers = .ok cursor)
    (ends : Running.Ends { worker := ready, around, cursor } ended ids) :
    ∃ enough, ∀ fuel, enough ≤ fuel →
      worker.run fuel around = some (finish ended) ∧ worker.firings fuel around = ids := by
  obtain ⟨enough, ends⟩ := ends
  refine ⟨enough, fun fuel more => ?_⟩
  obtain ⟨ended, fires⟩ := ends fuel more
  constructor
  · unfold Worker.run Worker.start
    rw [if_neg (not_not_intro initialized)]
    simp only [booted, opened, ended]
    rfl
  · unfold Worker.firings
    simp only [booted, opened]
    exact fires

/-- What a run of a worker comes to that reads a stored net: it ends, its triggers are
fired in this order, and each of them is announced in the topic. -/
structure Runs (worker : Worker) (around : Surroundings) (topic : String) (first : Announcement)
    (fired : List Announcement) (outcome : Outcome) : Prop where
  ends : ∃ enough, ∀ fuel, enough ≤ fuel → worker.run fuel around = some outcome ∧
    worker.firings fuel around = fired.map Announcement.subject
  succeeds : outcome.result = .ok ()
  counted : outcome.worker.tally.triggersFired = fired.length
  once : (fired.map Announcement.subject).Nodup
  log : (outcome.around.hub.topic topic).log = (first :: fired).map payload

/-- What a worker fires in a run that ends is determined. -/
theorem Runs.same {around : Surroundings} {first : Announcement} {fired other : List Announcement}
    {outcome another : Outcome} {topic : String} (runs : worker.Runs around topic first fired outcome)
    (again : worker.Runs around topic first other another) :
    fired.map Announcement.subject = other.map Announcement.subject := by
  obtain ⟨enough, ends⟩ := runs.ends
  obtain ⟨plenty, finishes⟩ := again.ends
  rw [← (ends (enough + plenty) (Nat.le_add_right ..)).2,
    (finishes (enough + plenty) (Nat.le_add_left ..)).2]

/-- A new worker with the built-in handlers. -/
abbrev created (id space : String) (settings : WorkerSettings) : Worker :=
  { id, space, settings, hasHub := true }

/-- What is held is stored under its own names. -/
theorem stored_of_holds {space : String} (holds : documents.Holds space net.triggers) :
    net.Stored documents space := by
  obtain ⟨⟨stored, loaded, held⟩, _⟩ := holds
  refine ⟨stored, loaded, fun entry member => ?_⟩
  obtain ⟨trigger, found⟩ := Dict.mem_keys_iff.mp (List.mem_map_of_mem member)
  obtain ⟨listed, own⟩ := (held _ _).mp found
  exact own ▸ List.mem_map_of_mem listed

/-- A new worker is set up to serve the net that is stored, and remembers nothing yet. -/
theorem exists_ready {around : Surroundings} {space topic : String}
    (compiled : ∀ trigger ∈ net.triggers, trigger.Compiled) (nonempty : net.triggers ≠ [])
    (holds : around.documents.Holds space net.triggers)
    (staged : Staged around space topic net.first) (id : String) (settings : WorkerSettings) :
    ∃ source triggers sourceEvents globalContext,
      let ready : Worker := { created id space settings with
        lifecycle := .running
        eventSource := some source
        globalContext, triggers, sourceEvents }
      ({ created id space settings with lifecycle := .running } : Worker).bootstrap around.documents =
          (.ok source, ready) ∧
        source.open? ready.hasHub around.servers = .ok { topic } ∧ ready.Serves net := by
  obtain ⟨source, named, location⟩ := staged.source
  obtain ⟨globalContext, global, shown⟩ := staged.shown
  let fresh : Worker := { created id space settings with
    lifecycle := .running
    globalContext
    eventSource := some source }
  obtain ⟨triggers, sourceEvents, refreshed, copy, lists, known⟩ :=
    refresh_of_holds fresh rfl rfl nonempty holds
  refine ⟨source, triggers, sourceEvents, globalContext, ?_, ?_,
    ⟨rfl, copy, known, lists, shown, compiled⟩⟩
  · unfold bootstrap
    simp only [global, named]
    rw [show ({ created id space settings with
      lifecycle := .running, globalContext, eventSource := some source } : Worker).refresh
        around.documents = _ from refreshed]
    rfl
  · unfold EventSource.open?
    rw [location]
    rfl

/-- A run starts with a worker that serves a net, and with nothing read of a topic that holds
only the first announcement of the net. -/
theorem Serves.reads {around : Surroundings} {topic : String} (serves : worker.Serves net)
    (received : worker.received = []) (activations : worker.activations = [])
    (running : worker.lifecycle = .running)
    (holds : around.documents.Holds worker.space net.triggers)
    (log : around.hub.topic topic = { log := [payload net.first] })
    (cancelled : around.cancelled = false) :
    ({ worker, around, cursor := { topic } } : Running).Reads net [] 0 := by
  obtain ⟨follows, idle⟩ := serves.follows received activations running
  exact {
    follows
    idle
    log := by simp [log]
    position := by simp [log]
    within := Nat.zero_le _
    stored := stored_of_holds holds
    cancelled }

/-- A new worker is set up, in surroundings that are staged, for a run that has read nothing of
its net yet. -/
theorem exists_reads {around : Surroundings} {space topic : String}
    (compiled : ∀ trigger ∈ net.triggers, trigger.Compiled) (nonempty : net.triggers ≠ [])
    (holds : around.documents.Holds space net.triggers)
    (staged : Staged around space topic net.first) (id : String) (settings : WorkerSettings) :
    ∃ source ready, ({ created id space settings with lifecycle := .running } : Worker).bootstrap
          around.documents = (.ok source, ready) ∧
      source.open? ready.hasHub around.servers = .ok { topic } ∧ ready.settings = settings ∧
      ready.tally.triggersFired = 0 ∧
      ({ worker := ready, around, cursor := { topic } } : Running).Reads net [] 0 := by
  obtain ⟨source, triggers, sourceEvents, globalContext, booted, opened, serves⟩ :=
    exists_ready compiled nonempty holds staged id settings
  exact ⟨source, _, booted, opened, rfl, rfl,
    serves.reads rfl rfl rfl holds staged.log staged.cancelled⟩

/-- A run of a new worker on a stored net comes to an end, and fires exactly the triggers
that the net announces. -/
theorem runs_of_staged {around : Surroundings} {space topic : String} {settings : WorkerSettings}
    (keyed : net.Keyed) (sound : net.Sound net.triggers) (relays : net.relay = Json.relayed?)
    (leads : ∀ root ∈ net.triggers, root.IsRoot → (∃ output, net.Carries root.id output) →
      ∀ subject output, net.Spreads net.triggers subject output → net.Leads subject root.id)
    (nonempty : net.triggers ≠ []) (holds : around.documents.Holds space net.triggers)
    (staged : Staged around space topic net.first) (id : String)
    (limited : 0 < settings.maxIdlePolls) :
    ∃ fired outcome, (created id space settings).Runs around topic net.first fired outcome ∧
      ∀ subject output, ⟨subject, output⟩ ∈ fired ↔ net.Spreads net.triggers subject output := by
  obtain ⟨source, ready, booted, opened, same, none, reads⟩ :=
    exists_reads sound.compiled nonempty holds staged id settings
  obtain ⟨ended, fired, total, ends, reading, done⟩ :=
    reads.exists_ends keyed sound relays (same.symm ▸ limited)
  rw [List.nil_append] at reading done
  have runs := ends.run rfl booted opened
  obtain ⟨enough, ends⟩ := ends
  obtain ⟨last, fires⟩ := ends enough (Nat.le_refl _)
  refine ⟨fired, finish ended, ⟨runs, rfl, ?_, reading.follows.firedOnce, ?_⟩,
    reading.fired_iff keyed sound done leads⟩
  · have counts := Running.triggersFired_toEnd last
    rw [fires, List.length_map, none, Nat.zero_add] at counts
    exact counts
  · have log := reading.log
    rwa [Running.topic_toEnd last] at log

/-- However far a new worker runs on a stored net, it fires no trigger twice. -/
theorem nodup_firings_of_staged {around : Surroundings} {space topic : String}
    (keyed : net.Keyed) (sound : net.Sound net.triggers) (relays : net.relay = Json.relayed?)
    (nonempty : net.triggers ≠ []) (holds : around.documents.Holds space net.triggers)
    (staged : Staged around space topic net.first) (id : String) (settings : WorkerSettings)
    (fuel : Nat) : ((created id space settings).firings fuel around).Nodup := by
  obtain ⟨source, ready, booted, opened, -, -, reads⟩ :=
    exists_reads sound.compiled nonempty holds staged id settings
  unfold firings
  simp only [booted, opened]
  exact reads.nodup_firings keyed sound relays fuel

end Worker

end EventFlow
