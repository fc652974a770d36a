import EventFlow.Proofs.Engine.Following

/-!
# Runs that read a net to its end

A worker that follows a net polls a topic on which the net's first announcement and its
own are. Every poll reads one of them, until all are read or the root trigger has ended
the run; by then everything that the net announces has been announced.
-/

namespace EventFlow

/-! ## Topics -/

namespace Hub

/-- A topic that was put under a name is found there. -/
theorem topic_insert (hub : Hub) (name : String) (found : Topic) :
    topic (Dict.insert hub name found) name = found := by
  rw [topic, Dict.get?_insert_self, Option.getD_some]

/-- Publishing events appends their texts to the log of the topic. -/
theorem topic_publishAll (hub : Hub) (name : String) (events : List Json) :
    (Worker.publishAll hub name events).topic name =
      { hub.topic name with
        log := (hub.topic name).log ++ events.map fun event => Text.bytesOf event.compact } := by
  induction events generalizing hub with
  | nil => simp [Worker.publishAll]
  | cons event rest ih =>
      have behind := ih (hub.publish name event).2
      simp only [publish, publishRaw, topic_insert] at behind
      simpa [Worker.publishAll, publish, publishRaw] using behind

/-- Marking a record as processed leaves the log of the topic. -/
theorem log_topic_commit (hub : Hub) (name : String) (offset : Nat) :
    ((hub.commit name [offset]).topic name).log = (hub.topic name).log := by
  simp [commit, topic_insert]

end Hub

/-! ## Stored nets -/

/-- All triggers that are stored for a namespace are triggers of a net. -/
def Net.Stored (net : Net) (documents : Documents) (space : String) : Prop :=
  ∃ stored, documents.loadTriggers space = .ok stored ∧
    ∀ entry ∈ stored, entry.1 ∈ net.triggers.map Trigger.id

/-- A worker that serves a net takes nothing up when only that net is stored. -/
theorem Worker.Serves.refresh_eq {worker : Worker} {net : Net} (serves : worker.Serves net)
    {documents : Documents} (stored : net.Stored documents worker.space) :
    (worker.refresh documents).2 = worker := by
  obtain ⟨entries, loaded, known⟩ := stored
  have kept : entries.foldl worker.takeUp worker.triggers = worker.triggers := by
    clear loaded
    induction entries with
    | nil => rfl
    | cons entry rest ih =>
        obtain ⟨trigger, member, named⟩ := List.mem_map.mp (known entry List.mem_cons_self)
        have found := serves.get?_triggers member
        rw [named] at found
        have passed : worker.takeUp worker.triggers entry = worker.triggers :=
          if_pos (by simp [Dict.contains, found])
        rw [List.foldl_cons, passed]
        exact ih fun other listed => known other (List.mem_cons_of_mem _ listed)
  unfold Worker.refresh
  rw [loaded]
  dsimp only
  rw [kept, if_pos rfl]

/-! ## Polls -/

/-- The announcement with which a net begins. -/
def Net.first (net : Net) : Announcement :=
  ⟨net.initial, net.data⟩

/-- What got through of the first announcements. -/
def Net.arrived (net : Net) (fired : List Announcement) (count : Nat) : List Announcement :=
  ((net.first :: fired).take count).filterMap (Announcement.through? net.relay)

/-- One more announcement that is read gets through or not. -/
theorem Net.arrived_succ {net : Net} {fired made : List Announcement} {count : Nat}
    {announcement : Announcement} (found : (net.first :: fired)[count]? = some announcement) :
    net.arrived (fired ++ made) (count + 1) =
      net.arrived fired count ++ (announcement.through? net.relay).toList := by
  obtain ⟨bound, _⟩ := List.getElem?_eq_some_iff.mp found
  rw [arrived, ← List.cons_append, List.take_append_of_le_length bound, List.take_add_one, found,
    List.filterMap_append]
  cases through : announcement.through? net.relay <;> simp [arrived, through]

/-- What got through has the subject of an announcement that was read. -/
theorem Net.exists_of_mem_arrived {net : Net} {fired : List Announcement} {count : Nat}
    {arrival : Announcement} (member : arrival ∈ net.arrived fired count) :
    ∃ announcement ∈ (net.first :: fired).take count,
      announcement.subject = arrival.subject ∧ net.relay announcement.data = some arrival.data := by
  obtain ⟨announcement, listed, through⟩ := List.mem_filterMap.mp member
  obtain ⟨data, relayed, rfl⟩ := Option.map_eq_some_iff.mp through
  exact ⟨announcement, listed, rfl, relayed⟩

namespace Worker

/-- The payload under which an announcement stands in a log. -/
def payload (announcement : Announcement) : List UInt8 :=
  Text.bytesOf announcement.raw.compact

/-- A run that has read so many of the announcements in its topic: the first one of a net,
and those that its worker has made. -/
structure Running.Reads (run : Running) (net : Net) (fired : List Announcement) (count : Nat) :
    Prop where
  follows : run.worker.Follows net (net.arrived fired count) fired
  idle : run.worker.Idle net
  log : (run.around.hub.topic run.cursor.topic).log = (net.first :: fired).map payload
  position : run.cursor.position.getD (run.around.hub.topic run.cursor.topic).committed = count
  within : count ≤ (net.first :: fired).length
  stored : net.Stored run.around.documents run.worker.space
  cancelled : run.around.cancelled = false

namespace Running.Reads

variable {run : Running} {net : Net} {fired : List Announcement} {count : Nat}

/-- The net announces whatever is in the topic. -/
theorem carries (reads : run.Reads net fired count) :
    ∀ announcement ∈ net.first :: fired,
      net.Carries announcement.subject announcement.data := by
  intro announcement member
  rcases List.mem_cons.mp member with rfl | made
  · exact .initial
  · exact (reads.follows.spreads announcement made).2

/-- The announcements in the topic have distinct subjects. -/
theorem distinct (reads : run.Reads net fired count) (keyed : net.Keyed) :
    ((net.first :: fired).map Announcement.subject).Nodup := by
  refine List.nodup_cons.mpr ⟨fun member => ?_, reads.follows.firedOnce⟩
  obtain ⟨announcement, made, same⟩ := List.mem_map.mp member
  have initial : announcement.subject = net.initial := same
  exact keyed.fresh (initial ▸ (reads.follows.spreads announcement made).1)

/-- A refresh that is due changes nothing but the number of polls. -/
theorem refreshed (reads : run.Reads net fired count) :
    run.refreshed = { run with polls := run.polls + 1 } := by
  unfold Running.refreshed
  dsimp only
  split
  · rw [reads.follows.serves.refresh_eq reads.stored]
  · rfl

/-- With everything read there is no record left. -/
theorem log_of_all_read (reads : run.Reads net fired count)
    (all : count = (net.first :: fired).length) :
    (run.around.hub.topic run.cursor.topic).log[count]? = none := by
  rw [reads.log, List.getElem?_eq_none_iff, List.length_map, all]

/-- With everything read a poll finds nothing. -/
theorem poll_of_all_read (reads : run.Reads net fired count)
    (all : count = (net.first :: fired).length) :
    run.poll = ({ run with
        cursor := { run.cursor with position := some count }
        idlePolls := run.idlePolls + 1 },
      !(run.worker.settings.maxIdlePolls > 0 &&
        run.idlePolls + 1 ≥ run.worker.settings.maxIdlePolls)) := by
  unfold Running.poll Cursor.poll
  simp only [reads.position, reads.log_of_all_read all]

/-- With everything read a poll fires nothing. -/
theorem fired_of_all_read (reads : run.Reads net fired count)
    (all : count = (net.first :: fired).length) : run.fired = [] := by
  unfold Running.fired Cursor.poll
  simp only [reads.position, reads.log_of_all_read all]

/-- The announcement that is read next has not arrived before. -/
theorem fresh_of_unread (reads : run.Reads net fired count) (keyed : net.Keyed)
    {announcement : Announcement} (found : (net.first :: fired)[count]? = some announcement) :
    announcement.subject ∉ (net.arrived fired count).map Announcement.subject := by
  intro earlier
  obtain ⟨arrival, listed, same⟩ := List.mem_map.mp earlier
  obtain ⟨other, read, named, _⟩ := Net.exists_of_mem_arrived listed
  have distinct := (reads.distinct keyed).sublist
    ((List.take_sublist (count + 1) (net.first :: fired)).map Announcement.subject)
  rw [List.take_add_one, found, List.map_append] at distinct
  exact List.disjoint_of_nodup_append distinct (List.mem_map.mpr ⟨other, read, named.trans same⟩)
    (List.mem_singleton_self _)

/-- The record that is polled next is that of the announcement that is not read yet. -/
theorem polled_of_unread (reads : run.Reads net fired count) {announcement : Announcement}
    (found : (net.first :: fired)[count]? = some announcement) :
    run.cursor.poll run.around.hub = (some (announcement.record count),
      { run.cursor with position := some (count + 1) }) := by
  have payload : (run.around.hub.topic run.cursor.topic).log[count]? =
      some (payload announcement) := by
    rw [reads.log, List.getElem?_map, found]
    rfl
  unfold Cursor.poll
  simp only [reads.position, payload]
  rfl

/-- With something to read a poll reads it, and what the worker announces on it is in the
topic afterwards. -/
theorem poll_of_unread (reads : run.Reads net fired count) (keyed : net.Keyed)
    (sound : net.Sound net.triggers) (relays : net.relay = Json.relayed?)
    (unread : count < (net.first :: fired).length) :
    ∃ next made, run.poll = (next, true) ∧ run.fired = made.map Announcement.subject ∧
      next.Reads net (fired ++ made) (count + 1) ∧ next.idlePolls = 0 ∧
      next.worker.settings = run.worker.settings := by
  obtain ⟨announcement, found⟩ : ∃ announcement, (net.first :: fired)[count]? = some announcement :=
    ⟨_, List.getElem?_eq_getElem unread⟩
  have member := List.mem_of_getElem? found
  have fresh := reads.fresh_of_unread keyed found
  have polled := reads.polled_of_unread found
  obtain ⟨made, settled, fires⟩ := reads.follows.consume keyed sound relays reads.idle
    (reads.carries announcement member) fresh count run.around
  have next : run.poll = ({ run with
      worker := (run.worker.process run.cursor.topic (announcement.record count) run.around).1
      around := (run.worker.process run.cursor.topic (announcement.record count) run.around).2
      cursor := { run.cursor with position := some (count + 1) }
      idlePolls := 0 }, true) := by
    unfold Running.poll
    rw [polled]
  have firing : run.fired = made.map Announcement.subject := by
    unfold Running.fired
    rw [polled]
    exact fires
  refine ⟨_, made, next, firing, ?_, rfl, settled.same.settings⟩
  constructor
  · rw [Net.arrived_succ found]
    exact settled.follows
  · exact settled.idle
  · have grown := Hub.topic_publishAll (run.worker.consume (announcement.record count)
      run.around).around.hub run.cursor.topic (made.map Announcement.raw)
    simp only [Worker.process, Hub.log_topic_commit, settled.outbox]
    rw [grown, settled.around]
    simp [reads.log, payload]
  · rfl
  · simp only [List.length_cons, List.length_append] at unread ⊢
    omega
  · simp only [Worker.process, settled.around, settled.same.space]
    exact reads.stored
  · simp only [Worker.process, settled.around]
    exact reads.cancelled

/-- With everything read a pass of the loop finds nothing, and whether the run goes on is up
to the limit of idle polls. -/
theorem pass_of_all_read (reads : run.Reads net fired count)
    (all : count = (net.first :: fired).length) :
    ∃ next, run.refreshed.poll = (next, !(run.worker.settings.maxIdlePolls > 0 &&
          run.idlePolls + 1 ≥ run.worker.settings.maxIdlePolls)) ∧
      run.refreshed.fired = [] ∧ next.Reads net fired count ∧
      next.idlePolls = run.idlePolls + 1 ∧ next.worker.settings = run.worker.settings := by
  have polls : Running.Reads { run with polls := run.polls + 1 } net fired count := { reads with }
  rw [reads.refreshed]
  exact ⟨_, polls.poll_of_all_read all, polls.fired_of_all_read all,
    { reads with position := rfl }, rfl, rfl⟩

/-- With something to read a pass of the loop reads it, and the run goes on. -/
theorem pass_of_unread (reads : run.Reads net fired count) (keyed : net.Keyed)
    (sound : net.Sound net.triggers) (relays : net.relay = Json.relayed?)
    (unread : count ≠ (net.first :: fired).length) :
    ∃ next made, run.refreshed.poll = (next, true) ∧
      run.refreshed.fired = made.map Announcement.subject ∧
      next.Reads net (fired ++ made) (count + 1) ∧ next.idlePolls = 0 ∧
      next.worker.settings = run.worker.settings := by
  have polls : Running.Reads { run with polls := run.polls + 1 } net fired count := { reads with }
  rw [reads.refreshed]
  exact polls.poll_of_unread keyed sound relays (Nat.lt_of_le_of_ne reads.within unread)

/-- However far a run goes that reads a net, no trigger fires in it again that has fired
before. -/
theorem nodup_firings (reads : run.Reads net fired count) (keyed : net.Keyed)
    (sound : net.Sound net.triggers) (relays : net.relay = Json.relayed?) (fuel : Nat) :
    (fired.map Announcement.subject ++ run.firings fuel).Nodup := by
  induction fuel generalizing run fired count with
  | zero => simpa [firings] using reads.follows.firedOnce
  | succ fuel ih =>
      unfold firings
      split
      · simpa using reads.follows.firedOnce
      · by_cases all : count = (net.first :: fired).length
        · obtain ⟨next, polled, nothing, behind, -⟩ := reads.pass_of_all_read all
          rw [polled, nothing, List.nil_append]
          split
          · next after same =>
            obtain ⟨rfl, -⟩ := Prod.mk.inj same
            exact ih behind
          · simpa using reads.follows.firedOnce
        · obtain ⟨next, made, polled, fires, behind, -⟩ :=
            reads.pass_of_unread keyed sound relays all
          rw [polled, fires, ← List.append_assoc, ← List.map_append]
          exact ih behind

end Running.Reads

/-! ## Ends -/

/-- A run comes to this end with any fuel that is enough, and fires these triggers. -/
def Running.Ends (run ended : Running) (ids : List String) : Prop :=
  ∃ enough, ∀ fuel, enough ≤ fuel → run.toEnd fuel = some ended ∧ run.firings fuel = ids

namespace Running.Ends

variable {run next ended : Running} {ids : List String}

/-- A run that is over has come to its end. -/
theorem of_isOver (isOver : run.isOver = true) : run.Ends run [] := by
  refine ⟨1, fun fuel enough => ?_⟩
  cases fuel with
  | zero => cases enough
  | succ fuel => exact ⟨by rw [toEnd, if_pos isOver], by rw [firings, if_pos isOver]⟩

/-- A run comes to its end with a poll that is the last one. -/
theorem last (goes : run.isOver = false) (polled : run.refreshed.poll = (next, false)) :
    run.Ends next run.refreshed.fired := by
  refine ⟨1, fun fuel enough => ?_⟩
  cases fuel with
  | zero => cases enough
  | succ fuel =>
      rw [toEnd, firings, if_neg (by simp [goes]), if_neg (by simp [goes]), polled]
      exact ⟨rfl, List.append_nil _⟩

/-- A run that goes on comes to the end of what is behind the poll. -/
theorem step (goes : run.isOver = false) (polled : run.refreshed.poll = (next, true))
    (ends : next.Ends ended ids) : run.Ends ended (run.refreshed.fired ++ ids) := by
  obtain ⟨enough, ends⟩ := ends
  refine ⟨enough + 1, fun fuel more => ?_⟩
  cases fuel with
  | zero => cases more
  | succ fuel =>
      obtain ⟨ended, fires⟩ := ends fuel (Nat.le_of_succ_le_succ more)
      rw [toEnd, firings, if_neg (by simp [goes]), if_neg (by simp [goes]), polled]
      exact ⟨ended, congrArg (run.refreshed.fired ++ ·) fires⟩

end Running.Ends

namespace Running.Reads

variable {run : Running} {net : Net} {fired : List Announcement} {count : Nat}

/-- No more is read than the triggers of the net can announce. -/
theorem count_le (reads : run.Reads net fired count) : count ≤ net.triggers.length + 1 := by
  have bound : (fired.map Announcement.subject).length ≤ (net.triggers.map Trigger.id).length := by
    refine (List.subperm_of_subset reads.follows.firedOnce fun id member => ?_).length_le
    obtain ⟨announcement, made, rfl⟩ := List.mem_map.mp member
    exact (reads.follows.spreads announcement made).1
  rw [List.length_map, List.length_map] at bound
  exact reads.within.trans (Nat.succ_le_succ bound)

/-- A run that reads a net comes to an end. By then it is over, or everything is read, and
what it has fired on the way has been announced. -/
theorem exists_ends (reads : run.Reads net fired count) (keyed : net.Keyed)
    (sound : net.Sound net.triggers) (relays : net.relay = Json.relayed?)
    (limited : 0 < run.worker.settings.maxIdlePolls) :
    ∃ ended made total, run.Ends ended (made.map Announcement.subject) ∧
      ended.Reads net (fired ++ made) total ∧
      (ended.isOver = true ∨ total = (net.first :: (fired ++ made)).length) := by
  generalize settings : run.worker.settings = fixed at limited
  -- Every record that is read leaves fewer of them, and every empty poll brings the limit nearer.
  generalize measured : (net.triggers.length + 1 - count) * (fixed.maxIdlePolls + 1) +
    (fixed.maxIdlePolls - run.idlePolls) = measure
  induction measure using Nat.strong_induction_on generalizing run fired count with
  | _ measure ih =>
  have unchanged : fired ++ [] = fired := List.append_nil fired
  cases goes : run.isOver with
  | true => exact ⟨run, [], count, .of_isOver goes, unchanged.symm ▸ reads, .inl goes⟩
  | false =>
      by_cases all : count = (net.first :: fired).length
      · obtain ⟨next, polled, nothing, behind, idle, same⟩ := reads.pass_of_all_read all
        rw [settings, decide_eq_true limited] at polled
        by_cases limit : fixed.maxIdlePolls ≤ run.idlePolls + 1
        · rw [decide_eq_true limit] at polled
          have whole := Running.Ends.last goes polled
          rw [nothing] at whole
          refine ⟨next, [], count, whole, unchanged.symm ▸ behind, .inr ?_⟩
          rw [unchanged, all]
        · rw [decide_eq_false limit] at polled
          obtain ⟨ended, made, total, ends, done⟩ :=
            ih _ (by omega) behind (same.trans settings) rfl
          have whole := Running.Ends.step goes polled ends
          rw [nothing, List.nil_append] at whole
          exact ⟨ended, made, total, whole, done⟩
      · obtain ⟨next, first, polled, fires, behind, idle, same⟩ :=
          reads.pass_of_unread keyed sound relays all
        have fewer : (net.triggers.length + 1 - (count + 1)) * (fixed.maxIdlePolls + 1) +
            (fixed.maxIdlePolls - next.idlePolls) < measure := by
          obtain ⟨rest, left⟩ := Nat.exists_eq_add_of_le behind.count_le
          have more : count + 1 + rest - count = rest + 1 := by omega
          rw [← measured, left, Nat.add_sub_cancel_left, more, Nat.add_mul]
          omega
        obtain ⟨ended, made, total, ends, done⟩ := ih _ fewer behind (same.trans settings) rfl
        have whole := Running.Ends.step goes polled ends
        rw [fires, ← List.map_append] at whole
        rw [List.append_assoc] at done
        exact ⟨ended, first ++ made, total, whole, done⟩

/-! ## Everything is announced -/

/-- What is complete and let through has been announced, once nobody is ready. -/
theorem mem_fired (reads : run.Reads net fired count) (sound : net.Sound net.triggers)
    {trigger : Trigger} (member : trigger ∈ net.triggers)
    (complete : 0 < run.worker.available trigger)
    (opens : ∀ announcement ∈ net.arrived fired count, announcement.subject ∈ trigger.waits →
      Opens trigger.condition? announcement.data)
    {output : Json} (carries : net.Carries trigger.id output) : ⟨trigger.id, output⟩ ∈ fired := by
  have consumed : 0 < run.worker.consumed trigger.id :=
    Nat.lt_of_lt_of_le complete (Nat.le_of_not_lt (of_decide_eq_false (reads.idle trigger member)))
  obtain ⟨⟨id, data⟩, made, named⟩ :=
    List.mem_map.mp (reads.follows.judged trigger member consumed opens)
  cases named
  have announced := (reads.follows.spreads _ made).2
  rwa [sound.single trigger member output data carries announced]

/-- When everything is read, what an announcement got through as has arrived. -/
theorem mem_arrived (all : count = (net.first :: fired).length) {subject : String}
    {output input : Json} (made : ⟨subject, output⟩ ∈ net.first :: fired)
    (relayed : net.relay output = some input) : ⟨subject, input⟩ ∈ net.arrived fired count := by
  rw [Net.arrived, all, List.take_length]
  exact List.mem_filterMap.mpr ⟨_, made, by rw [Announcement.through?, relayed]; rfl⟩

/-- When everything is read, everything that the net announces has been announced. -/
theorem mem_of_all_read (reads : run.Reads net fired count) (sound : net.Sound net.triggers)
    (all : count = (net.first :: fired).length) {subject : String} {output : Json}
    (carries : net.Carries subject output) : ⟨subject, output⟩ ∈ net.first :: fired := by
  have follows := reads.follows
  induction carries using Net.Carries.rec (motive_2 := fun trigger subjects inputs _ =>
    List.Forall₂ (fun subject input => ⟨subject, input⟩ ∈ net.arrived fired count ∧
      Opens trigger.condition? input) subjects inputs) with
  | initial => exact List.mem_cons_self
  | nil => exact .nil
  | cons carries relayed opens _ made behind =>
      exact .cons ⟨mem_arrived all made relayed, opens⟩ behind
  | @all trigger inputs member joins waits collects arrive =>
      have come := exists_of_forall₂ arrive
      refine List.mem_cons_of_mem _ (reads.mem_fired sound member ?_ ?_ (.all member joins waits collects))
      · rw [follows.available_all_iff member joins]
        intro name listed
        obtain ⟨input, -, arrived, _⟩ := come name listed
        exact List.mem_map.mpr ⟨_, arrived, rfl⟩
      · intro announcement arrived listed
        obtain ⟨input, -, other, opens⟩ := come announcement.subject listed
        exact follows.data_unique other arrived ▸ opens
  | @any trigger subject output input member joins waits carries relayed opens made =>
      have arrived := mem_arrived all made relayed
      refine List.mem_cons_of_mem _ (reads.mem_fired sound member ?_ ?_
        (.any member joins waits carries relayed opens))
      · rw [follows.available_any member joins]
        refine List.length_pos_of_mem (List.mem_filter.mpr ⟨waits, decide_eq_true ?_⟩)
        exact List.mem_map.mpr ⟨_, arrived, rfl⟩
      · intro announcement other listed
        obtain ⟨_, announced, _⟩ := follows.arrives announcement other
        obtain ⟨name, data⟩ := announcement
        cases (sound.exclusive trigger member joins).once _ listed _ waits _ _ announced carries
        exact follows.data_unique arrived other ▸ opens

/-- Whatever a trigger was fired by has been announced before. -/
theorem mem_of_feeds (reads : run.Reads net fired count) (keyed : net.Keyed)
    (sound : net.Sound net.triggers) {subject id : String} (feeds : net.Feeds subject id)
    (carries : ∃ output, net.Carries subject output)
    (made : id ∈ (net.first :: fired).map Announcement.subject) :
    subject ∈ (net.first :: fired).map Announcement.subject := by
  have follows := reads.follows
  obtain ⟨output, carries⟩ := carries
  obtain ⟨trigger, member, rfl, waits, _⟩ := feeds
  have complete : 0 < run.worker.available trigger := by
    refine Nat.lt_of_lt_of_le (Nat.pos_of_ne_zero fun none => ?_) (follows.consumed trigger member)
    rcases List.mem_cons.mp made with initial | made
    · have fresh : trigger.id ≠ net.initial := fun same => keyed.fresh (same ▸ List.mem_map_of_mem member)
      exact fresh initial
    · exact follows.unjudged trigger member none made
  have arrived : subject ∈ (net.arrived fired count).map Announcement.subject := by
    cases joins : joinsAny trigger with
    | false => exact (follows.available_all_iff member joins).mp complete subject waits
    | true =>
        rw [follows.available_any member joins] at complete
        obtain ⟨name, listed⟩ := List.exists_mem_of_length_pos complete
        obtain ⟨awaited, came⟩ := List.mem_filter.mp listed
        obtain ⟨arrival, held, rfl⟩ := List.mem_map.mp (of_decide_eq_true came)
        obtain ⟨_, announced, _⟩ := follows.arrives arrival held
        have same := (sound.exclusive trigger member joins).once _ waits _ awaited _ _ carries announced
        exact same ▸ List.mem_map_of_mem held
  obtain ⟨arrival, held, rfl⟩ := List.mem_map.mp arrived
  obtain ⟨announcement, read, named, _⟩ := Net.exists_of_mem_arrived held
  exact List.mem_map.mpr ⟨announcement, List.mem_of_mem_take read, named⟩

/-- Whatever leads to a trigger that was fired has been announced before. -/
theorem mem_of_leads (reads : run.Reads net fired count) (keyed : net.Keyed)
    (sound : net.Sound net.triggers) {subject id : String} (leads : net.Leads subject id)
    (carries : ∃ output, net.Carries subject output)
    (made : id ∈ (net.first :: fired).map Announcement.subject) :
    subject ∈ (net.first :: fired).map Announcement.subject := by
  induction leads using Relation.ReflTransGen.head_induction_on with
  | refl => exact made
  | head feeds _ ih =>
      have ⟨_, _, _, _, announced⟩ := feeds
      exact reads.mem_of_feeds keyed sound feeds carries (ih announced)

/-- At the end of a run everything has been announced that the net announces, if all of
it leads to the root trigger once that is announced. -/
theorem fired_iff (reads : run.Reads net fired count) (keyed : net.Keyed)
    (sound : net.Sound net.triggers)
    (ended : run.isOver = true ∨ count = (net.first :: fired).length)
    (leads : ∀ root ∈ net.triggers, root.IsRoot → (∃ output, net.Carries root.id output) →
      ∀ subject output, net.Spreads net.triggers subject output → net.Leads subject root.id)
    (subject : String) (output : Json) :
    ⟨subject, output⟩ ∈ fired ↔ net.Spreads net.triggers subject output := by
  refine ⟨reads.follows.spreads _, fun spreads => ?_⟩
  have made : ⟨subject, output⟩ ∈ net.first :: fired := by
    rcases ended with halted | all
    · have stopped : run.worker.lifecycle ≠ .running := by
        simpa [isOver, reads.cancelled] using halted
      obtain ⟨root, member, isRoot, made⟩ := reads.follows.ended.resolve_left stopped
      have completed : root.id ∈ (net.first :: fired).map Announcement.subject :=
        List.mem_cons_of_mem _ made
      obtain ⟨closing, listed, named⟩ := List.mem_map.mp completed
      have led := leads root member isRoot ⟨_, named ▸ reads.carries closing listed⟩ _ _ spreads
      obtain ⟨⟨_, data⟩, made, rfl⟩ := List.mem_map.mp
        (reads.mem_of_leads keyed sound led ⟨output, spreads.2⟩ completed)
      have announced := reads.carries _ made
      exact sound.single_subject keyed _ _ _ announced spreads.2 ▸ made
    · exact reads.mem_of_all_read sound all spreads.2
  have different : subject ≠ net.initial := fun same => keyed.fresh (same ▸ spreads.1)
  rcases List.mem_cons.mp made with initial | made
  · exact absurd (congrArg Announcement.subject initial) different
  · exact made

end Running.Reads

end Worker

end EventFlow
