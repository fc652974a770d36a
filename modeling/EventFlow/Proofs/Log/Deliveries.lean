import EventFlow.Log.Hub
import EventFlow.Proofs.Dict
import Mathlib.Data.List.Infix
import Mathlib.Data.List.TakeWhile
import Mathlib.Order.Lattice

/-!
# Deliveries from logs in memory

Any number of readers poll the topics of a hub while payloads are published and records are
committed, all in any order. What has happened so far says what is there: the records of a
topic are the published ones, what counts as processed ends with the last record that was
committed, and a reader has got the records from where it started, one after the other.
-/

namespace EventFlow

/-! ## Records of a topic -/

namespace Topic

/-- The records of a log. -/
def records (topic : Topic) : List Record :=
  topic.log.mapIdx Record.mk

@[simp] theorem length_records (topic : Topic) : topic.records.length = topic.log.length :=
  List.length_mapIdx

/-- A record is found at its offset. -/
theorem getElem?_records (topic : Topic) (offset : Nat) :
    topic.records[offset]? = topic.log[offset]?.map (Record.mk offset) :=
  List.getElem?_mapIdx

/-- A record of a log has the payload that stands at its offset. -/
theorem mem_records_iff {topic : Topic} {record : Record} :
    record ∈ topic.records ↔ topic.log[record.offset]? = some record.payload := by
  rw [List.mem_iff_getElem?]
  simp only [getElem?_records, Option.map_eq_some_iff]
  constructor
  · rintro ⟨offset, payload, found, rfl⟩
    exact found
  · exact fun found => ⟨record.offset, record.payload, found, rfl⟩

/-- The records of a log have its payloads. -/
theorem map_payload_records (topic : Topic) : topic.records.map Record.payload = topic.log := by
  refine List.ext_getElem (by simp) fun offset _ _ => ?_
  simp [records]

/-- Records that stand at the front of a log, from some offset on, have the offsets that follow
this one. -/
theorem map_offset_of_prefix {topic : Topic} {first : Nat} {front : List Record}
    (stands : front <+: topic.records.drop first) :
    front.map Record.offset = List.range' first front.length := by
  refine List.ext_getElem (by simp) fun index within _ => ?_
  rw [List.getElem_map, stands.getElem (by simpa using within)]
  simp [records]

end Topic

/-! ## Hubs -/

namespace Hub

/-- The offset behind the last of these, with which nothing is left to be processed among
them. -/
def past (offsets : List Nat) : Nat :=
  offsets.max?.elim 0 (· + 1)

/-- What is past offsets lies behind each of them. -/
theorem past_le_iff {offsets : List Nat} {bound : Nat} :
    past offsets ≤ bound ↔ ∀ offset ∈ offsets, offset < bound := by
  unfold past
  cases found : offsets.max? with
  | none => simp [List.max?_eq_none_iff.mp found]
  | some last =>
    obtain ⟨member, largest⟩ := List.max?_eq_some_iff.mp found
    constructor
    · exact fun below offset listed => Nat.lt_of_le_of_lt (largest offset listed) below
    · exact fun below => below last member

/-- What is past two lists of offsets is past both. -/
theorem past_append (first second : List Nat) :
    past (first ++ second) = max (past first) (past second) :=
  eq_of_forall_ge_iff fun bound => by
    simp only [Nat.max_le, past_le_iff, List.mem_append, or_imp, forall_and]

/-- Publishing appends to the log of one topic. -/
theorem topic_publishRaw (hub : Hub) (name other : String) (payload : List UInt8) :
    (hub.publishRaw name payload).2.topic other =
      if name = other then
        { hub.topic other with log := (hub.topic other).log ++ [payload] }
      else hub.topic other := by
  simp only [publishRaw, topic, Dict.get?_insert]
  split
  · next same => rw [same, Option.getD_some]
  · rfl

/-- Committing moves the mark of one topic past the offsets, but never back. -/
theorem topic_commit (hub : Hub) (name other : String) (offsets : List Nat) :
    (hub.commit name offsets).topic other =
      if name = other then
        { hub.topic other with committed := max (hub.committed other) (past offsets) }
      else hub.topic other := by
  unfold commit past
  cases offsets.max? with
  | none => simp [committed]
  | some last =>
    simp only [topic, Dict.get?_insert, committed]
    split
    · next same => rw [same, Option.getD_some, Option.elim_some]
    · rfl

end Hub

namespace Cursor

/-- The offset at which a cursor looks next. -/
def next (cursor : Cursor) (hub : Hub) : Nat :=
  cursor.position.getD (hub.committed cursor.topic)

/-- A poll gives the record at which the cursor looks. -/
theorem poll_fst (cursor : Cursor) (hub : Hub) :
    (cursor.poll hub).1 = (hub.topic cursor.topic).records[cursor.next hub]? := by
  simp only [poll, Topic.getElem?_records, next, Hub.committed]
  split
  · next payload found => rw [found, Option.map_some]
  · next missing => rw [missing, Option.map_none]

/-- A poll moves the cursor behind the record that it gave. -/
theorem poll_snd (cursor : Cursor) (hub : Hub) :
    (cursor.poll hub).2 =
      { cursor with position := some (cursor.next hub + (cursor.poll hub).1.toList.length) } := by
  simp only [poll, next, Hub.committed]
  split <;> rfl

/-- The records that polls of a cursor give while nothing else happens. -/
def polls (cursor : Cursor) (hub : Hub) : Nat → List Record
  | 0 => []
  | count + 1 => (cursor.poll hub).1.toList ++ (cursor.poll hub).2.polls hub count

/-- Polls give the records from the one at which the cursor looks, up to the last one. -/
theorem polls_eq (cursor : Cursor) (hub : Hub) (count : Nat) :
    cursor.polls hub count =
      ((hub.topic cursor.topic).records.drop (cursor.next hub)).take count := by
  induction count generalizing cursor with
  | zero => rfl
  | succ count ih =>
    simp only [polls, ih, poll_snd, poll_fst]
    cases found : (hub.topic cursor.topic).records[cursor.next hub]? with
    | none =>
      have behind : (hub.topic cursor.topic).records.drop (cursor.next hub) = [] :=
        List.drop_eq_nil_of_le (List.getElem?_eq_none_iff.mp found)
      change List.take count (List.drop (cursor.next hub) _) = _
      rw [behind, List.take_nil, List.take_nil]
    | some record =>
      obtain ⟨within, rfl⟩ := List.getElem?_eq_some_iff.mp found
      rw [List.drop_eq_getElem_cons within, List.take_succ_cons]
      rfl

end Cursor

namespace Hub

/-! ## Histories -/

/-- Something that happens to a hub and its readers, which are numbered as they are opened. -/
inductive Occurrence where
  | published (topic : String) (payload : List UInt8) (offset : Nat)
  | opened (topic : String)
  | polled (topic : String) (reader : Nat) (record : Option Record)
  | committed (topic : String) (records : List Record)

namespace Occurrence

/-- The record that was published on a topic. -/
def publication? (name : String) : Occurrence → Option Record
  | .published topic payload offset => if topic = name then some ⟨offset, payload⟩ else none
  | _ => none

/-- Whether a reader polled. -/
def polledBy (number : Nat) : Occurrence → Bool
  | .polled _ reader _ => reader = number
  | _ => false

/-- The record that a reader got. -/
def delivery? (number : Nat) : Occurrence → Option Record
  | .polled _ reader record => if reader = number then record else none
  | _ => none

/-- The offsets that were committed on a topic. -/
def offsets (name : String) : Occurrence → List Nat
  | .committed topic records => if topic = name then records.map Record.offset else []
  | _ => []

end Occurrence

variable {history : List Occurrence} {occurrence : Occurrence} {name : String} {number : Nat}

/-- What was published on a topic, under the offsets that publishing gave. -/
def publications (name : String) (history : List Occurrence) : List Record :=
  history.filterMap (Occurrence.publication? name)

/-- What a reader got. -/
def delivered (number : Nat) (history : List Occurrence) : List Record :=
  history.filterMap (Occurrence.delivery? number)

/-- The offset behind the last record that was committed on a topic. -/
def settled (name : String) (history : List Occurrence) : Nat :=
  past (history.flatMap (Occurrence.offsets name))

/-- What was settled on a topic when a reader polled for the first time. -/
def start (name : String) (number : Nat) (history : List Occurrence) : Nat :=
  settled name (history.takeWhile fun occurrence => !occurrence.polledBy number)

theorem publications_concat : publications name (history ++ [occurrence]) =
    publications name history ++ (occurrence.publication? name).toList := by
  rw [publications, List.filterMap_append]
  cases found : occurrence.publication? name <;> simp [publications, found]

theorem delivered_concat : delivered number (history ++ [occurrence]) =
    delivered number history ++ (occurrence.delivery? number).toList := by
  rw [delivered, List.filterMap_append]
  cases found : occurrence.delivery? number <;> simp [delivered, found]

theorem settled_concat : settled name (history ++ [occurrence]) =
    max (settled name history) (past (occurrence.offsets name)) := by
  simp [settled, past_append]

/-- A reader that has not polled would start at what is settled now. -/
theorem start_of_idle (idle : history.any (Occurrence.polledBy number) = false) :
    start name number history = settled name history := by
  rw [start, List.takeWhile_eq_self_iff.mpr]
  simpa using idle

/-- A reader starts at what is settled when it polls, and does not start again later. -/
theorem start_concat
    (polls : (history ++ [occurrence]).any (Occurrence.polledBy number) = true) :
    start name number (history ++ [occurrence]) = start name number history := by
  unfold start
  rw [List.takeWhile_append]
  -- Either the reader polls just now, or what counts ended at an earlier poll of its own.
  split
  · next whole =>
    have all := (List.takeWhile_prefix fun earlier : Occurrence =>
      !earlier.polledBy number).eq_of_length whole
    have idle : history.any (Occurrence.polledBy number) = false := by
      simpa using List.takeWhile_eq_self_iff.mp all
    have here : occurrence.polledBy number = true := by simpa [idle] using polls
    rw [all, List.takeWhile_cons_of_neg (by simp [here]), List.append_nil]
  · rfl

/-- A reader that did not poll got nothing. -/
theorem delivery?_of_not_polledBy (other : occurrence.polledBy number = false) :
    occurrence.delivery? number = none := by
  cases occurrence with
  | polled topic reader record =>
    rw [Occurrence.delivery?, if_neg (by simpa [Occurrence.polledBy] using other)]
  | _ => rfl

theorem delivered_of_idle (idle : history.any (Occurrence.polledBy number) = false) :
    delivered number history = [] :=
  List.filterMap_eq_nil_iff.mpr fun _ member =>
    delivery?_of_not_polledBy (by simpa using List.any_eq_false.mp idle _ member)

/-! ## Runs -/

/-- A hub, and the cursors of its readers. -/
structure Station where
  hub : Hub := []
  cursors : List Cursor := []

/-- The runs of a hub without topics, each with its history. Committed are records that
somebody has polled from the same topic. -/
inductive Run : List Occurrence → Station → Prop where
  | idle : Run [] {}
  | publish {history : List Occurrence} {station : Station} (before : Run history station)
      (topic : String) (event : Json) :
      Run (history ++ [.published topic (Text.bytesOf event.compact)
          (station.hub.publish topic event).1])
        { station with hub := (station.hub.publish topic event).2 }
  | publishRaw {history : List Occurrence} {station : Station} (before : Run history station)
      (topic : String) (payload : List UInt8) :
      Run (history ++ [.published topic payload (station.hub.publishRaw topic payload).1])
        { station with hub := (station.hub.publishRaw topic payload).2 }
  | opened {history : List Occurrence} {station : Station} (before : Run history station)
      (topic : String) :
      Run (history ++ [.opened topic]) { station with cursors := station.cursors ++ [{ topic }] }
  | poll {history : List Occurrence} {station : Station} {reader : Nat} {cursor : Cursor}
      (before : Run history station) (reads : station.cursors[reader]? = some cursor) :
      Run (history ++ [.polled cursor.topic reader (cursor.poll station.hub).1])
        { station with cursors := station.cursors.set reader (cursor.poll station.hub).2 }
  | commit {history : List Occurrence} {station : Station} {topic : String}
      {records : List Record} (before : Run history station)
      (polled : ∀ record ∈ records, ∃ reader, .polled topic reader (some record) ∈ history) :
      Run (history ++ [.committed topic records])
        { station with hub := station.hub.commit topic (records.map Record.offset) }

/-! ## Readers -/

/-- A cursor has got the records of its topic from its start on, and looks at the next one. -/
structure Follows (history : List Occurrence) (hub : Hub) (number : Nat) (cursor : Cursor) :
    Prop where
  polled : cursor.position.isSome = history.any (Occurrence.polledBy number)
  next : cursor.next hub = start cursor.topic number history + (delivered number history).length
  delivered : delivered number history <+:
    (hub.topic cursor.topic).records.drop (start cursor.topic number history)

variable {hub later : Hub} {cursor : Cursor}

/-- The next poll of a cursor continues what it has got. -/
theorem Follows.poll (follows : Follows history hub number cursor) :
    (cursor.poll hub).1 = ((hub.topic cursor.topic).records.drop
      (start cursor.topic number history))[(Hub.delivered number history).length]? := by
  rw [Cursor.poll_fst, List.getElem?_drop, follows.next]

/-- A cursor follows its topic when it polls. -/
theorem Follows.polling (follows : Follows history hub number cursor) :
    Follows (history ++ [.polled cursor.topic number (cursor.poll hub).1]) hub number
      (cursor.poll hub).2 := by
  let record := (cursor.poll hub).1
  have got : Hub.delivered number (history ++ [.polled cursor.topic number record]) =
      Hub.delivered number history ++ record.toList := by
    simp [delivered_concat, Occurrence.delivery?]
  have same : start cursor.topic number (history ++ [.polled cursor.topic number record]) =
      start cursor.topic number history := start_concat (by simp [Occurrence.polledBy])
  rw [Cursor.poll_snd]
  constructor
  · simp [Occurrence.polledBy]
  · change cursor.next hub + record.toList.length = _
    rw [same, got, List.length_append, ← Nat.add_assoc, ← follows.next]
  · rw [same, got, List.prefix_iff_eq_take.mp follows.delivered]
    change _ ++ (cursor.poll hub).1.toList <+: _
    rw [follows.poll, ← List.take_add_one]
    exact List.take_prefix _ _

/-- A cursor goes on following its topic when something else happens. -/
theorem Follows.onward (follows : Follows history hub number cursor)
    (other : occurrence.polledBy number = false)
    (settles : later.committed cursor.topic = settled cursor.topic (history ++ [occurrence]))
    (grows : (hub.topic cursor.topic).records <+: (later.topic cursor.topic).records) :
    Follows (history ++ [occurrence]) later number cursor := by
  have got : Hub.delivered number (history ++ [occurrence]) = Hub.delivered number history := by
    rw [delivered_concat, delivery?_of_not_polledBy other]
    exact List.append_nil _
  have polled : (history ++ [occurrence]).any (Occurrence.polledBy number) =
      history.any (Occurrence.polledBy number) := by simp [other]
  -- Before its first poll a reader has no place of its own: it starts at whatever is settled.
  cases position : cursor.position with
  | none =>
    have idle : history.any (Occurrence.polledBy number) = false := by
      rw [← follows.polled, position]
      rfl
    have nothing := delivered_of_idle idle
    refine ⟨follows.polled.trans polled.symm, ?_, ?_⟩
    · rw [got, nothing, start_of_idle (polled.trans idle), Cursor.next, position]
      exact settles
    · rw [got, nothing]
      exact List.nil_prefix
  | some offset =>
    have busy : (history ++ [occurrence]).any (Occurrence.polledBy number) = true := by
      rw [polled, ← follows.polled, position]
      rfl
    refine ⟨follows.polled.trans polled.symm, ?_, ?_⟩
    · rw [got, start_concat busy, ← follows.next, Cursor.next, Cursor.next, position]
      rfl
    · rw [got, start_concat busy]
      exact follows.delivered.trans (List.IsPrefix.drop grows _)

/-- A cursor that was just opened follows its topic. -/
theorem follows_opened
    (unread : (history ++ [Occurrence.opened name]).any (Occurrence.polledBy number) = false)
    (settles : hub.committed name = settled name (history ++ [.opened name])) :
    Follows (history ++ [.opened name]) hub number { topic := name } := by
  have nothing := delivered_of_idle unread
  refine ⟨unread.symm, ?_, ?_⟩
  · rw [nothing, start_of_idle unread]
    exact settles
  · rw [nothing]
    exact List.nil_prefix

/-! ## Stations -/

/-- A station is what its history has made of it. -/
structure Faithful (history : List Occurrence) (station : Station) : Prop where
  records : ∀ name, (station.hub.topic name).records = publications name history
  committed : ∀ name, station.hub.committed name = settled name history
  within : ∀ name, settled name history ≤ (station.hub.topic name).log.length
  polled : ∀ name reader record, .polled name reader (some record) ∈ history →
    record ∈ (station.hub.topic name).records
  opened : ∀ number, history.any (Occurrence.polledBy number) = true →
    number < station.cursors.length
  follows : ∀ number cursor, station.cursors[number]? = some cursor →
    Follows history station.hub number cursor

variable {station : Station}

/-- Nothing but a poll is recorded as one. -/
theorem mem_polled_concat (other : ∀ number, occurrence.polledBy number = false)
    {reader : Nat} {record : Option Record} :
    .polled name reader record ∈ history ++ [occurrence] ↔ .polled name reader record ∈ history := by
  rw [List.mem_append, List.mem_singleton, or_iff_left]
  rintro rfl
  simpa [Occurrence.polledBy] using other reader

/-- A station stays faithful when something happens to its hub that is no poll: what is
published comes behind the records, and what is committed was on the log before. -/
theorem Faithful.onward (faithful : Faithful history station)
    (other : ∀ number, occurrence.polledBy number = false)
    (records : ∀ name, (later.topic name).records =
      (station.hub.topic name).records ++ (occurrence.publication? name).toList)
    (committed : ∀ name, later.committed name =
      max (station.hub.committed name) (past (occurrence.offsets name)))
    (within : ∀ name, past (occurrence.offsets name) ≤ (station.hub.topic name).log.length) :
    Faithful (history ++ [occurrence]) { station with hub := later } := by
  have grows : ∀ name, (station.hub.topic name).records <+: (later.topic name).records :=
    fun name => ⟨_, (records name).symm⟩
  have settles : ∀ name, later.committed name = settled name (history ++ [occurrence]) := by
    intro name
    rw [committed, settled_concat, faithful.committed]
  constructor
  · intro name
    rw [records, publications_concat, faithful.records]
  · exact settles
  · intro name
    have longer : (station.hub.topic name).log.length ≤ (later.topic name).log.length := by
      simpa using (grows name).length_le
    rw [settled_concat]
    exact (Nat.max_le.mpr ⟨faithful.within name, within name⟩).trans longer
  · intro name reader record member
    exact (grows name).subset (faithful.polled _ _ _ ((mem_polled_concat other).mp member))
  · intro number polls
    exact faithful.opened number (by simpa [other] using polls)
  · intro number cursor reads
    exact (faithful.follows number cursor reads).onward (other number) (settles _) (grows _)

/-- Publishing keeps a station faithful. -/
theorem Faithful.publishRaw (faithful : Faithful history station) (topic : String)
    (payload : List UInt8) :
    Faithful (history ++ [.published topic payload (station.hub.publishRaw topic payload).1])
      { station with hub := (station.hub.publishRaw topic payload).2 } := by
  refine faithful.onward (fun _ => rfl) (fun name => ?_) (fun name => ?_) fun _ => Nat.zero_le _
  · rw [topic_publishRaw]
    by_cases same : topic = name
    · subst same
      simp [Topic.records, Hub.publishRaw, Occurrence.publication?, List.mapIdx_concat]
    · simp [same, Occurrence.publication?]
  · rw [Hub.committed, topic_publishRaw]
    split <;> exact (Nat.max_zero _).symm

/-- Committing what was polled keeps a station faithful. -/
theorem Faithful.commit (faithful : Faithful history station) {topic : String}
    {records : List Record}
    (polled : ∀ record ∈ records, ∃ reader, .polled topic reader (some record) ∈ history) :
    Faithful (history ++ [.committed topic records])
      { station with hub := station.hub.commit topic (records.map Record.offset) } := by
  refine faithful.onward (fun _ => rfl) (fun name => ?_) (fun name => ?_) fun name => ?_
  · rw [topic_commit]
    split <;> exact (List.append_nil _).symm
  · rw [Hub.committed, topic_commit, Occurrence.offsets]
    split
    · rfl
    · exact (Nat.max_zero _).symm
  · rw [past_le_iff, Occurrence.offsets]
    split
    · next same =>
      subst same
      rw [List.forall_mem_map]
      intro record member
      obtain ⟨reader, earlier⟩ := polled record member
      have found := Topic.mem_records_iff.mp (faithful.polled _ _ _ earlier)
      exact (List.getElem?_eq_some_iff.mp found).1
    · simp

/-- Opening a reader keeps a station faithful. -/
theorem Faithful.openReader (faithful : Faithful history station) (topic : String) :
    Faithful (history ++ [.opened topic])
      { station with cursors := station.cursors ++ [{ topic }] } := by
  have kept : Faithful (history ++ [.opened topic]) station :=
    faithful.onward (fun _ => rfl) (fun _ => (List.append_nil _).symm)
      (fun _ => (Nat.max_zero _).symm) fun _ => Nat.zero_le _
  refine { kept with opened := fun number polls => ?_, follows := fun number cursor reads => ?_ }
  · exact (kept.opened number polls).trans_le (by simp)
  · rw [List.getElem?_append] at reads
    split at reads
    · exact kept.follows number cursor reads
    · next beyond =>
      -- The number is that of the new reader, so nobody has polled under it.
      have unread : (history ++ [Occurrence.opened topic]).any (Occurrence.polledBy number) =
          false := Bool.eq_false_iff.mpr fun polls => beyond (kept.opened number polls)
      obtain rfl := List.mem_singleton.mp (List.mem_of_getElem? reads)
      exact follows_opened unread (kept.committed topic)

/-- Polling keeps a station faithful. -/
theorem Faithful.poll (faithful : Faithful history station) {reader : Nat} {cursor : Cursor}
    (reads : station.cursors[reader]? = some cursor) :
    Faithful (history ++ [.polled cursor.topic reader (cursor.poll station.hub).1])
      { station with cursors := station.cursors.set reader (cursor.poll station.hub).2 } := by
  let occurrence : Occurrence := .polled cursor.topic reader (cursor.poll station.hub).1
  have follows := faithful.follows reader cursor reads
  have settles : ∀ name, settled name (history ++ [occurrence]) = settled name history := by
    intro name
    rw [settled_concat]
    exact Nat.max_zero _
  constructor
  · intro name
    rw [publications_concat, faithful.records]
    exact (List.append_nil _).symm
  · exact fun name => (faithful.committed name).trans (settles name).symm
  · exact fun name => (settles name).trans_le (faithful.within name)
  · intro name number record member
    rcases List.mem_append.mp member with earlier | now
    · exact faithful.polled _ _ _ earlier
    · obtain ⟨rfl, -, got⟩ := Occurrence.polled.inj (List.mem_singleton.mp now)
      rw [Cursor.poll_fst] at got
      exact List.mem_of_getElem? got.symm
  · intro number polls
    rw [List.length_set]
    rw [List.any_append, Bool.or_eq_true] at polls
    rcases polls with earlier | now
    · exact faithful.opened number earlier
    · obtain rfl : reader = number := by simpa [Occurrence.polledBy] using now
      exact (List.getElem?_eq_some_iff.mp reads).1
  · intro number other found
    rw [List.getElem?_set] at found
    split at found
    · next same =>
      subst same
      split at found
      · cases found
        exact follows.polling
      · cases found
    · next different =>
      have idle : occurrence.polledBy number = false := by
        simpa [occurrence, Occurrence.polledBy] using different
      exact (faithful.follows number other found).onward idle
        ((faithful.committed _).trans (settles _).symm) (List.prefix_refl _)

/-- A run makes a station what its history says. -/
theorem Run.faithful (run : Run history station) : Faithful history station := by
  induction run with
  | idle => exact ⟨fun _ => rfl, fun _ => rfl, fun _ => Nat.zero_le _, nofun, nofun, nofun⟩
  | publish _ topic event ih => exact ih.publishRaw topic _
  | publishRaw _ topic payload ih => exact ih.publishRaw topic payload
  | opened _ topic ih => exact ih.openReader topic
  | poll _ reads ih => exact ih.poll reads
  | commit _ polled ih => exact ih.commit polled

/-! ## What is delivered -/

/-- What a run has come through before is a run. -/
theorem Run.earlier (run : Run history station) {before : List Occurrence}
    (front : before <+: history) : ∃ earlier, Run before earlier := by
  induction run with
  | idle =>
    obtain rfl := List.prefix_nil.mp front
    exact ⟨_, .idle⟩
  | publish run topic event ih =>
    rcases List.prefix_concat_iff.mp front with rfl | shorter
    · exact ⟨_, run.publish topic event⟩
    · exact ih shorter
  | publishRaw run topic payload ih =>
    rcases List.prefix_concat_iff.mp front with rfl | shorter
    · exact ⟨_, run.publishRaw topic payload⟩
    · exact ih shorter
  | opened run topic ih =>
    rcases List.prefix_concat_iff.mp front with rfl | shorter
    · exact ⟨_, run.opened topic⟩
    · exact ih shorter
  | poll run reads ih =>
    rcases List.prefix_concat_iff.mp front with rfl | shorter
    · exact ⟨_, run.poll reads⟩
    · exact ih shorter
  | commit run polled ih =>
    rcases List.prefix_concat_iff.mp front with rfl | shorter
    · exact ⟨_, run.commit polled⟩
    · exact ih shorter

/-- Logs grow at their end, and what is committed does not go back. -/
theorem Run.grows {before : List Occurrence} {earlier : Station} (first : Run before earlier)
    (run : Run history station) (front : before <+: history) (topic : String) :
    (earlier.hub.topic topic).log <+: (station.hub.topic topic).log ∧
      earlier.hub.committed topic ≤ station.hub.committed topic := by
  constructor
  · rw [← Topic.map_payload_records, ← Topic.map_payload_records, first.faithful.records,
      run.faithful.records]
    exact (front.filterMap _).map _
  · obtain ⟨rest, rfl⟩ := front
    rw [first.faithful.committed, run.faithful.committed, settled, settled, List.flatMap_append,
      past_append]
    exact Nat.le_max_left _ _

/-- What was published is found on the log, where publishing said. -/
theorem Run.published_iff (run : Run history station) {topic : String} {payload : List UInt8}
    {offset : Nat} : .published topic payload offset ∈ history ↔
      (station.hub.topic topic).log[offset]? = some payload := by
  have found : ⟨offset, payload⟩ ∈ publications topic history ↔
      .published topic payload offset ∈ history := by
    rw [publications, List.mem_filterMap]
    constructor
    · rintro ⟨occurrence, member, same⟩
      unfold Occurrence.publication? at same
      split at same
      · split at same
        · next here =>
          cases here
          cases same
          exact member
        · cases same
      · cases same
    · exact fun member => ⟨_, member, by simp [Occurrence.publication?]⟩
  rw [← found, ← run.faithful.records]
  exact Topic.mem_records_iff

/-- However readers poll and commit while others publish: logs grow at their end, and the
records are the published ones, under the offsets that publishing gave. What is committed on a
topic ends with the last record that was committed, lies on the log, and does not go back. A
reader gets the records from what was committed at its first poll, one after the other, and
gets none only if there are no more. One that is opened now gets all that is not committed. -/
theorem deliveries_in_order (run : Run history station) :
    (∀ before, before <+: history → (∃ earlier, Run before earlier) ∧
      ∀ earlier, Run before earlier → ∀ topic,
        (earlier.hub.topic topic).log <+: (station.hub.topic topic).log ∧
          earlier.hub.committed topic ≤ station.hub.committed topic) ∧
    (∀ topic, (station.hub.topic topic).records = publications topic history ∧
      station.hub.committed topic = settled topic history ∧
      station.hub.committed topic ≤ (station.hub.topic topic).log.length) ∧
    (∀ topic reader record, .polled topic reader (some record) ∈ history →
      ∀ payload, .published topic payload record.offset ∈ history ↔ payload = record.payload) ∧
    (∀ reader cursor, station.cursors[reader]? = some cursor →
      let rest := (station.hub.topic cursor.topic).records.drop (start cursor.topic reader history)
      let got := delivered reader history
      got <+: rest ∧
        got.map Record.offset = List.range' (start cursor.topic reader history) got.length ∧
        (cursor.poll station.hub).1 = rest[got.length]? ∧
        ((cursor.poll station.hub).1 = none → got = rest)) ∧
    ∀ topic count, ({ topic } : Cursor).polls station.hub count =
      ((station.hub.topic topic).records.drop (station.hub.committed topic)).take count := by
  have faithful := run.faithful
  refine ⟨fun before front => ⟨run.earlier front, fun earlier first => first.grows run front⟩,
    fun topic => ⟨faithful.records topic, faithful.committed topic, ?_⟩,
    fun topic reader record polled payload => ?_, fun reader cursor reads => ?_,
    fun topic count => Cursor.polls_eq _ _ count⟩
  · exact (faithful.committed topic).trans_le (faithful.within topic)
  · rw [run.published_iff, Topic.mem_records_iff.mp (faithful.polled _ _ _ polled),
      Option.some.injEq, eq_comm]
  · have follows := faithful.follows reader cursor reads
    refine ⟨follows.delivered, Topic.map_offset_of_prefix follows.delivered, follows.poll, ?_⟩
    intro none
    rw [follows.poll, List.getElem?_eq_none_iff] at none
    exact follows.delivered.eq_of_length_le none

/-- Of two payloads a reader polls the first, which is committed. A reader that is opened then
gets the second one, and no other. -/
theorem sample_deliveries_in_order : ∃ history station, Run history station ∧
    station.hub.committed "t" = 1 ∧ delivered 0 history = [⟨0, [97]⟩] ∧
    (∀ payload, .published "t" payload 0 ∈ history ↔ payload = [97]) ∧
    ({ topic := "t" } : Cursor).polls station.hub 5 = [⟨1, [98]⟩] := by
  let reader : Cursor := { topic := "t" }
  let record : Record := ⟨0, [97]⟩
  have published := (Run.idle.publishRaw "t" [97]).publishRaw "t" [98]
  have opened := published.opened "t"
  have polled := opened.poll (show [reader][0]? = some reader from rfl)
  let poll : Occurrence := .polled "t" 0 (some record)
  have got : ∀ {history}, poll ∈ history ++ [poll] :=
    List.mem_append_right _ (List.mem_singleton_self _)
  have run := polled.commit (List.forall_mem_singleton.mpr ⟨0, got⟩)
  obtain ⟨-, -, origin, -, polls⟩ := deliveries_in_order run
  exact ⟨_, _, run, rfl, rfl, origin "t" 0 record (List.mem_append_left _ got),
    (polls "t" 5).trans rfl⟩

end Hub

end EventFlow
