import EventFlow.Proofs.Engine.Arrivals
import EventFlow.Proofs.Engine.Firings
import EventFlow.Proofs.Engine.Serving

/-!
# Workers that follow a net

A worker that serves a net keeps to what the net announces: every arrival it has
received and every announcement it has made is one of the net, and each comes once. A
step of the worker takes up one arrival or gives one trigger its turn.
-/

namespace EventFlow

/-- A completion that is announced, or that got through, with its data. -/
structure Announcement where
  subject : String
  data : Json

namespace Announcement

/-- The event of an announcement. -/
def raw (announcement : Announcement) : Json :=
  (EventKey.completion announcement.subject).toRaw announcement.data

/-- What gets through of an announcement. -/
def through? (relay : Relay) (announcement : Announcement) : Option Announcement :=
  (relay announcement.data).map fun data => { announcement with data }

/-- The record of an announcement in a log. -/
def record (announcement : Announcement) (offset : Nat) : Record :=
  ⟨offset, Text.bytesOf announcement.raw.compact⟩

/-- The key of an announcement's event. -/
theorem ofRaw?_raw (announcement : Announcement) :
    EventKey.ofRaw? announcement.raw = some (EventKey.completion announcement.subject) :=
  rfl

variable {announcements : List Announcement}

/-- Of distinct subjects one has only its own announcement. -/
theorem filter_subject {announcement : Announcement}
    (distinct : (announcements.map subject).Nodup) (member : announcement ∈ announcements) :
    (announcements.filter fun other => other.subject = announcement.subject) = [announcement] := by
  induction announcements with
  | nil => cases member
  | cons first rest ih =>
      obtain ⟨fresh, distinct⟩ := List.nodup_cons.mp distinct
      rcases List.mem_cons.mp member with rfl | later
      · rw [List.filter_cons_of_pos (by simp), List.filter_eq_nil_iff.mpr fun other listed same =>
          fresh (List.mem_map.mpr ⟨other, listed, by simpa using same⟩)]
      · have different : ¬ first.subject = announcement.subject := fun same =>
          fresh (List.mem_map.mpr ⟨announcement, later, same.symm⟩)
        rw [List.filter_cons_of_neg (by simpa using different), ih distinct later]

/-- Every listed subject has an announcement. -/
theorem exists_inputs {subjects : List String}
    (listed : ∀ name ∈ subjects, name ∈ announcements.map subject) :
    ∃ inputs, List.Forall₂ (fun name input => ⟨name, input⟩ ∈ announcements) subjects inputs := by
  induction subjects with
  | nil => exact ⟨[], .nil⟩
  | cons name rest ih =>
      obtain ⟨inputs, behind⟩ := ih fun other member => listed other (List.mem_cons_of_mem _ member)
      obtain ⟨first, member, rfl⟩ := List.mem_map.mp (listed name List.mem_cons_self)
      exact ⟨first.data :: inputs, .cons member behind⟩

end Announcement

namespace Worker

/-- One evaluation more counts for its trigger alone. -/
theorem consumed_of_activations_eq {worker after : Worker} {id : String}
    (activations : after.activations = (worker.activate id).activations) (other : String) :
    after.consumed other = worker.consumed other + if other = id then 1 else 0 := by
  rw [consumed, activations, activate, Dict.get?_insert]
  by_cases same : other = id
  · simp [same]
  · simp [same, Ne.symm same, consumed]

/-- What is complete depends on what was received. -/
theorem available_of_received_eq {worker after : Worker} (received : after.received = worker.received)
    (trigger : Trigger) : after.available trigger = worker.available trigger := by
  have arrivals : after.arrivals = worker.arrivals := by
    funext key
    rw [Worker.arrivals, received, Worker.arrivals]
  rw [available_eq, arrivals, available_eq]

/-- Two workers of one namespace with the same settings. -/
structure SameSettings (worker after : Worker) : Prop where
  settings : after.settings = worker.settings
  space : after.space = worker.space

/-- No trigger of a net is ready. -/
def Idle (worker : Worker) (net : Net) : Prop :=
  ∀ trigger ∈ net.triggers, worker.isReady trigger = false

/-- A worker that serves a net, after some announcements have arrived and it has made
others: which events it holds, which triggers it has judged, and that all of it is as in
the net. -/
structure Follows (worker : Worker) (net : Net) (arrived fired : List Announcement) : Prop where
  serves : worker.Serves net
  received : ∀ subject, (Dict.get? worker.received subject).getD [] =
    (arrived.filter fun announcement => announcement.subject = subject).map Announcement.raw
  arrivedOnce : (arrived.map Announcement.subject).Nodup
  arrives : ∀ announcement ∈ arrived, net.Arrives announcement.subject announcement.data
  firedOnce : (fired.map Announcement.subject).Nodup
  spreads : ∀ announcement ∈ fired,
    net.Spreads net.triggers announcement.subject announcement.data
  consumed : ∀ trigger ∈ net.triggers, worker.consumed trigger.id ≤ worker.available trigger
  unjudged : ∀ trigger ∈ net.triggers, worker.consumed trigger.id = 0 →
    trigger.id ∉ fired.map Announcement.subject
  judged : ∀ trigger ∈ net.triggers, 0 < worker.consumed trigger.id →
    (∀ announcement ∈ arrived, announcement.subject ∈ trigger.waits →
      Opens trigger.condition? announcement.data) →
    trigger.id ∈ fired.map Announcement.subject
  ended : worker.lifecycle = .running ∨ ∃ trigger ∈ net.triggers, trigger.IsRoot ∧
    trigger.id ∈ fired.map Announcement.subject

namespace Follows

variable {worker : Worker} {net : Net} {arrived fired : List Announcement} {trigger : Trigger}

/-! ## Arrivals -/

/-- The only event of an arrived subject is held. -/
theorem get?_received (follows : worker.Follows net arrived fired) {subject : String} {data : Json}
    (member : ⟨subject, data⟩ ∈ arrived) :
    Dict.get? worker.received subject = some [(EventKey.completion subject).toRaw data] := by
  have held := follows.received subject
  have only := Announcement.filter_subject follows.arrivedOnce member
  simp only at only
  rw [only] at held
  cases found : Dict.get? worker.received subject with
  | none =>
      rw [found] at held
      cases held
  | some events =>
      rw [found] at held
      exact congrArg some held

/-- A subject arrives with one data. -/
theorem data_unique (follows : worker.Follows net arrived fired) {subject : String}
    {first second : Json} (left : ⟨subject, first⟩ ∈ arrived) (right : ⟨subject, second⟩ ∈ arrived) :
    first = second := by
  have same := List.inj_on_of_nodup_map follows.arrivedOnce left right rfl
  exact congrArg Announcement.data same

/-- A completion has arrived once or not at all. -/
theorem arrivals_completion (follows : worker.Follows net arrived fired) (subject : String) :
    worker.arrivals (EventKey.completion subject) =
      if subject ∈ arrived.map Announcement.subject then 1 else 0 := by
  have all : ∀ event ∈ (arrived.filter fun announcement => announcement.subject = subject).map
      Announcement.raw, (EventKey.completion subject).isKeyOf event = true := by
    intro event member
    obtain ⟨announcement, listed, rfl⟩ := List.mem_map.mp member
    have named : announcement.subject = subject := by simpa using (List.mem_filter.mp listed).2
    rw [← named]
    exact (EventKey.isKeyOf_iff announcement.ofRaw?_raw _).mpr rfl
  have held : (Dict.get? worker.received (EventKey.completion subject).subject).getD [] = _ :=
    follows.received subject
  rw [← follows.arrivedOnce.count, Worker.arrivals, held, List.filter_eq_self.mpr all,
    List.length_map, List.count, List.countP_map, List.countP_eq_length_filter]
  rfl

/-- What a trigger waits for together has been complete once all of it has arrived. -/
theorem available_all_iff (follows : worker.Follows net arrived fired)
    (member : trigger ∈ net.triggers) (joins : joinsAny trigger = false) :
    0 < worker.available trigger ↔
      ∀ subject ∈ trigger.waits, subject ∈ arrived.map Announcement.subject := by
  have compiled := follows.serves.compiled trigger member
  have completions := compiled.completions
  have some : trigger.dependencies ≠ [] := by
    rw [completions]
    simpa using compiled.waits_ne_nil joins
  rw [available_eq, joins]
  refine (le_completions_all_iff some).trans ?_
  rw [completions, List.forall_mem_map]
  refine forall₂_congr fun subject _ => ?_
  rw [follows.arrivals_completion]
  split <;> simp [*]

/-- What a trigger waits for alternatively has been complete as often as one of it has
arrived. -/
theorem available_any (follows : worker.Follows net arrived fired)
    (member : trigger ∈ net.triggers) (joins : joinsAny trigger = true) :
    worker.available trigger =
      (trigger.waits.filter (· ∈ arrived.map Announcement.subject)).length := by
  rw [available_eq, joins, (follows.serves.compiled trigger member).completions,
    ← List.countP_eq_length_filter]
  simp only [completions, if_true, List.map_map, Function.comp_def, follows.arrivals_completion]
  induction trigger.waits with
  | nil => rfl
  | cons subject rest ih =>
      rw [List.map_cons, List.sum_cons, ih, List.countP_cons, Nat.add_comm]
      simp only [decide_eq_true_eq]

/-- At most one of the subjects that an exclusive trigger waits for has arrived. -/
theorem length_arrived_le_one (follows : worker.Follows net arrived fired)
    (exclusive : net.Exclusive trigger) :
    (trigger.waits.filter (· ∈ arrived.map Announcement.subject)).length ≤ 1 := by
  have announced : ∀ subject ∈ trigger.waits.filter (· ∈ arrived.map Announcement.subject),
      subject ∈ trigger.waits ∧ ∃ output, net.Carries subject output := by
    intro subject listed
    obtain ⟨waits, came⟩ := List.mem_filter.mp listed
    obtain ⟨announcement, held, rfl⟩ := List.mem_map.mp (of_decide_eq_true came)
    obtain ⟨output, carries, _⟩ := follows.arrives announcement held
    exact ⟨waits, output, carries⟩
  have distinct := exclusive.distinct.filter (· ∈ arrived.map Announcement.subject)
  match shape : trigger.waits.filter (· ∈ arrived.map Announcement.subject) with
  | [] => exact Nat.zero_le _
  | [_] => exact Nat.le_refl _
  | first :: second :: rest =>
      rw [shape] at announced distinct
      obtain ⟨firstWaits, _, firstCarries⟩ := announced first (by simp)
      obtain ⟨secondWaits, _, secondCarries⟩ := announced second (by simp)
      have same := exclusive.once _ firstWaits _ secondWaits _ _ firstCarries secondCarries
      simp [same] at distinct

/-- What a trigger waits for is never complete twice. -/
theorem available_le_one (follows : worker.Follows net arrived fired)
    (sound : net.Sound net.triggers) (member : trigger ∈ net.triggers) :
    worker.available trigger ≤ 1 := by
  have compiled := follows.serves.compiled trigger member
  cases joins : joinsAny trigger with
  | true =>
      rw [follows.available_any member joins]
      exact follows.length_arrived_le_one (sound.exclusive trigger member joins)
  | false =>
      obtain ⟨subject, rest, shape⟩ := List.exists_cons_of_ne_nil (compiled.waits_ne_nil joins)
      have first : EventKey.completion subject ∈ trigger.dependencies := by
        rw [compiled.completions, shape]
        exact List.mem_cons_self
      have bound := (le_completions_all_iff (List.ne_nil_of_mem first)).mp
        (Nat.le_refl (completions false trigger.dependencies worker.arrivals)) _ first
      rw [follows.arrivals_completion] at bound
      rw [available_eq, joins]
      split at bound <;> omega

/-- A trigger is ready when what it waits for is complete and it had no turn on it. -/
theorem isReady_iff (follows : worker.Follows net arrived fired)
    (sound : net.Sound net.triggers) (member : trigger ∈ net.triggers) :
    worker.isReady trigger = true ↔
      worker.consumed trigger.id = 0 ∧ 0 < worker.available trigger := by
  have once := follows.available_le_one sound member
  rw [isReady, decide_eq_true_iff]
  omega

/-! ## Turns -/

/-- What a trigger works on that joins all it waits for, with one of these as the last
arrival: what the net announces for it is its output on that. -/
theorem exists_input_all (follows : worker.Follows net arrived fired)
    (member : trigger ∈ net.triggers) (joins : joinsAny trigger = false)
    (complete : 0 < worker.available trigger) {latest : Announcement} (came : latest ∈ arrived)
    (waits : latest.subject ∈ trigger.waits) :
    ∃ input, (trigger.action = Vocabulary.closeLevel → eventData latest.raw = input) ∧
      (worker.evaluation trigger).input latest.raw = input ∧
      (Opens trigger.condition? latest.data → net.Carries trigger.id (trigger.output input)) := by
  have compiled := follows.serves.compiled trigger member
  have nonempty := compiled.waits_ne_nil joins
  obtain ⟨inputs, collected⟩ :=
    Announcement.exists_inputs ((follows.available_all_iff member joins).mp complete)
  have only : ∀ subject, trigger.waits = [subject] → ⟨subject, latest.data⟩ ∈ arrived := by
    intro subject shape
    rw [shape, List.mem_singleton] at waits
    exact waits ▸ came
  have alone : ∀ input, inputs = [input] → eventData latest.raw = input := by
    rintro input rfl
    obtain ⟨subject, rest, listed, behind, shape⟩ := List.forall₂_cons_right_iff.mp collected
    cases behind
    exact follows.data_unique (only subject shape) listed
  have held := collected.imp fun subject input => follows.get?_received
  refine ⟨joined inputs, fun closes => ?_,
    input_evaluation compiled.completions nonempty held alone, fun opens => ?_⟩
  · cases compiled.role with
    | single _ subject shape =>
        rw [shape] at collected
        obtain ⟨input, rest, _, behind, rfl⟩ := List.forall₂_cons_left_iff.mp collected
        cases behind
        exact alone input rfl
    | join _ _ action => exact absurd (action.symm.trans closes) (by decide)
    | any other => cases joins.symm.trans other
  · have opened : ∀ subject ∈ trigger.waits, ∀ input, ⟨subject, input⟩ ∈ arrived →
        Opens trigger.condition? input := by
      intro subject listed input arrival
      cases compiled.role with
      | single _ other shape =>
          rw [shape, List.mem_singleton] at listed
          subst listed
          exact follows.data_unique arrival (only subject shape) ▸ opens
      | join _ _ _ free => exact free ▸ opens_none input
      | any other => cases joins.symm.trans other
    have both := (List.forall₂_and_left _ _).mpr ⟨fun subject listed => listed, collected⟩
    exact .all member joins nonempty (Net.collects_iff.mpr (both.imp fun subject input held =>
      ⟨follows.arrives _ held.2, opened subject held.1 input held.2⟩))

/-- What a ready trigger works on, with an arrival that it waits for as the last one:
what the net announces for it is its output on that. -/
theorem exists_input (follows : worker.Follows net arrived fired)
    (member : trigger ∈ net.triggers) (complete : 0 < worker.available trigger)
    {latest : Announcement} (came : latest ∈ arrived) (waits : latest.subject ∈ trigger.waits) :
    ∃ input, (trigger.action = Vocabulary.closeLevel → eventData latest.raw = input) ∧
      (trigger.action ≠ Vocabulary.closeLevel →
        (worker.evaluation trigger).input latest.raw = input) ∧
      (Opens trigger.condition? latest.data → net.Carries trigger.id (trigger.output input)) := by
  cases joins : joinsAny trigger with
  | true =>
      have closes : trigger.action = Vocabulary.closeLevel := by
        cases (follows.serves.compiled trigger member).role with
        | single other => cases joins.symm.trans other
        | join other => cases joins.symm.trans other
        | any _ action => exact action
      refine ⟨latest.data, fun _ => rfl, absurd closes, fun opens => ?_⟩
      obtain ⟨output, carries, relayed⟩ := follows.arrives latest came
      exact .any member joins waits carries relayed opens
  | false =>
      obtain ⟨input, closes, takes, announces⟩ :=
        follows.exists_input_all member joins complete came waits
      exact ⟨input, closes, fun _ => takes, announces⟩

/-- A worker follows a net through an evaluation, if the evaluated trigger announces what
the net announces for it, or its condition lets the last arrival not through. -/
theorem evaluated (follows : worker.Follows net arrived fired) (keyed : net.Keyed)
    (member : trigger ∈ net.triggers) (first : worker.consumed trigger.id = 0)
    (complete : 0 < worker.available trigger) {latest : Announcement} (came : latest ∈ arrived)
    (waits : latest.subject ∈ trigger.waits) {after : Worker} {made : List Announcement}
    (serves : after.Serves net) (received : after.received = worker.received)
    (activations : after.activations = (worker.activate trigger.id).activations)
    (announced : (made = [] ∧ ¬ Opens trigger.condition? latest.data) ∨
      ∃ output, made = [⟨trigger.id, output⟩] ∧ net.Carries trigger.id output)
    (ended : after.lifecycle = .running ∨ ∃ trigger ∈ net.triggers, trigger.IsRoot ∧
      trigger.id ∈ (fired ++ made).map Announcement.subject) :
    after.Follows net arrived (fired ++ made) := by
  have fresh := follows.unjudged trigger member first
  have own : ∀ announcement ∈ made, announcement.subject = trigger.id := by
    rcases announced with ⟨rfl, _⟩ | ⟨output, rfl, _⟩ <;> simp
  have consumed := consumed_of_activations_eq activations
  constructor
  · exact serves
  · exact received ▸ follows.received
  · exact follows.arrivedOnce
  · exact follows.arrives
  · rw [List.map_append]
    refine follows.firedOnce.append ?_ ?_
    · rcases announced with ⟨rfl, _⟩ | ⟨output, rfl, _⟩ <;> simp
    · intro id earlier later
      obtain ⟨announcement, listed, rfl⟩ := List.mem_map.mp later
      exact fresh (own announcement listed ▸ earlier)
  · intro announcement listed
    rcases List.mem_append.mp listed with earlier | new
    · exact follows.spreads announcement earlier
    · rcases announced with ⟨rfl, _⟩ | ⟨output, rfl, carries⟩
      · cases new
      · cases List.mem_singleton.mp new
        exact ⟨List.mem_map_of_mem member, carries⟩
  · intro other listed
    rw [consumed, available_of_received_eq received]
    split
    · next same =>
      rw [same, first]
      exact keyed.eq_of_id_eq listed member same ▸ complete
    · exact follows.consumed other listed
  · intro other listed none
    rw [consumed] at none
    split at none
    · cases none
    · next different =>
      rw [List.map_append, List.mem_append, not_or]
      refine ⟨follows.unjudged other listed none, fun new => ?_⟩
      obtain ⟨announcement, inMade, same⟩ := List.mem_map.mp new
      exact different (same.symm.trans (own announcement inMade))
  · intro other listed some opens
    rw [consumed] at some
    rw [List.map_append, List.mem_append]
    split at some
    · next same =>
      cases keyed.eq_of_id_eq listed member same
      rcases announced with ⟨_, closed⟩ | ⟨output, rfl, _⟩
      · exact absurd (opens latest came waits) closed
      · exact .inr (by simp)
    · exact .inl (follows.judged other listed some opens)
  · exact ended

/-- What a turn of an id comes to: announcements are made, and nobody gets ready. -/
structure Turned (worker : Worker) (net : Net) (arrived fired : List Announcement) (id : String)
    (firing : Firing) (around : Surroundings) (made : List Announcement) : Prop where
  same : SameSettings worker firing.worker
  around : firing.around = around
  outbox : firing.outbox = made.map Announcement.raw
  fires : firing.fired id = made.map Announcement.subject
  follows : ({ firing.worker with tally := count firing.worker.tally firing.result } : Worker).Follows
    net arrived (fired ++ made)
  ready : ∀ trigger ∈ net.triggers, firing.worker.isReady trigger = true →
    worker.isReady trigger = true ∧ trigger.id ≠ id

/-- A turn that is an evaluation is that of a ready trigger of the net. -/
theorem exists_of_evaluates (follows : worker.Follows net arrived fired) {id : String}
    (evaluates : worker.evaluates id = true) :
    ∃ trigger ∈ net.triggers, trigger.id = id ∧ worker.isReady trigger = true := by
  unfold Worker.evaluates at evaluates
  split at evaluates
  · cases evaluates
  · next trigger found =>
    obtain ⟨member, own⟩ := (follows.serves.holds id trigger).mp found
    exact ⟨trigger, member, own, evaluates⟩

/-- Behind an evaluation nobody is ready who was not ready before, and the evaluated trigger
is not ready any more. -/
theorem ready_of_evaluated (follows : worker.Follows net arrived fired)
    (sound : net.Sound net.triggers) (after : Worker) (received : after.received = worker.received)
    (activations : after.activations = (worker.activate trigger.id).activations) :
    ∀ other ∈ net.triggers, after.isReady other = true →
      worker.isReady other = true ∧ other.id ≠ trigger.id := by
  intro other listed ready
  have once := follows.available_le_one sound listed
  simp only [isReady, decide_eq_true_iff, available_of_received_eq received,
    consumed_of_activations_eq activations] at ready ⊢
  by_cases same : other.id = trigger.id
  · rw [if_pos same] at ready
    omega
  · rw [if_neg same] at ready
    exact ⟨ready, same⟩

/-- A worker follows a net through every turn on an arrival that the ready triggers wait
for. -/
theorem turn (follows : worker.Follows net arrived fired) (keyed : net.Keyed)
    (sound : net.Sound net.triggers) {latest : Announcement} (came : latest ∈ arrived)
    (waits : ∀ trigger ∈ net.triggers, worker.isReady trigger = true →
      latest.subject ∈ trigger.waits) (id : String) (around : Surroundings) :
    ∃ made, Turned worker net arrived fired id (worker.fire id latest.raw around) around made := by
  cases evaluates : worker.evaluates id with
  | false =>
      rw [fire_of_not_evaluates latest.raw around evaluates]
      refine ⟨[], ⟨rfl, rfl⟩, rfl, rfl, rfl, by simpa [count] using follows,
        fun trigger member ready => ⟨ready, ?_⟩⟩
      rintro rfl
      rw [follows.serves.evaluates_eq member, ready] at evaluates
      cases evaluates
  | true =>
      obtain ⟨trigger, member, rfl, ready⟩ := follows.exists_of_evaluates evaluates
      obtain ⟨first, complete⟩ := (follows.isReady_iff sound member).mp ready
      have awaited := waits trigger member ready
      obtain ⟨input, closes, takes, announces⟩ :=
        follows.exists_input member complete came awaited
      by_cases opens : Opens trigger.condition? latest.data
      · obtain ⟨lifecycle, ended, fired⟩ :=
          follows.serves.fire_of_opens member ready latest.raw around opens closes takes
        rw [fired]
        refine ⟨[⟨trigger.id, trigger.output input⟩], ⟨rfl, rfl⟩, rfl, rfl, rfl, ?_,
          follows.ready_of_evaluated sound _ rfl rfl⟩
        refine follows.evaluated keyed member first complete came awaited { follows.serves with }
          rfl rfl (.inr ⟨_, rfl, announces opens⟩) ?_
        · rcases ended with rfl | isRoot
          · refine follows.ended.imp_right fun ⟨root, listed, isRoot, made⟩ =>
              ⟨root, listed, isRoot, ?_⟩
            rw [List.map_append]
            exact List.mem_append_left _ made
          · exact .inr ⟨trigger, member, isRoot, by simp⟩
      · obtain ⟨result, failed, fired⟩ :=
          follows.serves.fire_of_not_opens member ready latest.raw around opens
        rw [fired]
        refine ⟨[], ⟨rfl, rfl⟩, rfl, rfl, ?_, ?_,
          follows.ready_of_evaluated sound _ rfl rfl⟩
        · exact fired_of_failed failed
        · refine follows.evaluated keyed member first complete came awaited { follows.serves with }
            rfl rfl (.inl ⟨rfl, opens⟩) ?_
          rw [List.append_nil]
          exact follows.ended

/-- What turns of ids come to: announcements are made, until nobody is ready. -/
structure Settled (worker : Worker) (net : Net) (arrived fired : List Announcement)
    (scene : Scene) (around : Surroundings) (made : List Announcement) : Prop where
  same : SameSettings worker scene.worker
  around : scene.around = around
  outbox : scene.outbox = made.map Announcement.raw
  follows : scene.worker.Follows net arrived (fired ++ made)
  idle : scene.worker.Idle net

/-- A worker follows a net through the turns of a list in which all ready triggers are. -/
theorem turns (keyed : net.Keyed) (sound : net.Sound net.triggers) {latest : Announcement}
    (came : latest ∈ arrived) (ids : List String) (scene : Scene) (before : List Announcement)
    (follows : scene.worker.Follows net arrived (fired ++ before))
    (outbox : scene.outbox = before.map Announcement.raw)
    (waits : ∀ trigger ∈ net.triggers, scene.worker.isReady trigger = true →
      trigger.id ∈ ids ∧ latest.subject ∈ trigger.waits) :
    ∃ made, Settled scene.worker net arrived fired (fireAll latest.raw ids scene) scene.around
        made ∧
      made.map Announcement.subject =
        before.map Announcement.subject ++ firedIn latest.raw ids scene := by
  induction ids generalizing scene before with
  | nil =>
      refine ⟨before, ⟨⟨rfl, rfl⟩, rfl, outbox, follows, fun trigger member => ?_⟩,
        (List.append_nil _).symm⟩
      refine Bool.eq_false_iff.mpr fun ready => ?_
      exact absurd (waits trigger member ready).1 List.not_mem_nil
  | cons id rest ih =>
      obtain ⟨made, turned⟩ := follows.turn keyed sound came
        (fun trigger member ready => (waits trigger member ready).2) id scene.around
      let firing := scene.worker.fire id latest.raw scene.around
      obtain ⟨all, settled, same⟩ := ih {
          worker := { firing.worker with tally := count firing.worker.tally firing.result }
          around := firing.around
          outbox := scene.outbox ++ firing.outbox }
        (before ++ made) (List.append_assoc fired before made ▸ turned.follows)
        (by rw [List.map_append, outbox, ← turned.outbox])
        fun trigger member ready => by
          obtain ⟨before, different⟩ := turned.ready trigger member ready
          obtain ⟨listed, waits⟩ := waits trigger member before
          exact ⟨(List.mem_cons.mp listed).resolve_left different, waits⟩
      refine ⟨all, ⟨⟨settled.same.settings.trans turned.same.settings,
        settled.same.space.trans turned.same.space⟩, settled.around.trans turned.around,
        settled.outbox, settled.follows, settled.idle⟩, ?_⟩
      rw [same, List.map_append, ← turned.fires, List.append_assoc]
      rfl

/-! ## Records -/

/-- What more arrivals change for a trigger depends on whether it waits for them. -/
theorem available_receive (worker : Worker) (trigger : Trigger) (latest : Announcement) :
    let after := worker.receive (EventKey.completion latest.subject) latest.raw
    worker.available trigger ≤ after.available trigger ∧
      (EventKey.completion latest.subject ∉ trigger.dependencies →
        after.available trigger ≤ worker.available trigger) := by
  have arrivals := worker.arrivals_receive latest.ofRaw?_raw
  simp only [available_eq]
  refine ⟨completions_mono fun key _ => ?_, fun foreign => completions_mono fun key member => ?_⟩
  · rw [arrivals]
    exact Nat.le_add_right _ _
  · rw [arrivals, if_neg (by rintro rfl; exact foreign member)]
    exact Nat.le_refl _

/-- A worker follows a net through an arrival, and whoever gets ready by it is listed
under its subject. -/
theorem receive (follows : worker.Follows net arrived fired) (idle : worker.Idle net)
    {latest : Announcement} (fresh : latest.subject ∉ arrived.map Announcement.subject)
    (arrives : net.Arrives latest.subject latest.data) :
    (worker.receive (EventKey.completion latest.subject) latest.raw).Follows net
        (arrived ++ [latest]) fired ∧
      ∀ trigger ∈ net.triggers,
        (worker.receive (EventKey.completion latest.subject) latest.raw).isReady trigger = true →
        trigger.id ∈ SourceEvents.waiting worker.sourceEvents latest.subject ∧
          latest.subject ∈ trigger.waits := by
  constructor
  · refine {
      follows with
      serves := { follows.serves with }
      received := fun subject => ?_
      arrivedOnce := ?_
      arrives := ?_
      consumed := fun trigger member => (follows.consumed trigger member).trans
        (available_receive worker trigger latest).1
      judged := fun trigger member some opens => follows.judged trigger member some
        fun announcement listed => opens announcement (List.mem_append_left _ listed) }
    · have held : (worker.receive (EventKey.completion latest.subject) latest.raw).received =
          Dict.insert worker.received latest.subject
            ((Dict.get? worker.received latest.subject).getD [] ++ [latest.raw]) := rfl
      rw [List.filter_append, List.map_append, ← follows.received, held]
      by_cases same : latest.subject = subject
      · subst same
        rw [Dict.get?_insert_self, List.filter_cons_of_pos (by simp)]
        rfl
      · rw [Dict.get?_insert_of_ne _ _ same, List.filter_cons_of_neg (by simpa using same)]
        exact (List.append_nil _).symm
    · rw [List.map_append]
      refine follows.arrivedOnce.append (List.nodup_singleton _) fun subject earlier new => ?_
      exact fresh (List.mem_singleton.mp new ▸ earlier)
    · intro announcement listed
      rcases List.mem_append.mp listed with earlier | new
      · exact follows.arrives announcement earlier
      · cases List.mem_singleton.mp new
        exact arrives
  · intro trigger member ready
    have waits : EventKey.completion latest.subject ∈ trigger.dependencies := by
      by_contra foreign
      have same := (available_receive worker trigger latest).2 foreign
      have before : ¬ worker.available trigger > worker.consumed trigger.id :=
        of_decide_eq_false (idle trigger member)
      exact before (Nat.lt_of_lt_of_le (of_decide_eq_true ready) same)
    exact ⟨follows.serves.lists _ _ (follows.serves.get?_triggers member) _
      (Trigger.mem_subjects_iff.mpr ⟨_, waits, rfl⟩), List.mem_map.mpr ⟨_, waits, rfl⟩⟩

/-- What a worker counts does not matter. -/
theorem recount (follows : worker.Follows net arrived fired) (tally : Tally) :
    ({ worker with tally } : Worker).Follows net arrived fired :=
  { follows with
    serves := { follows.serves with } }

/-- A worker follows a net through the record of an announcement: if its data gets
through it arrives, and all that wait for it get their turns. -/
theorem consume (follows : worker.Follows net arrived fired) (keyed : net.Keyed)
    (sound : net.Sound net.triggers) (relays : net.relay = Json.relayed?)
    (idle : worker.Idle net) {announcement : Announcement}
    (carries : net.Carries announcement.subject announcement.data)
    (fresh : announcement.subject ∉ arrived.map Announcement.subject) (offset : Nat)
    (around : Surroundings) :
    ∃ made, Settled worker net (arrived ++ (announcement.through? net.relay).toList) fired
        (worker.consume (announcement.record offset) around) around made ∧
      worker.firedOn (announcement.record offset) around = made.map Announcement.subject := by
  have counted : worker.countRecord.Follows net arrived fired := follows.recount _
  have held := EventKey.event?_record (EventKey.completion announcement.subject)
    announcement.data offset
  rw [relays, Announcement.through?]
  cases read : announcement.data.relayed? with
  | none =>
      rw [read] at held
      have passed : worker.consume (announcement.record offset) around = _ :=
        Moment.consume_of_event?_eq_none around held
      rw [passed, firedOn, show (announcement.record offset).event? = none from held]
      exact ⟨[], ⟨⟨rfl, rfl⟩, rfl, rfl, by simpa using counted, idle⟩, rfl⟩
  | some data =>
      rw [read] at held
      let latest : Announcement := ⟨announcement.subject, data⟩
      have arrives : net.Arrives latest.subject latest.data := ⟨_, carries, relays ▸ read⟩
      have passed : worker.consume (announcement.record offset) around = _ :=
        @Moment.consume_of_event?_eq_some { worker, around } _ _ _ held
      have unknown : latest.subject ∉ arrived.map Announcement.subject := fresh
      obtain ⟨received, ready⟩ := counted.receive idle unknown arrives
      let moment : Moment := Moment.receive { worker, around }
        (EventKey.completion announcement.subject) latest.raw
      have follows : moment.worker.Follows net (arrived ++ [latest]) (fired ++ []) := by
        rw [List.append_nil]
        simp only [moment, Moment.receive]
        split
        · exact received
        · exact received.recount _
      have same : SameSettings worker moment.worker := by
        simp only [moment, Moment.receive]
        split <;> exact ⟨rfl, rfl⟩
      rw [passed]
      obtain ⟨made, settled, fires⟩ := turns keyed sound (List.mem_append_right arrived
        (List.mem_singleton_self latest)) moment.pending { worker := moment.worker, around } []
        follows rfl fun trigger member waits => ready trigger member (by
          simp only [moment, Moment.receive] at waits
          split at waits <;> exact waits)
      refine ⟨made, ⟨⟨settled.same.settings.trans same.settings,
        settled.same.space.trans same.space⟩, settled.around, settled.outbox, settled.follows,
        settled.idle⟩, ?_⟩
      rw [fires, firedOn, show (announcement.record offset).event? = some _ from held]
      rfl

end Follows

end Worker

end EventFlow
