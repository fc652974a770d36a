import EventFlow.Proofs.Workflow.Agreement
import Mathlib.Data.List.Pairwise

/-!
# Levels and their closing triggers

The triggers of a level are those of its states and the one that closes it. The closing
trigger goes by the only last state that is visited, and everything that is announced on
the way leads to it.
-/

namespace EventFlow.Plan

variable {net : Net} {level : Level} {entry : Site} {number : Nat} {completions : List String}
  {parts : List Part}

/-- The trigger that closes a level. -/
def levelTrigger (number : Nat) (completions : List String) (entry : Site) : Trigger :=
  (closingTrigger (closingId number) completions entry.depth).trigger

/-- The parts and the closing trigger of a planned level in a net that has them. -/
structure Laid (net : Net) (level : Level) (entry : Site) (number : Nat)
    (completions : List String) (parts : List Part) : Prop where
  keyed : net.Keyed
  settles : net.Settles entry
  plain : level.Throughout Level.Plain
  startNotEntered : ∀ source, ¬ level.Transition source level.startAt
  enteredOnce : ∀ first second target, level.Transition first target →
    level.Transition second target → first = second
  startPart : ∃ part ∈ parts, part.name = level.startAt
  targetPart : ∀ source target, level.Transition source target →
    ∃ part ∈ parts, part.name = target
  statePart : ∀ name state, level.state? name = some state →
    ∃ part ∈ parts, part.name = name ∧ part.state = state
  named : ∀ first ∈ parts, ∀ second ∈ parts, first.name = second.name → first = second
  means : ∀ part ∈ parts, part.Means net level entry parts
  numbered : ∀ part ∈ parts, part.number =
    number + 1 + level.countNames ((planningOrder level).takeWhile (· ≠ part.name))
  last : ∀ completion, completion ∈ completions ↔
    ∃ part ∈ parts, part.state.ends = true ∧ part.outcome.completion = completion
  nonempty : completions ≠ []
  distinct : completions.Nodup
  closing : levelTrigger number completions entry ∈ net.triggers

namespace Laid

/-- A last state is no choice. -/
theorem notChoice (laid : Laid net level entry number completions parts) {part : Part}
    (member : part ∈ parts) (ends : part.state.ends = true) : part.state.kind ≠ .choice := by
  intro kind
  have declared := Level.mem_states_of_state? (laid.means part member).found
  have never := (laid.plain.here.choices _ _ declared kind).2
  cases ends.symm.trans never

/-- A closing trigger announces what gets through of the completion of a last
state. -/
theorem carries_levelTrigger_iff (laid : Laid net level entry number completions parts)
    {output : Json} :
    net.Carries (closingId number) output ↔
      ∃ completion ∈ completions, net.Arrives completion output := by
  have waits : (levelTrigger number completions entry).waits = completions := waits_closingTrigger
  have made : ∀ input, (levelTrigger number completions entry).output input = input :=
    output_closingTrigger
  have free : (levelTrigger number completions entry).condition? = none := by
    have found := get?_closingContext (closingId number) completions.length entry.depth "Condition"
    simp only [String.reduceEq, false_and, if_false] at found
    exact found
  have joins : Worker.joinsAny (levelTrigger number completions entry) =
      decide (completions.length > 1) := joinsAny_closingTrigger
  by_cases several : completions.length > 1
  · have carried : net.Carries (levelTrigger number completions entry).id output ↔ _ :=
      laid.keyed.carries_any_iff laid.closing (by rw [joins]; exact decide_eq_true several)
    simp only [waits, free, made, opens_none, true_and] at carried
    refine carried.trans (exists_congr fun completion => and_congr_right fun _ => ?_)
    simp
  · obtain ⟨only, rfl⟩ : ∃ only, completions = [only] := by
      cases completions with
      | nil => exact absurd rfl laid.nonempty
      | cons only rest =>
          cases rest with
          | nil => exact ⟨only, rfl⟩
          | cons second rest => simp at several
    have alone : Worker.joinsAny (levelTrigger number [only] entry) = false := joins
    have carried : net.Carries (levelTrigger number [only] entry).id output ↔ _ :=
      laid.keyed.carries_single_iff laid.closing alone waits
    simp only [free, made, opens_none, true_and] at carried
    refine carried.trans ?_
    simp

/-- A part that is visited and yields announces its completion. -/
theorem carries_part (laid : Laid net level entry number completions parts) {part : Part}
    (member : part ∈ parts) {start data output : Json} (reached : net.Reaches entry start)
    (visits : Visits net.relay level start part.name data)
    (yields : Yields net.relay part.state data output) :
    net.Carries part.outcome.completion output := by
  have means := laid.means part member
  exact (means.means.yields yields.kind.1 output).mpr
    ⟨data, (means.sited.visits data).mpr ⟨start, reached, visits⟩, yields⟩

/-- The completion of a last state comes from a visit. -/
theorem visited_of_carries (laid : Laid net level entry number completions parts) {part : Part}
    (member : part ∈ parts) (ends : part.state.ends = true) {output : Json}
    (carries : net.Carries part.outcome.completion output) :
    ∃ start data, net.Reaches entry start ∧ Visits net.relay level start part.name data ∧
      Yields net.relay part.state data output := by
  have means := laid.means part member
  obtain ⟨data, reached, yields⟩ :=
    (means.means.yields (laid.notChoice member ends) output).mp carries
  obtain ⟨start, entered, visits⟩ := (means.sited.visits data).mp reached
  exact ⟨start, data, entered, visits, yields⟩

/-- The closing trigger announces what the level finishes with. -/
theorem finishes_iff (laid : Laid net level entry number completions parts) {output : Json} :
    net.Carries (closingId number) output ↔
      ∃ start, net.Reaches entry start ∧ Finishes net.relay level start output := by
  rw [laid.carries_levelTrigger_iff]
  constructor
  · rintro ⟨completion, member, yielded, carries, relayed⟩
    obtain ⟨part, listed, ends, rfl⟩ := (laid.last completion).mp member
    obtain ⟨start, data, reached, visits, yields⟩ := laid.visited_of_carries listed ends carries
    exact ⟨start, reached, .close visits (laid.means part listed).found ends yields relayed⟩
  · rintro ⟨start, reached, finishes⟩
    cases finishes with
    | close visits found ends yields relayed =>
        obtain ⟨part, listed, rfl, rfl⟩ := laid.statePart _ _ found
        exact ⟨_, (laid.last _).mpr ⟨part, listed, ends, rfl⟩, _,
          laid.carries_part listed reached visits yields, relayed⟩

/-- At most one last state completes. -/
theorem exclusive (laid : Laid net level entry number completions parts) :
    net.Exclusive (levelTrigger number completions entry) := by
  have waits : (levelTrigger number completions entry).waits = completions := waits_closingTrigger
  constructor
  · rw [waits]
    exact laid.distinct
  · rw [waits]
    intro first firstListed second secondListed firstOutput secondOutput left right
    obtain ⟨part, member, ends, rfl⟩ := (laid.last first).mp firstListed
    obtain ⟨other, otherMember, otherEnds, rfl⟩ := (laid.last second).mp secondListed
    obtain ⟨start, data, reached, visits, _⟩ := laid.visited_of_carries member ends left
    obtain ⟨otherStart, otherData, otherReached, otherVisits, _⟩ :=
      laid.visited_of_carries otherMember otherEnds right
    cases laid.settles _ _ reached otherReached
    have same := (visits.last_unique laid.plain.here (singleYields laid.plain)
      (laid.means part member).found ends otherVisits (laid.means other otherMember).found
      otherEnds).1
    rw [laid.named part member other otherMember same]

/-- The triggers of a level are sound. -/
theorem allSound (laid : Laid net level entry number completions parts) :
    net.Sound (parts.flatMap Part.added ++ [levelTrigger number completions entry]) := by
  have states : net.Sound (parts.flatMap Part.added) := by
    constructor
    · intro trigger listed
      obtain ⟨part, member, added⟩ := List.mem_flatMap.mp listed
      exact (laid.means part member).means.sound.compiled trigger added
    · intro trigger listed
      obtain ⟨part, member, added⟩ := List.mem_flatMap.mp listed
      exact (laid.means part member).means.sound.single trigger added
    · intro trigger listed
      obtain ⟨part, member, added⟩ := List.mem_flatMap.mp listed
      exact (laid.means part member).means.sound.exclusive trigger added
  refine states.append ⟨fun trigger listed => ?_, fun trigger listed => ?_, fun trigger listed _ => ?_⟩
  · cases List.mem_singleton.mp listed
    exact compiled_closingTrigger laid.nonempty
  · cases List.mem_singleton.mp listed
    intro first second left right
    obtain ⟨start, reached, finishes⟩ := laid.finishes_iff.mp left
    obtain ⟨other, otherReached, otherFinishes⟩ := laid.finishes_iff.mp right
    cases laid.settles _ _ reached otherReached
    exact finishes.unique laid.plain otherFinishes
  · cases List.mem_singleton.mp listed
    exact laid.exclusive

/-- The triggers of a level announce what the level does. -/
theorem announces_iff (laid : Laid net level entry number completions parts) {subject : String}
    {output : Json} :
    net.Spreads (parts.flatMap Part.added ++ [levelTrigger number completions entry]) subject output ↔
      ∃ start, net.Reaches entry start ∧ Announces net.relay number level start subject output := by
  have states : net.Spreads (parts.flatMap Part.added) subject output ↔
      ∃ part ∈ parts, net.Spreads part.added subject output := by
    simp only [Net.Spreads, List.map_flatMap, List.mem_flatMap]
    constructor
    · rintro ⟨⟨part, member, listed⟩, carries⟩
      exact ⟨part, member, listed, carries⟩
    · rintro ⟨part, member, listed, carries⟩
      exact ⟨⟨part, member, listed⟩, carries⟩
  rw [Net.spreads_append_iff, states, Net.spreads_singleton_iff]
  simp only [EventFlow.announces_iff]
  constructor
  · rintro (⟨part, member, spreads⟩ | ⟨rfl, carries⟩)
    · have means := laid.means part member
      obtain ⟨data, reached, announces⟩ := (means.means.announces subject output).mp spreads
      obtain ⟨start, entered, visits⟩ := (means.sited.visits data).mp reached
      rw [laid.numbered part member] at announces
      exact ⟨start, entered, .inr ⟨_, _, data, means.found, visits, announces⟩⟩
    · obtain ⟨start, reached, finishes⟩ := laid.finishes_iff.mp carries
      exact ⟨start, reached, .inl ⟨rfl, finishes⟩⟩
  · rintro ⟨start, reached, ⟨rfl, finishes⟩ | ⟨name, state, data, found, visits, announces⟩⟩
    · exact .inr ⟨rfl, laid.finishes_iff.mpr ⟨start, reached, finishes⟩⟩
    · obtain ⟨part, member, rfl, rfl⟩ := laid.statePart _ _ found
      have means := laid.means part member
      rw [← laid.numbered part member] at announces
      exact .inl ⟨part, member, (means.means.announces subject output).mpr
        ⟨data, (means.sited.visits data).mpr ⟨start, reached, visits⟩, announces⟩⟩

/-- The site of a part behind another one is fed by its completion. -/
theorem input_of_transition (laid : Laid net level entry number completions parts)
    {part previous : Part} (member : part ∈ parts) (listed : previous ∈ parts)
    (transition : level.Transition previous.name part.name) :
    part.site.input = previous.outcome.completion := by
  rcases (laid.means part member).sited.input with ⟨atStart, _⟩ | ⟨other, otherListed, leads, input⟩
  · rw [atStart] at transition
    exact absurd transition (laid.startNotEntered _)
  · have same := laid.enteredOnce _ _ _ transition leads
    rw [input, laid.named previous listed other otherListed same]

/-- What moves on from a visited part announces the completion of the part, which leads to
that of the part where the moves end. -/
theorem leads_of_moves (laid : Laid net level entry number completions parts) {last : Part}
    (lastListed : last ∈ parts) {final : Json}
    (finished : ∃ output, net.Carries last.outcome.completion output) {part : Part}
    (member : part ∈ parts) {data : Json} (reached : net.Reaches part.site data)
    (led : Relation.ReflTransGen (Moves net.relay level) (part.name, data) (last.name, final)) :
    net.Leads part.site.input part.outcome.completion ∧
      net.Leads part.outcome.completion last.outcome.completion ∧
      ∃ output, net.Carries part.outcome.completion output := by
  generalize here : (part.name, data) = position at led
  induction led using Relation.ReflTransGen.head_induction_on generalizing part data with
  | refl =>
      cases laid.named part member last lastListed (congrArg Prod.fst here)
      obtain ⟨output, carries⟩ := finished
      exact ⟨(laid.means last lastListed).means.opened output carries, .refl, output, carries⟩
  | @head position there moves _ ih =>
      subst here
      have means := laid.means part member
      have transition := moves.transition
      obtain ⟨following, followingListed, named⟩ := laid.targetPart _ _ transition
      obtain ⟨start, entered, visits⟩ := (means.sited.visits data).mp reached
      have behind : net.Reaches following.site there.2 := by
        refine ((laid.means following followingListed).sited.visits _).mpr ⟨start, entered, ?_⟩
        rw [named]
        exact visits_cases_iff.mpr (.inr ⟨_, data, visits, moves⟩)
      obtain ⟨opened, leads, _⟩ := ih followingListed behind (by rw [named])
      rw [laid.input_of_transition followingListed member (named.symm ▸ transition)] at opened
      have announced : ∃ output, net.Carries part.outcome.completion output := by
        obtain ⟨state, found, ⟨kind, _⟩ | ⟨_, _, output, yields, _⟩⟩ := moves
        · cases found.symm.trans means.found
          obtain ⟨output, carries, _⟩ := reached.1
          exact ⟨output, by rw [means.means.choice kind]; exact carries⟩
        · cases found.symm.trans means.found
          exact ⟨output, laid.carries_part member entered visits yields⟩
      obtain ⟨output, carries⟩ := announced
      exact ⟨means.means.opened output carries, opened.trans leads, output, carries⟩

/-- When a level finishes, what its start waits for and whatever its triggers announce
leads to its closing trigger. -/
theorem leads_to_closing (laid : Laid net level entry number completions parts) {output : Json}
    (carries : net.Carries (closingId number) output) :
    net.Leads entry.input (closingId number) ∧
      ∀ subject other, net.Spreads
        (parts.flatMap Part.added ++ [levelTrigger number completions entry]) subject other →
          net.Leads subject (closingId number) := by
  obtain ⟨start, reached, finishes⟩ := laid.finishes_iff.mp carries
  obtain ⟨visits, found, ends, yields, relayed⟩ := finishes
  rename_i final yielded name state
  obtain ⟨last, lastListed, rfl, rfl⟩ := laid.statePart _ _ found
  have finished : ∃ output, net.Carries last.outcome.completion output :=
    ⟨_, laid.carries_part lastListed reached visits yields⟩
  have waits : (levelTrigger number completions entry).waits = completions := waits_closingTrigger
  have feeds : net.Feeds last.outcome.completion (closingId number) :=
    ⟨_, laid.closing, rfl, waits.symm ▸ (laid.last _).mpr ⟨last, lastListed, ends, rfl⟩,
      output, carries⟩
  have onward : ∀ part ∈ parts, ∀ data, net.Reaches part.site data →
      net.Leads part.site.input part.outcome.completion ∧
        net.Leads part.outcome.completion (closingId number) ∧
        ∃ output, net.Carries part.outcome.completion output := by
    intro part member data arrived
    obtain ⟨other, entered, visited⟩ := ((laid.means part member).sited.visits data).mp arrived
    cases laid.settles _ _ reached entered
    have led := visited.leads_to_last laid.plain.here (singleYields laid.plain) visits found ends
    obtain ⟨opened, leads, announced⟩ := laid.leads_of_moves lastListed finished member arrived led
    exact ⟨opened, leads.tail feeds, announced⟩
  constructor
  · obtain ⟨first, firstListed, atStart⟩ := laid.startPart
    have means := laid.means first firstListed
    have arrived : net.Reaches first.site start :=
      (means.sited.visits start).mpr ⟨start, reached, atStart ▸ .start⟩
    obtain ⟨opened, leads, _⟩ := onward first firstListed start arrived
    rcases means.sited.input with ⟨_, input⟩ | ⟨previous, _, transition, _⟩
    · exact input ▸ opened.trans leads
    · rw [atStart] at transition
      exact absurd transition (laid.startNotEntered _)
  · intro subject other spreads
    rcases Net.spreads_append_iff.mp spreads with inside | own
    · obtain ⟨listed, announced⟩ := inside
      rw [List.map_flatMap, List.mem_flatMap] at listed
      obtain ⟨part, member, added⟩ := listed
      have means := laid.means part member
      obtain ⟨data, arrived, _⟩ := (means.means.announces subject other).mp ⟨added, announced⟩
      obtain ⟨_, leads, closes, completes⟩ := onward part member data arrived
      exact (means.means.leads closes completes subject other ⟨added, announced⟩).trans leads
    · rw [(Net.spreads_singleton_iff.mp own).1]
      exact .refl

/-- The triggers of a level mean what they should. -/
theorem levelMeans (laid : Laid net level entry number completions parts) :
    LevelMeans net level number entry (closingId number)
      (parts.flatMap Part.added ++ [levelTrigger number completions entry]) where
  sound := laid.allSound
  closing := by simp [levelTrigger, closingTrigger, Submission.trigger, Submission.toTrigger,
    Submission.persistent]
  finishes _ := laid.finishes_iff
  announces _ _ := laid.announces_iff
  opened _ carries := (laid.leads_to_closing carries).1
  leads _ carries := (laid.leads_to_closing carries).2
  root trigger listed isRoot := by
    rcases List.mem_append.mp listed with inside | own
    · obtain ⟨part, member, added⟩ := List.mem_flatMap.mp inside
      exact absurd isRoot ((laid.means part member).means.root trigger added)
    · cases List.mem_singleton.mp own
      refine ⟨?_, rfl⟩
      by_contra deep
      have unmarked := get?_closingContext (closingId number) completions.length entry.depth "root"
      simp only [deep, and_false, String.reduceEq, false_and, if_false] at unmarked
      cases unmarked.symm.trans isRoot.2

end Laid

/-! ## Planned levels -/

section Planning

variable {links : Links} {progress next middle : Progress} {id : String} {order : List String}
  {done : Dict Outcome}

/-- The completions that close a level are distinct, as its parts have distinct
triggers. -/
theorem Parted.nodup_completions {start : Progress} (keyed : net.Keyed)
    (planned : Planned level entry progress id next links order done middle completions)
    (parted : Parted net level entry start middle order done parts) (sound : level.Sound)
    (plain : level.Plain) (within : stored middle <+: net.triggers) : completions.Nodup := by
  have terminals : links.terminals.Nodup := by
    rw [planned.described.terminals]
    exact sound.distinct.sublist (List.Sublist.map Prod.fst List.filter_sublist)
  have separate : ∀ first ∈ parts, ∀ second ∈ parts, ∀ completion,
      completion ∈ first.added.map Trigger.id → completion ∈ second.added.map Trigger.id →
      first = second := by
    have ids : (parts.flatMap fun part => part.added.map Trigger.id).Nodup := by
      rw [← List.map_flatMap]
      refine keyed.distinct.sublist (List.Sublist.map _ ?_)
      exact (parted.added ▸ List.sublist_append_right _ _).trans within.sublist
    intro first left second right completion inFirst inSecond
    by_contra different
    have apart := (List.nodup_flatMap.mp ids).2
    have symmetric : Std.Symm (Function.onFun List.Disjoint fun part : Part =>
        part.added.map Trigger.id) := ⟨fun _ _ disjoint _ left right => disjoint right left⟩
    exact (apart.forall left right different) inFirst inSecond
  have completion : ∀ part ∈ parts, part.state.ends = true →
      part.outcome.completion ∈ part.added.map Trigger.id := by
    intro part member ends
    have means := parted.means part member
    refine means.means.completion fun kind => ?_
    have never := (plain.choices _ _ (Level.mem_states_of_state? means.found) kind).2
    cases ends.symm.trans never
  refine (List.rel_nodup ⟨?_, ?_⟩ (parted.paired planned sound.distinct)).mp terminals
  · rintro _ _ _ ⟨first, left, rfl, rfl, leftEnds⟩ ⟨second, right, rfl, same, rightEnds⟩
    have inSecond := completion second right rightEnds
    rw [same] at inSecond
    rw [separate first left second right _ (completion first left leftEnds) inSecond]
  · rintro _ _ _ ⟨first, left, rfl, rfl, _⟩ ⟨second, right, same, rfl, _⟩
    rw [parted.eq_of_name_eq planned.ordered.nodup left right same.symm]

/-- A planned level is laid in a net that has its triggers. -/
theorem Parted.laid (keyed : net.Keyed)
    (planned : Planned level entry progress id next links order done middle completions)
    (parted : Parted net level entry { progress with sequence := progress.sequence + 1 } middle order
      done parts) (sound : level.Sound) (plain : level.Throughout Level.Plain)
    (settles : net.Settles entry) (within : stored next <+: net.triggers) :
    Laid net level entry progress.sequence completions parts := by
  have described := planned.described
  have statePart : ∀ name state, level.state? name = some state →
      ∃ part ∈ parts, part.name = name ∧ part.state = state :=
    fun name state found => parted.exists_part planned found
  have namePart : ∀ name ∈ level.names, ∃ part ∈ parts, part.name = name := by
    intro name member
    obtain ⟨state, found⟩ := Level.mem_names_iff.mp member
    obtain ⟨part, listed, named, _⟩ := statePart name state found
    exact ⟨part, listed, named⟩
  rw [planned.next_eq, stored_push, planned.id_eq] at within
  refine {
    keyed, settles, plain, statePart
    startNotEntered := fun source transition => ?_
    enteredOnce := fun first second target left right => ?_
    startPart := namePart _ planned.start
    targetPart := ?_
    named := fun first left second right => parted.eq_of_name_eq planned.ordered.nodup left right
    means := parted.means
    numbered := fun part member => ?_
    last := fun completion => parted.mem_completions_iff planned sound.distinct
    nonempty := ?_
    distinct := parted.nodup_completions keyed planned sound plain.here
      ((List.prefix_append _ _).trans within)
    closing := within.subset (List.mem_append_right _ (List.mem_singleton_self _)) }
  · cases (described.entered transition).symm.trans (described.entry_iff.mpr rfl)
  · have same := (described.entered left).symm.trans (described.entered right)
    cases same
    rfl
  · rintro source target ⟨state, declared, targeted⟩
    exact namePart target ((planned.admissible _ declared).declared target targeted)
  · rw [parted.number part member, planned.planning]
  · have paired := planned.completed.length_eq
    rintro rfl
    exact planned.ended (List.eq_nil_of_length_eq_zero paired)

/-- The triggers of a level mean what they should, and so do those of all levels inside
it. -/
theorem levelStep_means (keyed : net.Keyed) (sound : level.Throughout Level.Sound)
    (plain : level.Throughout Level.Plain) : Means net level := by
  induction level using Level.nestingInduction with
  | step level ih =>
  intro entry progress id next gate settles within made
  obtain ⟨links, order, done, middle, completions, planned⟩ := levelStep_ok made
  have distinct : ∀ name state, (name, state) ∈ level.states → ∀ sub ∈ state.sublevels,
      sub.Throughout fun level => level.names.Nodup :=
    fun name state declared sub listed =>
      (sound.inside declared listed).mono fun _ sound => sound.distinct
  have middleWithin : stored middle <+: net.triggers := by
    rw [planned.next_eq, stored_push] at within
    exact (List.prefix_append _ _).trans within
  obtain ⟨parts, parted⟩ := planned.run.parted keyed sound.here plain.here planned.described distinct
    (fun name state declared sub listed => ih name state declared sub listed
      (sound.inside declared listed) (plain.inside declared listed))
    gate settles planned.ordered.nodup middleWithin
  have laid := parted.laid keyed planned sound.here plain settles within
  refine ⟨parts.flatMap Part.added ++ [levelTrigger progress.sequence completions entry], ?_, ?_⟩
  · rw [planned.next_eq, stored_push, parted.added, planned.id_eq, List.append_assoc]
    rfl
  · rw [planned.id_eq]
    exact laid.levelMeans

end Planning

end EventFlow.Plan
