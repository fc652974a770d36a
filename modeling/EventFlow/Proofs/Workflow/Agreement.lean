import EventFlow.Proofs.Workflow.Meaning

/-!
# Plans agree with the interpretation

The states of a level are planned one after the other, each at the site that its
predecessor leaves to it. An input gets to that site exactly when the interpretation
visits the state with it. From this the meaning of a level follows from that of its
states, and the meaning of all levels by induction over their nesting.
-/

namespace EventFlow.Plan

variable {net : Net} {level : Level} {entry : Site} {links : Links}

/-- A state of a level with what was planned for it. -/
structure Part where
  name : String
  state : State
  site : Site
  number : Nat
  outcome : Outcome
  added : List Trigger

/-- The site of a state of a level, planned behind the parts of other states: inputs get
there when the state is entered with them, from the start of the level or from its
predecessor. -/
structure Sited (net : Net) (level : Level) (entry : Site) (parts : List Part) (name : String)
    (site : Site) : Prop where
  gate : Gate site.gate
  settles : net.Settles site
  visits : ∀ data, net.Reaches site data ↔
    ∃ start, net.Reaches entry start ∧ Visits net.relay level start name data
  input : (name = level.startAt ∧ site.input = entry.input) ∨
    ∃ previous ∈ parts, level.Transition previous.name name ∧
      site.input = previous.outcome.completion

/-- A part of a level means what its state should. -/
structure Part.Means (net : Net) (level : Level) (entry : Site) (parts : List Part) (part : Part) :
    Prop where
  found : level.state? part.name = some part.state
  sited : Sited net level entry parts part.name part.site
  means : StateMeans net part.number part.name part.state part.site part.outcome part.added

/-- With more parts planned a part keeps its meaning. -/
theorem Part.Means.mono {parts more : List Part} {part : Part}
    (means : part.Means net level entry parts) (grown : ∀ other ∈ parts, other ∈ more) :
    part.Means net level entry more where
  found := means.found
  means := means.means
  sited := {
    gate := means.sited.gate
    settles := means.sited.settles
    visits := means.sited.visits
    input := means.sited.input.imp_right fun ⟨previous, member, rest⟩ =>
      ⟨previous, grown previous member, rest⟩ }

section Sites

variable {parts : List Part} {previous : Part} {name : String} {data before : Json}

/-- A choice leads on with the data that it was entered with. -/
theorem moves_choice_iff (found : level.state? previous.name = some previous.state)
    (kind : previous.state.kind = .choice) :
    Moves net.relay level (previous.name, before) (name, data) ↔
      previous.state.selected before = some name ∧ data = before := by
  constructor
  · rintro ⟨state, other, ⟨_, selected, same⟩ | ⟨notChoice, _⟩⟩
    · cases found.symm.trans other
      exact ⟨selected, same⟩
    · cases found.symm.trans other
      exact absurd kind notChoice
  · rintro ⟨selected, same⟩
    exact ⟨_, found, .inl ⟨kind, selected, same⟩⟩

/-- Any other state leads on with what gets through of what it yields. -/
theorem moves_next_iff (found : level.state? previous.name = some previous.state)
    (kind : previous.state.kind ≠ .choice) :
    Moves net.relay level (previous.name, before) (name, data) ↔
      previous.state.next = some name ∧
        ∃ output, Yields net.relay previous.state before output ∧ net.relay output = some data := by
  constructor
  · rintro ⟨state, other, ⟨choice, _⟩ | ⟨_, following⟩⟩
    · cases found.symm.trans other
      exact absurd choice kind
    · cases found.symm.trans other
      exact following
  · intro following
    exact ⟨_, found, .inr ⟨kind, following⟩⟩

/-- A state that is entered from another one is entered with what that one leads on
with. -/
theorem visits_from (described : Links.Describes level links level.states)
    (entered : Dict.get? links.entrances name = some (.state previous.name)) {start : Json} :
    Visits net.relay level start name data ↔
      ∃ before, Visits net.relay level start previous.name before ∧
        Moves net.relay level (previous.name, before) (name, data) := by
  rw [visits_cases_iff]
  constructor
  · rintro (⟨rfl, _⟩ | ⟨source, before, visits, moves⟩)
    · cases (described.entry_iff.mpr rfl).symm.trans entered
    · have same := described.entered moves.transition
      cases entered.symm.trans same
      exact ⟨before, visits, moves⟩
  · rintro ⟨before, visits, moves⟩
    exact .inr ⟨_, before, visits, moves⟩

/-- The inputs that get to a site are those that its predecessor leads on with. -/
theorem Sited.of_reaches (described : Links.Describes level links level.states)
    (entered : Dict.get? links.entrances name = some (.state previous.name))
    (member : previous ∈ parts) (means : previous.Means net level entry parts) {site : Site}
    (gate : Gate site.gate) (settles : net.Settles site)
    (input : site.input = previous.outcome.completion)
    (reaches : ∀ data, net.Reaches site data ↔ ∃ before, net.Reaches previous.site before ∧
      Moves net.relay level (previous.name, before) (name, data)) :
    Sited net level entry parts name site where
  gate := gate
  settles := settles
  input := .inr ⟨previous, member, described.transition entered, input⟩
  visits data := by
    rw [reaches]
    simp only [means.sited.visits, visits_from described entered]
    constructor
    · rintro ⟨before, ⟨start, reached, visits⟩, moves⟩
      exact ⟨start, reached, before, visits, moves⟩
    · rintro ⟨start, reached, before, visits, moves⟩
      exact ⟨before, ⟨start, reached, visits⟩, moves⟩

/-- The site of a state behind a choice. -/
theorem Sited.of_choice (sound : level.Sound) (plain : level.Plain)
    (described : Links.Describes level links level.states)
    (entered : Dict.get? links.entrances name = some (.state previous.name))
    (member : previous ∈ parts) (means : previous.Means net level entry parts)
    (kind : previous.state.kind = .choice) :
    Sited net level entry parts name { entry with
      input := previous.outcome.completion
      gate := Route.both previous.outcome.inherited (Dict.get? links.routes name) } := by
  have declared := Level.mem_states_of_state? means.found
  obtain ⟨other, otherDeclared, targeted⟩ := described.transition entered
  cases (Level.state?_of_mem_states sound.distinct otherDeclared).symm.trans means.found
  rw [described.routes_of_transition sound.distinct declared targeted, State.routeOnto, if_pos kind,
    means.means.choice kind]
  simp only [State.targets, kind, if_true, (plain.choices _ _ declared kind).1, Option.toList_none,
    List.nil_append] at targeted
  have routeGate := State.gate_choiceRoute (sound.ordered _ _ declared) targeted
  have reaches : ∀ data, net.Reaches { entry with
      input := previous.site.input
      gate := Route.both previous.site.gate (previous.state.choiceRoute name none) } data ↔
        net.Reaches previous.site data ∧ previous.state.selected data = some name := by
    intro data
    rw [Net.Reaches, Net.Reaches, Route.opens_both_iff means.sited.gate routeGate,
      State.opens_choiceRoute_iff targeted, and_assoc]
  refine .of_reaches described entered member means (means.sited.gate.both routeGate) ?_
    (by rw [means.means.choice kind]) fun data => ?_
  · intro first second left right
    exact means.sited.settles _ _ ((reaches first).mp left).1 ((reaches second).mp right).1
  · rw [reaches]
    simp only [moves_choice_iff means.found kind]
    constructor
    · rintro ⟨reached, selected⟩
      exact ⟨data, reached, selected, rfl⟩
    · rintro ⟨before, reached, selected, rfl⟩
      exact ⟨reached, selected⟩

/-- The site of a state behind one that is no choice. -/
theorem Sited.of_next (sound : level.Sound) (described : Links.Describes level links level.states)
    (entered : Dict.get? links.entrances name = some (.state previous.name))
    (member : previous ∈ parts) (means : previous.Means net level entry parts)
    (kind : previous.state.kind ≠ .choice) :
    Sited net level entry parts name { entry with
      input := previous.outcome.completion
      gate := Route.both previous.outcome.inherited (Dict.get? links.routes name) } := by
  have declared := Level.mem_states_of_state? means.found
  obtain ⟨other, otherDeclared, targeted⟩ := described.transition entered
  cases (Level.state?_of_mem_states sound.distinct otherDeclared).symm.trans means.found
  rw [described.routes_of_transition sound.distinct declared targeted, State.routeOnto, if_neg kind,
    means.means.inherited kind]
  simp only [State.targets, kind, if_false, List.append_nil, Option.mem_toList] at targeted
  refine .of_reaches described entered member means .none ?_ rfl fun data => ?_
  · have single := means.means.sound.of_single (means.means.completion kind)
    exact fun first second left right => single.arrives left.1 right.1
  · simp only [moves_next_iff means.found kind]
    constructor
    · rintro ⟨⟨output, carries, relayed⟩, _⟩
      obtain ⟨before, reached, yields⟩ := (means.means.yields kind output).mp carries
      exact ⟨before, reached, targeted, output, yields, relayed⟩
    · rintro ⟨before, reached, _, output, yields, relayed⟩
      exact ⟨⟨output, (means.means.yields kind output).mpr ⟨before, reached, yields⟩, relayed⟩,
        opens_none data⟩

/-- The site of the state that starts a level. -/
theorem Sited.of_entry (gate : Gate entry.gate) (settles : net.Settles entry)
    (described : Links.Describes level links level.states)
    (entered : Dict.get? links.entrances name = some .entry) :
    Sited net level entry parts name { entry with
      gate := Route.both entry.gate (Dict.get? links.routes name) } := by
  have atStart := described.entry_iff.mp entered
  have notEntered : ∀ source, ¬ level.Transition source name := by
    intro source transition
    cases (described.entered transition).symm.trans entered
  have same : Route.both entry.gate (Dict.get? links.routes name) = entry.gate := by
    rw [described.routes_of_not_entered notEntered]
    cases entry.gate <;> rfl
  rw [same]
  refine ⟨gate, settles, fun data => ?_, .inl ⟨atStart, rfl⟩⟩
  constructor
  · intro reached
    exact ⟨data, reached, atStart ▸ .start⟩
  · rintro ⟨start, reached, visits⟩
    rcases visits_cases_iff.mp visits with ⟨_, rfl⟩ | ⟨previous, before, _, moves⟩
    · exact reached
    · exact absurd moves.transition (notEntered previous)

/-- A site that a level has for a state is one that inputs get to when the state is
entered with them. -/
theorem siteOf_means (sound : level.Sound) (plain : level.Plain)
    (described : Links.Describes level links level.states) (gate : Gate entry.gate)
    (settles : net.Settles entry) {done : Dict Outcome}
    (means : ∀ part ∈ parts, part.Means net level entry parts)
    (left : ∀ other outcome, Dict.get? done other = some outcome →
      ∃ part ∈ parts, part.name = other ∧ part.outcome = outcome) {site : Site}
    (sited : siteOf links entry done name = .ok site) : Sited net level entry parts name site := by
  unfold siteOf at sited
  split at sited
  · cases sited
  · next entered =>
    cases sited
    exact .of_entry gate settles described entered
  · next previous entered =>
    split at sited
    · cases sited
    · next outcome found =>
      cases sited
      obtain ⟨part, member, rfl, rfl⟩ := left previous outcome found
      by_cases kind : part.state.kind = .choice
      · exact .of_choice sound plain described entered member (means part member) kind
      · exact .of_next sound described entered member (means part member) kind

end Sites

/-! ## The states of a level -/

/-- What stands in front of a name is not changed by what is put behind it. -/
theorem takeWhile_ne_append_of_mem {front rest : List String} {name : String}
    (member : name ∈ front) :
    (front ++ rest).takeWhile (· ≠ name) = front.takeWhile (· ≠ name) := by
  induction front with
  | nil => exact absurd member List.not_mem_nil
  | cons first others ih =>
      by_cases same : first = name
      · simp [same]
      · have later : name ∈ others := (List.mem_cons.mp member).resolve_left (Ne.symm same)
        simpa [same] using ih later

/-- All of the others stand in front of a new name at the end. -/
theorem takeWhile_ne_append_self {front : List String} {name : String} (fresh : name ∉ front) :
    (front ++ [name]).takeWhile (· ≠ name) = front := by
  rw [List.takeWhile_append_of_pos]
  · simp
  · intro other member
    exact decide_eq_true fun same => fresh (same ▸ member)

/-- The parts of a level that are planned so far, in their order. -/
structure Parted (net : Net) (level : Level) (entry : Site) (start progress : Progress)
    (names : List String) (done : Dict Outcome) (parts : List Part) : Prop where
  listed : parts.map Part.name = names
  added : stored progress = stored start ++ parts.flatMap Part.added
  means : ∀ part ∈ parts, part.Means net level entry parts
  number : ∀ part ∈ parts,
    part.number = start.sequence + level.countNames (names.takeWhile (· ≠ part.name))
  left : ∀ name outcome, Dict.get? done name = some outcome →
    ∃ part ∈ parts, part.name = name ∧ part.outcome = outcome

/-- The states of a level that have been planned mean what they should. -/
theorem Run.parted (keyed : net.Keyed) (sound : level.Sound) (plain : level.Plain)
    (described : Links.Describes level links level.states)
    (distinct : ∀ name state, (name, state) ∈ level.states → ∀ sub ∈ state.sublevels,
      sub.Throughout fun level => level.names.Nodup)
    (inside : ∀ name state, (name, state) ∈ level.states → ∀ sub ∈ state.sublevels, Means net sub)
    (gate : Gate entry.gate) (settles : net.Settles entry) {start progress : Progress}
    {names : List String} {done : Dict Outcome} (nodup : names.Nodup)
    (within : stored progress <+: net.triggers)
    (run : Run level links entry start names done progress) :
    ∃ parts, Parted net level entry start progress names done parts := by
  induction run with
  | nil => exact ⟨[], rfl, by simp, by simp, by simp, by simp⟩
  | @snoc names done progress name state site outcome next before found sited planned ih =>
      have declared := Level.mem_states_of_state? found
      have extended := stateStep_extends (fun sub listed _ _ _ _ =>
        levelStep_extends (distinct name state declared sub listed)) planned
      have earlier := before.extends fun name state declared sub listed _ _ _ _ =>
        levelStep_extends (distinct name state declared sub listed)
      have fresh : name ∉ names := fun member =>
        (List.nodup_append.mp nodup).2.2 name member name (List.mem_singleton_self _) rfl
      obtain ⟨parts, parted⟩ := ih (List.nodup_append.mp nodup).1
        ((extended.triggers.map Submission.trigger).trans within)
      have placed := siteOf_means sound plain described gate settles parted.means parted.left sited
      obtain ⟨added, addedEq, meant⟩ := stateStep_means keyed (sound.ordered name state declared)
        (distinct name state declared) (inside name state declared) placed.gate placed.settles within
        planned
      refine ⟨parts ++ [⟨name, state, site, progress.sequence, outcome, added⟩], ?_, ?_, ?_, ?_, ?_⟩
      · simp [parted.listed]
      · simp [addedEq, parted.added]
      · intro part member
        refine Part.Means.mono ?_ fun other old => List.mem_append_left _ old
        rcases List.mem_append.mp member with old | new
        · exact parted.means part old
        · cases List.mem_singleton.mp new
          exact ⟨found, placed, meant⟩
      · intro part member
        rcases List.mem_append.mp member with old | new
        · have listed : part.name ∈ names := parted.listed ▸ List.mem_map_of_mem old
          rw [takeWhile_ne_append_of_mem listed, parted.number part old]
        · cases List.mem_singleton.mp new
          rw [takeWhile_ne_append_self fresh, ← earlier.sequence]
      · intro other result known
        rw [Dict.get?_insert] at known
        split at known
        · next same =>
          cases known
          exact ⟨_, List.mem_append_right _ (List.mem_singleton_self _), same, rfl⟩
        · obtain ⟨part, member, rest⟩ := parted.left other result known
          exact ⟨part, List.mem_append_left _ member, rest⟩

/-! ## The parts of a planned level -/

section Parts

variable {progress next middle : Progress} {id : String} {order completions : List String}
  {done : Dict Outcome} {parts : List Part}

/-- A part is known by its name. -/
theorem Parted.eq_of_name_eq {start : Progress}
    (parted : Parted net level entry start middle order done parts) (nodup : order.Nodup)
    {first second : Part} (left : first ∈ parts) (right : second ∈ parts)
    (same : first.name = second.name) : first = second :=
  List.inj_on_of_nodup_map (parted.listed ▸ nodup) left right same

/-- Every declared state has a part. -/
theorem Parted.exists_part {start : Progress} {name : String} {state : State}
    (planned : Planned level entry progress id next links order done middle completions)
    (parted : Parted net level entry start middle order done parts)
    (found : level.state? name = some state) :
    ∃ part ∈ parts, part.name = name ∧ part.state = state := by
  have declared : name ∈ level.names := Level.mem_names_iff.mpr ⟨state, found⟩
  have listed : name ∈ parts.map Part.name := parted.listed ▸ (planned.complete name).mpr declared
  obtain ⟨part, member, rfl⟩ := List.mem_map.mp listed
  exact ⟨part, member, rfl, Option.some.inj ((parted.means part member).found.symm.trans found)⟩

/-- The completions that close a level are paired with the parts of its last states. -/
theorem Parted.paired {start : Progress}
    (planned : Planned level entry progress id next links order done middle completions)
    (parted : Parted net level entry start middle order done parts) (distinct : level.names.Nodup) :
    List.Forall₂ (fun name completion => ∃ part ∈ parts, part.name = name ∧
      part.outcome.completion = completion ∧ part.state.ends = true) links.terminals completions := by
  have ended : ∀ name ∈ links.terminals, ∃ state, level.state? name = some state ∧
      state.ends = true := by
    intro name member
    rw [planned.described.terminals] at member
    obtain ⟨declared, kept, rfl⟩ := List.mem_map.mp member
    obtain ⟨listed, ends⟩ := List.mem_filter.mp kept
    exact ⟨declared.2, Level.state?_of_mem_states distinct listed, ends⟩
  refine ((List.forall₂_and_left _ _).mpr ⟨ended, planned.completed⟩).imp fun name completion both => ?_
  obtain ⟨⟨state, found, ends⟩, made⟩ := both
  unfold completionOf at made
  split at made
  · next outcome known =>
    cases made
    obtain ⟨part, member, rfl, rfl⟩ := parted.left name outcome known
    have same := (parted.means part member).found.symm.trans found
    exact ⟨part, member, rfl, rfl, Option.some.inj same ▸ ends⟩
  · cases made

/-- The completions that close a level are those of the parts of its last states. -/
theorem Parted.mem_completions_iff {start : Progress}
    (planned : Planned level entry progress id next links order done middle completions)
    (parted : Parted net level entry start middle order done parts) (distinct : level.names.Nodup)
    {completion : String} :
    completion ∈ completions ↔
      ∃ part ∈ parts, part.state.ends = true ∧ part.outcome.completion = completion := by
  have paired := parted.paired planned distinct
  constructor
  · intro member
    obtain ⟨position, bound, rfl⟩ := List.getElem_of_mem member
    obtain ⟨part, listed, _, same, ends⟩ :=
      (List.forall₂_iff_get.mp paired).2 position (paired.length_eq ▸ bound) bound
    exact ⟨part, listed, ends, same⟩
  · rintro ⟨part, listed, ends, rfl⟩
    have terminal : part.name ∈ links.terminals := by
      rw [planned.described.terminals]
      have declared := Level.mem_states_of_state? (parted.means part listed).found
      exact List.mem_map.mpr ⟨_, List.mem_filter.mpr ⟨declared, ends⟩, rfl⟩
    obtain ⟨position, bound, named⟩ := List.getElem_of_mem terminal
    obtain ⟨other, otherListed, sameName, same, _⟩ :=
      (List.forall₂_iff_get.mp paired).2 position bound (paired.length_eq ▸ bound)
    have equal : other = part :=
      parted.eq_of_name_eq planned.ordered.nodup otherListed listed (sameName.trans named)
    rw [← equal, same]
    exact List.get_mem _ _

end Parts

end EventFlow.Plan
