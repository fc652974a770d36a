import EventFlow.Proofs.Workflow.Numbers
import EventFlow.Proofs.Workflow.Selection

/-!
# Workflows interpreted

What a workflow does with data, told without any triggers: which states it visits,
what they yield, when a level finishes, and which completions are announced on the
way. Data passes from one state to the next through a relay, which may change it or
lose it; where it is lost the interpretation stalls.
-/

namespace EventFlow

/-- What data becomes on its way from one state to the next, if it gets there. -/
abbrev Relay := Json → Option Json

/-- What a state that joins branches works on: the result of the only branch, or
the list of all results. -/
def joined : List Json → Json
  | [value] => value
  | values => .array values

/-- What a pass or parallel state makes of its input: its result, if it has one,
written at its place into the input. -/
def State.output (state : State) (input : Json) : Json :=
  match Dict.get? state.extra "Result" with
  | none => input
  | some result =>
    let path := ((Dict.get? state.extra "ResultPath").bind Json.asString?).getD "$"
    input.write path result

mutual

/-- A level that is started on some data visits a state with some data. -/
inductive Visits (relay : Relay) : Level → Json → String → Json → Prop where
  | start {level : Level} {start : Json} : Visits relay level start level.startAt start
  | choice {level : Level} {start data : Json} {name target : String} {state : State}
      (before : Visits relay level start name data) (found : level.state? name = some state)
      (kind : state.kind = .choice) (selected : state.selected data = some target) :
      Visits relay level start target data
  | next {level : Level} {start data output after : Json} {name target : String} {state : State}
      (before : Visits relay level start name data) (found : level.state? name = some state)
      (kind : state.kind ≠ .choice) (following : state.next = some target)
      (yields : Yields relay state data output) (relayed : relay output = some after) :
      Visits relay level start target after

/-- A state that is entered with some data yields an output. -/
inductive Yields (relay : Relay) : State → Json → Json → Prop where
  | pass {state : State} {data : Json} (kind : state.kind = .pass) :
      Yields relay state data (state.output data)
  | work {state : State} {data : Json} (kind : state.kind = .task ∨ state.kind = .wait) :
      Yields relay state data data
  | join {state : State} {data : Json} {results : List Json} (kind : state.kind = .parallel)
      (gathers : Gathers relay state.branches data results) :
      Yields relay state data (state.output (joined results))
  | map {state : State} {level : Level} {data start output : Json} (kind : state.kind = .map)
      (iterator : state.iterator = some level) (relayed : relay data = some start)
      (finishes : Finishes relay level start output) : Yields relay state data output

/-- Branches that are all started on some data complete, and their results get
through. -/
inductive Gathers (relay : Relay) : List Level → Json → List Json → Prop where
  | nil {start : Json} : Gathers relay [] start []
  | cons {branch : Level} {rest : List Level} {start output result : Json} {results : List Json}
      (finishes : Finishes relay branch start output) (relayed : relay output = some result)
      (behind : Gathers relay rest start results) :
      Gathers relay (branch :: rest) start (result :: results)

/-- A level that is started on some data finishes with an output: that of one of its
last states, once it has got through. -/
inductive Finishes (relay : Relay) : Level → Json → Json → Prop where
  | close {level : Level} {start data output result : Json} {name : String} {state : State}
      (entered : Visits relay level start name data) (found : level.state? name = some state)
      (ends : state.ends = true) (yields : Yields relay state data output)
      (relayed : relay output = some result) : Finishes relay level start result

end

/-- What the levels inside a state are started on. Branches take over the data of
their state; an iterator waits for the completion of its own. -/
def State.innerStart (relay : Relay) (state : State) (data : Json) : Option Json :=
  if state.kind = .map then relay data else some data

/-- The completions that a level announces when it is started on some data: those of
its states that yield, of its map states before their iterators start, of the levels
inside them, and its own, which bears the number of the level. -/
inductive Announces (relay : Relay) : Nat → Level → Json → String → Json → Prop where
  | close {number : Nat} {level : Level} {start output : Json}
      (finishes : Finishes relay level start output) :
      Announces relay number level start (Plan.closingId number) output
  | state {number : Nat} {level : Level} {start data output : Json} {name : String} {state : State}
      (entered : Visits relay level start name data) (found : level.state? name = some state)
      (kind : state.kind ≠ .map) (yields : Yields relay state data output) :
      Announces relay number level start name output
  | map {number : Nat} {level : Level} {start data : Json} {name : String} {state : State}
      (entered : Visits relay level start name data) (found : level.state? name = some state)
      (kind : state.kind = .map) : Announces relay number level start name data
  | inside {number index : Nat} {level sub : Level} {start data inner output : Json}
      {name id : String} {state : State} (entered : Visits relay level start name data)
      (found : level.state? name = some state) (planned : state.sublevels[index]? = some sub)
      (starts : state.innerStart relay data = some inner)
      (announces : Announces relay (level.numberInside number name state index) sub inner id output) :
      Announces relay number level start id output

/-- The completions that a state announces when it is entered with some data, with the
levels inside it numbered from a number on. -/
def State.Announces (relay : Relay) (number : Nat) (name : String) (state : State) (data : Json)
    (id : String) (output : Json) : Prop :=
  (id = name ∧ if state.kind = .map then output = data else Yields relay state data output) ∨
    ∃ index sub inner, state.sublevels[index]? = some sub ∧
      state.innerStart relay data = some inner ∧
      EventFlow.Announces relay (number + ((state.sublevels.take index).map countLevel).sum) sub
        inner id output

/-- The choices of a level have neither a successor nor an end besides their rules,
and its last states have no successor. -/
structure Level.Plain (level : Level) : Prop where
  choices : ∀ name state, (name, state) ∈ level.states → state.kind = .choice →
    state.next = none ∧ state.ends = false
  ends : ∀ name state, (name, state) ∈ level.states → state.ends = true → state.next = none

variable {relay : Relay} {level : Level}

/-- A level announces its own completion and whatever the states announce that are
entered. -/
theorem announces_iff {number : Nat} {start output : Json} {id : String} :
    Announces relay number level start id output ↔
      (id = Plan.closingId number ∧ Finishes relay level start output) ∨
        ∃ name state data, level.state? name = some state ∧ Visits relay level start name data ∧
          state.Announces relay (number + 1 +
            level.countNames ((Plan.planningOrder level).takeWhile (· ≠ name))) name data id output := by
  constructor
  · rintro (finishes | ⟨entered, found, kind, yields⟩ | ⟨entered, found, kind⟩ |
      ⟨entered, found, planned, starts, announces⟩)
    · exact .inl ⟨rfl, finishes⟩
    · exact .inr ⟨_, _, _, found, entered, .inl ⟨rfl, by rwa [if_neg kind]⟩⟩
    · exact .inr ⟨_, _, _, found, entered, .inl ⟨rfl, by rw [if_pos kind]⟩⟩
    · exact .inr ⟨_, _, _, found, entered, .inr ⟨_, _, _, planned, starts, announces⟩⟩
  · rintro (⟨rfl, finishes⟩ | ⟨name, state, data, found, entered, ⟨rfl, own⟩ |
      ⟨index, sub, inner, planned, starts, announces⟩⟩)
    · exact .close finishes
    · split at own
      · next kind =>
        subst own
        exact .map entered found kind
      · next kind => exact .state entered found kind own
    · exact .inside entered found planned starts announces

/-- A parallel state announces what it yields, and whatever its branches announce, which take over
its data. -/
theorem State.announces_parallel_iff {state : State} (kind : state.kind = .parallel) {number : Nat}
    {name id : String} {data output : Json} :
    state.Announces relay number name data id output ↔
      (id = name ∧ Yields relay state data output) ∨
        ∃ index sub, state.branches[index]? = some sub ∧
          EventFlow.Announces relay (number + ((state.branches.take index).map countLevel).sum) sub
            data id output := by
  have sublevels : state.sublevels = state.branches := by simp [State.sublevels, kind]
  have starts : state.innerStart relay data = some data := by simp [State.innerStart, kind]
  have notMap : state.kind ≠ .map := by simp [kind]
  simp only [State.Announces, sublevels, starts, if_neg notMap, Option.some.injEq]
  refine or_congr_right (exists₂_congr fun index sub => ?_)
  constructor
  · rintro ⟨_, found, rfl, announces⟩
    exact ⟨found, announces⟩
  · rintro ⟨found, announces⟩
    exact ⟨data, found, rfl, announces⟩

/-- A map state announces the data that it is entered with, and whatever its iterator announces,
which is started on these data once they have got through. -/
theorem State.announces_map_iff {state : State} {level : Level} (kind : state.kind = .map)
    (iterator : state.iterator = some level) {number : Nat} {name id : String} {data output : Json} :
    state.Announces relay number name data id output ↔
      (id = name ∧ output = data) ∨
        ∃ start, relay data = some start ∧
          EventFlow.Announces relay number level start id output := by
  have sublevels : state.sublevels = [level] := by simp [State.sublevels, kind, iterator]
  have starts : state.innerStart relay data = relay data := by simp [State.innerStart, kind]
  simp only [State.Announces, sublevels, starts, if_pos kind]
  refine or_congr_right ?_
  constructor
  · rintro ⟨index, sub, start, found, relayed, announces⟩
    cases index with
    | zero =>
        cases found
        exact ⟨start, relayed, announces⟩
    | succ index => simp at found
  · rintro ⟨start, relayed, announces⟩
    exact ⟨0, level, start, rfl, relayed, announces⟩

/-! ## One way through a level -/

/-- A state that is entered with some data leads to another one and its data. -/
def Moves (relay : Relay) (level : Level) (here there : String × Json) : Prop :=
  ∃ state, level.state? here.1 = some state ∧
    ((state.kind = .choice ∧ state.selected here.2 = some there.1 ∧ there.2 = here.2) ∨
      (state.kind ≠ .choice ∧ state.next = some there.1 ∧
        ∃ output, Yields relay state here.2 output ∧ relay output = some there.2))

/-- The states that are entered are those that the start leads to. -/
theorem visits_iff {start data : Json} {name : String} :
    Visits relay level start name data ↔
      Relation.ReflTransGen (Moves relay level) (level.startAt, start) (name, data) := by
  constructor
  · intro entered
    induction entered using Visits.rec (motive_2 := fun _ _ _ _ => True)
      (motive_3 := fun _ _ _ _ => True) (motive_4 := fun _ _ _ _ => True) with
    | start => exact .refl
    | choice _ found kind selected ih => exact ih.tail ⟨_, found, .inl ⟨kind, selected, rfl⟩⟩
    | next _ found kind following yields relayed ih _ =>
        exact ih.tail ⟨_, found, .inr ⟨kind, following, _, yields, relayed⟩⟩
    | _ => trivial
  · intro led
    generalize there : (name, data) = last at led
    induction led generalizing name data with
    | refl =>
        cases there
        exact .start
    | @tail middle _ _ moves ih =>
        subst there
        have before : Visits relay level start middle.1 middle.2 := ih rfl
        obtain ⟨state, found, ⟨kind, selected, same⟩ | ⟨kind, following, _, yields, relayed⟩⟩ := moves
        · rw [show data = middle.2 from same]
          exact .choice before found kind selected
        · exact .next before found kind following yields relayed

/-- A state is entered at the start, or because another one led to it. -/
theorem visits_cases_iff {start data : Json} {name : String} :
    Visits relay level start name data ↔ (name = level.startAt ∧ data = start) ∨
      ∃ previous before, Visits relay level start previous before ∧
        Moves relay level (previous, before) (name, data) := by
  simp only [visits_iff]
  rw [Relation.ReflTransGen.cases_tail_iff]
  constructor
  · rintro (same | ⟨⟨previous, before⟩, led, moves⟩)
    · cases same
      exact .inl ⟨rfl, rfl⟩
    · exact .inr ⟨previous, before, led, moves⟩
  · rintro (⟨rfl, rfl⟩ | ⟨previous, before, led, moves⟩)
    · exact .inl rfl
    · exact .inr ⟨(previous, before), led, moves⟩

/-- A state leads only where its transitions go. -/
theorem Moves.transition {here there : String × Json} (moves : Moves relay level here there) :
    level.Transition here.1 there.1 := by
  obtain ⟨state, found, ⟨kind, selected, _⟩ | ⟨kind, following, _⟩⟩ := moves
  · refine ⟨state, Level.mem_states_of_state? found, List.mem_append_right _ ?_⟩
    rw [if_pos kind]
    exact State.mem_choiceTargets_of_selected selected
  · refine ⟨state, Level.mem_states_of_state? found, List.mem_append_left _ ?_⟩
    exact Option.mem_toList.mpr following

/-- Branches that complete with one output each gather one list of results. -/
theorem Gathers.unique {branches : List Level} {start : Json} {first second : List Json}
    (inside : ∀ branch ∈ branches, ∀ start first second, Finishes relay branch start first →
      Finishes relay branch start second → first = second)
    (left : Gathers relay branches start first) (right : Gathers relay branches start second) :
    first = second := by
  induction branches generalizing first second with
  | nil =>
      cases left
      cases right
      rfl
  | cons branch rest ih =>
      cases left with
      | cons leftCompletes leftRelayed leftBehind =>
          cases right with
          | cons rightCompletes rightRelayed rightBehind =>
              cases inside branch List.mem_cons_self start _ _ leftCompletes rightCompletes
              cases leftRelayed.symm.trans rightRelayed
              rw [ih (fun other member => inside other (List.mem_cons_of_mem _ member))
                leftBehind rightBehind]

section Yields

variable {state : State} {data output : Json}

/-- A pass state yields what it makes of its input. -/
theorem yields_pass_iff (kind : state.kind = .pass) :
    Yields relay state data output ↔ output = state.output data := by
  constructor
  · rintro (_ | other | ⟨other, _⟩ | ⟨other, _, _, _⟩)
    · rfl
    · rcases other with other | other <;> cases kind.symm.trans other
    · cases kind.symm.trans other
    · cases kind.symm.trans other
  · rintro rfl
    exact .pass kind

/-- A task or wait state yields its input. -/
theorem yields_work_iff (kind : state.kind = .task ∨ state.kind = .wait) :
    Yields relay state data output ↔ output = data := by
  constructor
  · rintro (other | _ | ⟨other, _⟩ | ⟨other, _, _, _⟩)
    · rcases kind with kind | kind <;> cases kind.symm.trans other
    · rfl
    · rcases kind with kind | kind <;> cases kind.symm.trans other
    · rcases kind with kind | kind <;> cases kind.symm.trans other
  · rintro rfl
    exact .work kind

/-- A parallel state yields what it makes of the results of its branches. -/
theorem yields_join_iff (kind : state.kind = .parallel) :
    Yields relay state data output ↔ ∃ results, Gathers relay state.branches data results ∧
      output = state.output (joined results) := by
  constructor
  · rintro (other | other | ⟨_, gathers⟩ | ⟨other, _, _, _⟩)
    · cases kind.symm.trans other
    · rcases other with other | other <;> cases kind.symm.trans other
    · exact ⟨_, gathers, rfl⟩
    · cases kind.symm.trans other
  · rintro ⟨results, gathers, rfl⟩
    exact .join kind gathers

/-- A map state yields what its iterator finishes with. -/
theorem yields_map_iff (kind : state.kind = .map) :
    Yields relay state data output ↔ ∃ level start, state.iterator = some level ∧
      relay data = some start ∧ Finishes relay level start output := by
  constructor
  · rintro (other | other | ⟨other, _⟩ | ⟨_, iterator, relayed, finishes⟩)
    · cases kind.symm.trans other
    · rcases other with other | other <;> cases kind.symm.trans other
    · cases kind.symm.trans other
    · exact ⟨_, _, iterator, relayed, finishes⟩
  · rintro ⟨level, start, iterator, relayed, finishes⟩
    exact .map kind iterator relayed finishes

/-- A choice yields nothing, and no state yields that is not supported. -/
theorem Yields.kind (yields : Yields relay state data output) :
    state.kind ≠ .choice ∧ state.kind ≠ .succeed ∧ state.kind ≠ .fail := by
  cases yields with
  | work kind => rcases kind with kind | kind <;> simp [kind]
  | _ => simp [*]

/-- A state yields one output if the levels in it complete with one each. -/
theorem Yields.unique {first second : Json}
    (inside : ∀ sub ∈ state.sublevels, ∀ start first second, Finishes relay sub start first →
      Finishes relay sub start second → first = second)
    (left : Yields relay state data first) (right : Yields relay state data second) :
    first = second := by
  unfold State.sublevels at inside
  cases left with
  | pass kind => exact ((yields_pass_iff kind).mp right).symm
  | work kind => exact ((yields_work_iff kind).mp right).symm
  | join kind gathers =>
      simp only [kind] at inside
      obtain ⟨results, other, rfl⟩ := (yields_join_iff kind).mp right
      rw [gathers.unique inside other]
  | map kind iterator relayed finishes =>
      simp only [kind] at inside
      obtain ⟨level, start, otherIterator, otherRelayed, other⟩ := (yields_map_iff kind).mp right
      cases iterator.symm.trans otherIterator
      cases relayed.symm.trans otherRelayed
      exact inside _ (by simp [iterator]) _ _ _ finishes other

end Yields

/-- The states of a level yield one output each. -/
def SingleYields (relay : Relay) (level : Level) : Prop :=
  ∀ name state, level.state? name = some state → ∀ data first second,
    Yields relay state data first → Yields relay state data second → first = second

/-- A state leads to one other state at most. -/
theorem Moves.unique (single : SingleYields relay level) :
    Relator.RightUnique (Moves relay level) := by
  rintro here first second ⟨state, found, left⟩ ⟨other, otherFound, right⟩
  cases found.symm.trans otherFound
  rcases left with ⟨kind, selected, same⟩ | ⟨kind, following, output, yields, relayed⟩
  · rcases right with ⟨_, otherSelected, otherSame⟩ | ⟨other, _⟩
    · exact Prod.ext (Option.some.inj (selected.symm.trans otherSelected))
        (same.trans otherSame.symm)
    · exact absurd kind other
  · rcases right with ⟨other, _⟩ | ⟨_, otherFollowing, otherOutput, otherYields, otherRelayed⟩
    · exact absurd other kind
    · cases single _ state found _ _ _ yields otherYields
      exact Prod.ext (Option.some.inj (following.symm.trans otherFollowing))
        (Option.some.inj (relayed.symm.trans otherRelayed))

/-- A last state leads nowhere. -/
theorem Level.Plain.stays (plain : level.Plain) {here : String × Json} {state : State}
    (found : level.state? here.1 = some state) (ends : state.ends = true) (there : String × Json) :
    ¬ Moves relay level here there := by
  have declared := Level.mem_states_of_state? found
  rintro ⟨other, otherFound, ⟨kind, _⟩ | ⟨_, following, _⟩⟩
  · cases found.symm.trans otherFound
    rw [(plain.choices _ state declared kind).2] at ends
    cases ends
  · cases found.symm.trans otherFound
    rw [plain.ends _ state declared ends] at following
    cases following

/-- Every state that is entered leads to the last one that is. -/
theorem Visits.leads_to_last (plain : level.Plain) (single : SingleYields relay level)
    {start data final : Json} {name last : String} {state : State}
    (entered : Visits relay level start name data)
    (finished : Visits relay level start last final) (found : level.state? last = some state)
    (ends : state.ends = true) :
    Relation.ReflTransGen (Moves relay level) (name, data) (last, final) := by
  rcases Relation.ReflTransGen.total_of_right_unique (Moves.unique single)
    (visits_iff.mp entered) (visits_iff.mp finished) with forward | backward
  · exact forward
  · rcases backward.cases_head with same | ⟨there, moves, _⟩
    · rw [same]
    · exact absurd moves (plain.stays found ends there)

/-- A level has one last state at most. -/
theorem Visits.last_unique (plain : level.Plain) (single : SingleYields relay level)
    {start firstData secondData : Json} {first second : String} {firstState secondState : State}
    (firstEntered : Visits relay level start first firstData)
    (firstFound : level.state? first = some firstState) (firstEnds : firstState.ends = true)
    (secondEntered : Visits relay level start second secondData)
    (secondFound : level.state? second = some secondState) (secondEnds : secondState.ends = true) :
    first = second ∧ firstData = secondData := by
  rcases (firstEntered.leads_to_last plain single secondEntered secondFound secondEnds).cases_head
    with same | ⟨there, moves, _⟩
  · cases same
    exact ⟨rfl, rfl⟩
  · exact absurd moves (plain.stays firstFound firstEnds there)

/-- A level whose states yield one output each finishes with one output. -/
theorem Finishes.unique_of_single (plain : level.Plain) (single : SingleYields relay level)
    {start first second : Json} (left : Finishes relay level start first)
    (right : Finishes relay level start second) : first = second := by
  cases left with
  | close entered found ends yields relayed =>
      cases right with
      | close otherEntered otherFound otherEnds otherYields otherRelayed =>
          obtain ⟨rfl, rfl⟩ :=
            entered.last_unique plain single found ends otherEntered otherFound otherEnds
          cases found.symm.trans otherFound
          cases single _ _ found _ _ _ yields otherYields
          exact Option.some.inj (relayed.symm.trans otherRelayed)

/-- A level finishes with one output. -/
theorem Finishes.unique (plain : level.Throughout Level.Plain) {start first second : Json}
    (left : Finishes relay level start first) (right : Finishes relay level start second) :
    first = second := by
  induction level using Level.nestingInduction generalizing start first second with
  | step level ih =>
  refine left.unique_of_single plain.here (fun name state found data first second => ?_) right
  have declared := Level.mem_states_of_state? found
  exact Yields.unique fun sub planned start first second =>
    ih name state declared sub planned (plain.inside declared planned)

/-- The states of a level yield one output each. -/
theorem singleYields (plain : level.Throughout Level.Plain) : SingleYields relay level :=
  fun _ _ found _ _ _ => Yields.unique fun _ planned _ _ _ =>
    Finishes.unique (plain.inside (Level.mem_states_of_state? found) planned)

end EventFlow
