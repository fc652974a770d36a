import EventFlow.Proofs.Workflow.Interpretation

/-!
# Relays that agree

The interpretation of a workflow asks its relay only about what the workflow announces.
Another relay that does the same to all of that leads to the same announcements. So a
relay that leaves everything alone that is announced might as well not be there.
-/

namespace EventFlow

/-- A second relay does the same as the first one to everything that a level announces
with the first one. -/
def Agrees (first second : Relay) (number : Nat) (level : Level) (start : Json) : Prop :=
  ∀ id output, Announces first number level start id output → second output = first output

/-- A level is interpreted with a second relay as with the first one: it visits the same
states, finishes with the same outputs, and announces the same. -/
structure SameMeaning (first second : Relay) (number : Nat) (level : Level) (start : Json) :
    Prop where
  visits : ∀ name data, Visits first level start name data ↔ Visits second level start name data
  finishes : ∀ output, Finishes first level start output ↔ Finishes second level start output
  announces : ∀ id output,
    Announces first number level start id output ↔ Announces second number level start id output

variable {first second : Relay} {level : Level} {number : Nat} {start : Json}

/-! ## States -/

section State

variable {name : String} {state : State} {data : Json}

/-- Relays that agree on a level agree on the levels inside the states that are entered. -/
theorem Agrees.inside (agrees : Agrees first second number level start)
    (entered : Visits first level start name data) (found : level.state? name = some state)
    {index : Nat} {sub : Level} (planned : state.sublevels[index]? = some sub) {inner : Json}
    (starts : state.innerStart first data = some inner) :
    Agrees first second (level.numberInside number name state index) sub inner :=
  fun id output announces => agrees id output (.inside entered found planned starts announces)

/-- Relays that agree on a level start the levels inside the states that are entered on the
same data. -/
theorem Agrees.innerStart (agrees : Agrees first second number level start)
    (entered : Visits first level start name data) (found : level.state? name = some state) :
    state.innerStart first data = state.innerStart second data := by
  unfold State.innerStart
  split
  · next kind => exact (agrees name data (.map entered found kind)).symm
  · rfl

/-- The iterator of a map state is the first level inside it. -/
theorem sublevel_of_iterator (kind : state.kind = .map) {sub : Level}
    (iterator : state.iterator = some sub) : state.sublevels[0]? = some sub := by
  unfold State.sublevels
  rw [kind, iterator]
  rfl

/-- Relays that agree on a level agree on what the states yield that are entered. -/
theorem Agrees.yields (agrees : Agrees first second number level start)
    (entered : Visits first level start name data) (found : level.state? name = some state)
    {output : Json} (yields : Yields first state data output) : second output = first output := by
  by_cases kind : state.kind = .map
  · obtain ⟨sub, inner, iterator, relayed, finishes⟩ := (yields_map_iff kind).mp yields
    exact agrees.inside entered found (sublevel_of_iterator kind iterator)
      ((if_pos kind).trans relayed) _ output (.close finishes)
  · exact agrees name output (.state entered found kind yields)

/-- Branches gather the same results if each of them finishes with the same outputs, and
the relays agree on these. -/
theorem gathers_congr {branches : List Level} {results : List Json}
    (same : ∀ branch ∈ branches, ∀ output,
      Finishes first branch start output ↔ Finishes second branch start output)
    (agree : ∀ branch ∈ branches, ∀ output, Finishes first branch start output →
      second output = first output) :
    Gathers first branches start results ↔ Gathers second branches start results := by
  induction branches generalizing results with
  | nil =>
      constructor <;> rintro ⟨⟩ <;> exact .nil
  | cons branch rest ih =>
      have behind : ∀ {results : List Json},
          Gathers first rest start results ↔ Gathers second rest start results :=
        ih (fun other member => same other (List.mem_cons_of_mem _ member))
          (fun other member => agree other (List.mem_cons_of_mem _ member))
      have finishes := same branch List.mem_cons_self
      have relays := agree branch List.mem_cons_self
      constructor
      · rintro (_ | ⟨completes, relayed, gathers⟩)
        exact .cons ((finishes _).mp completes) ((relays _ completes).trans relayed)
          (behind.mp gathers)
      · rintro (_ | ⟨completes, relayed, gathers⟩)
        have before := (finishes _).mpr completes
        exact .cons before ((relays _ before).symm.trans relayed) (behind.mpr gathers)

/-- A state that is entered yields the same outputs if the levels inside it mean the
same. -/
theorem yields_congr (agrees : Agrees first second number level start)
    (entered : Visits first level start name data) (found : level.state? name = some state)
    (inside : ∀ (index : Nat) (sub : Level), state.sublevels[index]? = some sub →
      ∀ number start, Agrees first second number sub start →
        SameMeaning first second number sub start) (output : Json) :
    Yields first state data output ↔ Yields second state data output := by
  have meanings : ∀ (index : Nat) (sub : Level), state.sublevels[index]? = some sub →
      ∀ inner, state.innerStart first data = some inner → ∀ output,
        (Finishes first sub inner output ↔ Finishes second sub inner output) ∧
          (Finishes first sub inner output → second output = first output) := by
    intro index sub planned inner starts output
    have within := agrees.inside entered found planned starts
    exact ⟨(inside index sub planned _ _ within).finishes output,
      fun finishes => within _ output (.close finishes)⟩
  cases kind : state.kind with
  | pass => rw [yields_pass_iff kind, yields_pass_iff kind]
  | task => rw [yields_work_iff (.inl kind), yields_work_iff (.inl kind)]
  | wait => rw [yields_work_iff (.inr kind), yields_work_iff (.inr kind)]
  | parallel =>
      have branch : ∀ branch ∈ state.branches, ∀ output,
          (Finishes first branch data output ↔ Finishes second branch data output) ∧
            (Finishes first branch data output → second output = first output) := by
        intro branch member
        have sub : branch ∈ state.sublevels := by
          unfold State.sublevels
          rw [kind]
          exact member
        obtain ⟨index, planned⟩ := List.mem_iff_getElem?.mp sub
        exact meanings index branch planned data (if_neg (by simp [kind]))
      rw [yields_join_iff kind, yields_join_iff kind]
      exact exists_congr fun results => and_congr_left' (gathers_congr
        (fun sub member output => (branch sub member output).1)
        fun sub member output => (branch sub member output).2)
  | map =>
      have relays := agrees name data (.map entered found kind)
      rw [yields_map_iff kind, yields_map_iff kind, relays]
      refine exists₂_congr fun sub inner => and_congr_right fun iterator =>
        and_congr_right fun relayed => ?_
      have starts : state.innerStart first data = some inner := (if_pos kind).trans (relays ▸ relayed)
      exact (meanings 0 sub (sublevel_of_iterator kind iterator) inner starts output).1
  | choice | succeed | fail =>
      have never : ∀ relay, ¬ Yields relay state data output :=
        fun relay yields => by simpa [kind] using yields.kind
      exact iff_of_false (never first) (never second)

end State

/-! ## Levels -/

/-- A level visits the same states if they yield the same outputs wherever it enters
them. -/
theorem visits_congr (agrees : Agrees first second number level start)
    (same : ∀ name state data, Visits first level start name data → level.state? name = some state →
      ∀ output, Yields first state data output ↔ Yields second state data output)
    (name : String) (data : Json) :
    Visits first level start name data ↔ Visits second level start name data := by
  have moves : ∀ here there, Visits first level start here.1 here.2 →
      (Moves first level here there ↔ Moves second level here there) := by
    intro here there entered
    refine exists_congr fun state => and_congr_right fun found => or_congr_right ?_
    refine and_congr_right fun kind => and_congr_right fun _ => exists_congr fun output => ?_
    rw [← same _ state _ entered found output]
    exact and_congr_right fun yields => by rw [agrees.yields entered found yields]
  constructor
  · intro entered
    rw [visits_iff] at entered ⊢
    generalize (name, data) = last at entered
    induction entered with
    | refl => exact .refl
    | @tail middle last led moved ih => exact ih.tail ((moves middle last (visits_iff.mpr led)).mp moved)
  · intro entered
    rw [visits_iff] at entered ⊢
    generalize (name, data) = last at entered
    induction entered with
    | refl => exact .refl
    | @tail middle last _ moved ih => exact ih.tail ((moves middle last (visits_iff.mpr ih)).mpr moved)

/-- Relays that agree on a level give it the same meaning. -/
theorem Agrees.sameMeaning (agrees : Agrees first second number level start) :
    SameMeaning first second number level start := by
  induction level using Level.nestingInduction generalizing number start with
  | step level ih =>
  have inside : ∀ name state, level.state? name = some state → ∀ (index : Nat) (sub : Level),
      state.sublevels[index]? = some sub → ∀ number start, Agrees first second number sub start →
        SameMeaning first second number sub start :=
    fun name state found index sub planned number start =>
      ih name state (Level.mem_states_of_state? found) sub (List.mem_of_getElem? planned)
  have yields : ∀ name state data, Visits first level start name data →
      level.state? name = some state →
      ∀ output, Yields first state data output ↔ Yields second state data output :=
    fun name state data entered found => yields_congr agrees entered found (inside name state found)
  have visits := visits_congr agrees yields
  have finishes : ∀ output,
      Finishes first level start output ↔ Finishes second level start output := by
    intro output
    constructor
    · rintro ⟨entered, found, ends, yielded, relayed⟩
      exact .close ((visits _ _).mp entered) found ends ((yields _ _ _ entered found _).mp yielded)
        ((agrees.yields entered found yielded).trans relayed)
    · rintro ⟨entered, found, ends, yielded, relayed⟩
      have before := (visits _ _).mpr entered
      have yieldedBefore := (yields _ _ _ before found _).mpr yielded
      exact .close before found ends yieldedBefore
        ((agrees.yields before found yieldedBefore).symm.trans relayed)
  refine ⟨visits, finishes, fun id output => ?_⟩
  rw [announces_iff, announces_iff, finishes]
  refine or_congr_right (exists₃_congr fun name state data => and_congr_right fun found => ?_)
  rw [← visits]
  refine and_congr_right fun entered => ?_
  unfold State.Announces
  rw [yields name state data entered found, agrees.innerStart entered found]
  refine or_congr_right (exists₃_congr fun index sub inner => and_congr_right fun planned =>
    and_congr_right fun starts => ?_)
  have within := agrees.inside entered found planned
    ((agrees.innerStart entered found).trans starts)
  exact (inside name state found index sub planned _ _ within).announces id output

end EventFlow
