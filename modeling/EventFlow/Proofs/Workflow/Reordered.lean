import EventFlow.Proofs.Workflow.Acceptance
import EventFlow.Proofs.Workflow.Inventory

/-!
# Levels in another order of declaration

Two workflows that differ in nothing but the order in which the states of their levels are
declared. They are written alike as values, as the fields of an object are sorted, they
have the same transitions, and so they have a plan both or none of them.
-/

namespace EventFlow

/-- A state and another one that differs only in the levels inside it, which are related
one by one. -/
inductive State.Alike (related : Level → Level → Prop) : State → State → Prop where
  | intro {kind : StateKind} {next default : Option String} {ends : Bool}
      {choices : List ChoiceRule} {extra : Dict Json} {branches others : List Level}
      {iterator another : Option Level} (branching : List.Forall₂ related branches others)
      (iterating : Option.Rel related iterator another) :
      Alike related ⟨kind, next, ends, choices, default, branches, iterator, extra⟩
        ⟨kind, next, ends, choices, default, others, another, extra⟩

namespace Level

/-- A declared state and one that is like it, declared under the same name. -/
inductive EntryAlike (related : Level → Level → Prop) : String × State → String × State → Prop where
  | intro {name : String} {state mate : State} (alike : state.Alike related mate) :
      EntryAlike related (name, state) (name, mate)

/-- A level and another one in which the same states are declared in some order, and so on
for all levels inside. -/
inductive Reordered : Level → Level → Prop where
  | intro {comment : Option String} {startAt : String}
      {states aligned others : List (String × State)}
      (inside : List.Forall₂ (EntryAlike Reordered) states aligned)
      (permuted : aligned.Perm others) :
      Reordered ⟨comment, startAt, states⟩ ⟨comment, startAt, others⟩

end Level

namespace State.Alike

variable {related weaker : Level → Level → Prop} {state mate : State}

/-- A state is like the one with other levels in it that are related to its own. -/
theorem of_levels {branches : List Level} {iterator : Option Level}
    (branching : List.Forall₂ related state.branches branches)
    (iterating : Option.Rel related state.iterator iterator) :
    state.Alike related { state with branches, iterator } := by
  cases state
  exact .intro branching iterating

/-- They are of the same kind. -/
theorem kind_eq (alike : state.Alike related mate) : mate.kind = state.kind := by
  obtain ⟨_, _⟩ := alike
  rfl

/-- Their branches are related one by one. -/
theorem branching (alike : state.Alike related mate) :
    List.Forall₂ related state.branches mate.branches := by
  obtain ⟨branching, _⟩ := alike
  exact branching

/-- Their iterators are related, if there are any. -/
theorem iterating (alike : state.Alike related mate) :
    Option.Rel related state.iterator mate.iterator := by
  obtain ⟨_, iterating⟩ := alike
  exact iterating

/-- States that are alike under a relation are so under any that follows for the levels
inside. -/
theorem imp (alike : state.Alike related mate)
    (follows : ∀ sub ∈ state.levels, ∀ other, related sub other → weaker sub other) :
    state.Alike weaker mate := by
  obtain ⟨branching, iterating⟩ := alike
  refine .intro ?_ ?_
  · have known := (List.forall₂_and_left _ _).mpr
      ⟨fun sub member => follows sub (List.mem_append_left _ member), branching⟩
    exact known.imp fun sub other both => both.1 other both.2
  · cases iterating with
    | none => exact .none
    | some same =>
        exact .some (follows _ (List.mem_append_right _ (List.mem_singleton_self _)) _ same)

/-- What one state is like is like it, the other way round. -/
theorem flip (alike : state.Alike related mate) : mate.Alike (flip related) state := by
  obtain ⟨branching, iterating⟩ := alike
  refine .intro (List.Forall₂.flip branching) ?_
  cases iterating with
  | none => exact .none
  | some same => exact .some same

/-- The levels that are planned with states that are alike are related one by one. -/
theorem sublevels (alike : state.Alike related mate) :
    List.Forall₂ related state.sublevels mate.sublevels := by
  have branching := alike.branching
  have iterating := alike.iterating
  unfold State.sublevels
  rw [alike.kind_eq]
  split
  · exact branching
  · generalize state.iterator = iterator at iterating
    generalize mate.iterator = other at iterating
    cases iterating with
    | none => exact .nil
    | some same => exact .cons same .nil
  · exact .nil

end State.Alike

/-! ## Values -/

/-- Branches that are sorted alike are sorted alike as a field. -/
theorem sortedFields_branches {branches others : List Level}
    (alike : List.Forall₂ (fun sub other => (encodeLevel sub).sorted = (encodeLevel other).sorted)
      branches others) (done : Dict Json) :
    Json.sortedFields (listField "Branches" (branches.map encodeLevel)) done =
      Json.sortedFields (listField "Branches" (others.map encodeLevel)) done := by
  have items : (branches.map encodeLevel).map Json.sorted =
      (others.map encodeLevel).map Json.sorted := by
    induction alike with
    | nil => rfl
    | cons same _ ih => rw [List.map_cons, List.map_cons, List.map_cons, List.map_cons, same, ih]
  cases alike with
  | nil => rfl
  | cons =>
      simp only [List.map_cons, listField, Json.sortedFields, Json.sorted,
        Json.sortedItems_eq_map] at items ⊢
      rw [items]

/-- Iterators that are sorted alike are sorted alike as a field. -/
theorem sortedFields_iterator {iterator other : Option Level}
    (alike : Option.Rel (fun sub other => (encodeLevel sub).sorted = (encodeLevel other).sorted)
      iterator other) (done : Dict Json) :
    Json.sortedFields (encodeIterator iterator) done =
      Json.sortedFields (encodeIterator other) done := by
  cases alike with
  | none => rfl
  | some same => simp only [encodeIterator, Json.sortedFields, same]

/-- States that are alike are the same value if the levels inside them are. -/
theorem State.Alike.toJson_eq {state mate : State} (alike : state.Alike
    (fun sub other => (encodeLevel sub).sorted = (encodeLevel other).sorted) mate) :
    state.toJson = mate.toJson := by
  obtain ⟨branching, iterating⟩ := alike
  simp only [State.toJson, State.encode_eq, State.encodedFields, Json.sorted,
    Json.sortedFields_append, sortedFields_branches branching, sortedFields_iterator iterating]

namespace Level

variable {level other : Level}

/-- Entries that are alike have the same names. -/
theorem names_eq_of_alike {related : Level → Level → Prop} {states others : List (String × State)}
    (alike : List.Forall₂ (EntryAlike related) states others) :
    states.map Prod.fst = others.map Prod.fst := by
  induction alike with
  | nil => rfl
  | cons same _ ih =>
      cases same
      rw [List.map_cons, List.map_cons, ih]

namespace Reordered

/-- Nothing has to change its place. -/
theorem refl (level : Level) : level.Reordered level := by
  induction level using inclusionInduction with
  | step level ih =>
  obtain ⟨comment, startAt, states⟩ := level
  refine .intro (List.forall₂_same.mpr fun entry declared => ?_) (.refl states)
  obtain ⟨name, state⟩ := entry
  have iterating : Option.Rel Reordered state.iterator state.iterator := by
    cases iterator : state.iterator with
    | none => exact .none
    | some sub =>
        exact .some (ih name state declared sub
          (List.mem_append_right _ (Option.mem_toList.mpr iterator)))
  have branching : List.Forall₂ Reordered state.branches state.branches :=
    List.forall₂_same.mpr fun sub branch =>
      ih name state declared sub (List.mem_append_left _ branch)
  cases state
  exact .intro (.intro branching iterating)

/-- The same names are declared. -/
theorem names_perm (reordered : level.Reordered other) : level.names.Perm other.names := by
  obtain ⟨inside, permuted⟩ := reordered
  exact (List.Perm.of_eq (names_eq_of_alike inside)).trans (permuted.map Prod.fst)

/-- For every state there is one that is like it under its name. -/
theorem exists_mate (reordered : level.Reordered other) {name : String} {state : State}
    (declared : (name, state) ∈ level.states) :
    ∃ mate, (name, mate) ∈ other.states ∧ state.Alike Reordered mate := by
  obtain ⟨inside, permuted⟩ := reordered
  obtain ⟨_, listed, same⟩ := exists_of_forall₂ inside _ declared
  obtain ⟨alike⟩ := same
  exact ⟨_, permuted.subset listed, alike⟩

/-- A level is declared in some order if the order is changed back. -/
theorem symm (reordered : level.Reordered other) : other.Reordered level := by
  induction level using inclusionInduction generalizing other with
  | step level ih =>
  obtain @⟨comment, startAt, states, aligned, others, inside, permuted⟩ := reordered
  have back : List.Forall₂ (EntryAlike Reordered) aligned states := by
    have declared := (List.forall₂_and_left _ _).mpr ⟨fun _ member => member, inside⟩
    refine List.Forall₂.flip (declared.imp ?_)
    rintro _ _ ⟨declared, @⟨name, state, mate, alike⟩⟩
    exact .intro ((alike.imp fun sub listed other same =>
      ih name state declared sub listed same).flip)
  obtain ⟨realigned, along, repermuted⟩ := List.perm_comp_forall₂ permuted.symm back
  exact .intro along repermuted

/-- A level is the same value in any order of declaration, if no name is declared twice. -/
theorem sorted_encode (reordered : level.Reordered other)
    (distinct : level.Everywhere fun level => level.names.Nodup) :
    (encodeLevel level).sorted = (encodeLevel other).sorted := by
  induction level using inclusionInduction generalizing other with
  | step level ih =>
  obtain @⟨comment, startAt, states, aligned, others, inside, permuted⟩ := reordered
  let written := fun entry : String × State => (entry.1, entry.2.encode)
  -- First every state is replaced where it stands, then the states change places.
  have alike : List.Forall₂ (fun field other => field.1 = other.1 ∧ field.2.sorted = other.2.sorted)
      (states.map written) (aligned.map written) := by
    rw [List.forall₂_map_left_iff, List.forall₂_map_right_iff]
    refine ((List.forall₂_and_left _ _).mpr ⟨fun _ member => member, inside⟩).imp ?_
    rintro _ _ ⟨declared, @⟨name, state, mate, alike⟩⟩
    have values : state.toJson = mate.toJson :=
      (alike.imp fun sub listed other same =>
        ih name state declared sub listed same (distinct.inside declared listed)).toJson_eq
    exact ⟨rfl, values⟩
  have names : (Dict.keys (aligned.map written)).Nodup := by
    have same : Dict.keys (aligned.map written) = states.map Prod.fst := by
      rw [names_eq_of_alike inside, Dict.keys, List.map_map]
      rfl
    exact same ▸ distinct.here
  have sorted : Json.sortedFields (states.map written) [] = Json.sortedFields (others.map written) [] :=
    (Json.sortedFields_congr alike []).trans (Json.sortedFields_perm (permuted.map written) names [])
  simp only [encode_eq, encodedFields, Json.sorted, Json.sortedFields_append, Json.sortedFields]
  rw [sorted]

/-! ## Transitions and plans -/

/-- The same state starts both levels. -/
theorem startAt_eq (reordered : level.Reordered other) : other.startAt = level.startAt := by
  obtain ⟨_, _⟩ := reordered
  rfl

/-- A transition is there in any order of declaration. -/
theorem transition (reordered : level.Reordered other) {source target : String}
    (transition : level.Transition source target) : other.Transition source target := by
  obtain ⟨state, declared, targeted⟩ := transition
  obtain ⟨mate, listed, ⟨_, _⟩⟩ := reordered.exists_mate declared
  exact ⟨_, listed, targeted⟩

/-- Both levels have the same transitions. -/
theorem transition_iff (reordered : level.Reordered other) {source target : String} :
    level.Transition source target ↔ other.Transition source target :=
  ⟨reordered.transition, reordered.symm.transition⟩

/-- A level is well-formed in any order of declaration. -/
theorem wellFormed (reordered : level.Reordered other) (wellFormed : level.WellFormed) :
    other.WellFormed where
  startDeclared := by
    rw [reordered.startAt_eq]
    exact reordered.names_perm.subset wellFormed.startDeclared
  supported name mate declared := by
    obtain ⟨state, listed, ⟨_, _⟩⟩ := reordered.symm.exists_mate declared
    have supported := wellFormed.supported name _ listed
    exact supported
  endsOrContinues name mate declared := by
    obtain ⟨state, listed, ⟨_, _⟩⟩ := reordered.symm.exists_mate declared
    have alternative := wellFormed.endsOrContinues name _ listed
    exact alternative
  hasEnd := by
    obtain ⟨name, state, declared, ends⟩ := wellFormed.hasEnd
    obtain ⟨mate, listed, ⟨_, _⟩⟩ := reordered.exists_mate declared
    exact ⟨name, _, listed, ends⟩
  targetsDeclared source target transition :=
    reordered.names_perm.subset
      (wellFormed.targetsDeclared source target (reordered.symm.transition transition))
  startNotEntered source transition := by
    rw [reordered.startAt_eq] at transition
    exact wellFormed.startNotEntered source (reordered.symm.transition transition)
  enteredOnce first second target left right :=
    wellFormed.enteredOnce first second target (reordered.symm.transition left)
      (reordered.symm.transition right)
  reached name member := by
    have reached := wellFormed.reached name (reordered.names_perm.symm.subset member)
    rw [Reached, reordered.startAt_eq]
    exact Relation.ReflTransGen.mono (fun _ _ => reordered.transition) _ _ reached
  hasBranches name mate declared kind := by
    obtain ⟨state, listed, ⟨branching, _⟩⟩ := reordered.symm.exists_mate declared
    have nonempty := wellFormed.hasBranches name _ listed kind
    rintro rfl
    cases branching
    exact nonempty rfl
  hasIterator name mate declared kind := by
    obtain ⟨state, listed, ⟨_, iterating⟩⟩ := reordered.symm.exists_mate declared
    have present := wellFormed.hasIterator name _ listed kind
    cases iterating with
    | none => cases present
    | some _ => rfl

end Reordered

/-- What holds of a level in any order of declaration holds so throughout it. -/
theorem Throughout.reordered {property : Level → Prop}
    (respects : ∀ level other : Level, level.Reordered other → property level → property other)
    (throughout : level.Throughout property) (reordered : level.Reordered other) :
    other.Throughout property := by
  induction throughout generalizing other with
  | intro here _ ih =>
      refine .intro (respects _ _ reordered here) fun name mate declared sub planned => ?_
      obtain ⟨state, listed, alike⟩ := reordered.symm.exists_mate declared
      obtain ⟨twin, inside, same⟩ := exists_of_forall₂ alike.sublevels sub planned
      exact ih name state listed twin inside same.symm

end Level

/-! ## Links -/

namespace Links

variable {level other : Level} {links relinked : Links}

/-- In any order of declaration a state is entered from the same place. -/
theorem Describes.entrances_eq (described : Describes level links level.states)
    (redescribed : Describes other relinked other.states) (reordered : level.Reordered other)
    (name : String) :
    Dict.get? relinked.entrances name = Dict.get? links.entrances name := by
  refine Option.ext fun entrance => ?_
  rw [redescribed.records name entrance, described.records name entrance, reordered.startAt_eq]
  simp only [mem_transitionsOf_iff, reordered.transition_iff]

/-- In any order of declaration a state is entered on the same condition. -/
theorem Describes.routes_eq (described : Describes level links level.states)
    (redescribed : Describes other relinked other.states) (reordered : level.Reordered other)
    (distinct : level.names.Nodup) (name : String) :
    Dict.get? relinked.routes name = Dict.get? links.routes name := by
  by_cases entered : ∃ source, level.Transition source name
  · obtain ⟨source, state, declared, targeted⟩ := entered
    obtain ⟨mate, listed, alike⟩ := reordered.exists_mate declared
    have names : other.names.Nodup := reordered.names_perm.nodup_iff.mp distinct
    obtain ⟨_, _⟩ := alike
    rw [redescribed.routes_of_transition names listed targeted,
      described.routes_of_transition distinct declared targeted]
    rfl
  · have never : ∀ source, ¬ other.Transition source name := fun source transition =>
      entered ⟨source, reordered.symm.transition transition⟩
    rw [redescribed.routes_of_not_entered never,
      described.routes_of_not_entered (not_exists.mp entered)]

/-- In any order of declaration the same states end a level. -/
theorem Describes.terminals_perm (described : Describes level links level.states)
    (redescribed : Describes other relinked other.states) (reordered : level.Reordered other) :
    links.terminals.Perm relinked.terminals := by
  rw [described.terminals, redescribed.terminals]
  obtain @⟨comment, startAt, states, aligned, others, inside, permuted⟩ := reordered
  have same : (states.filter fun entry => entry.2.ends).map Prod.fst =
      (aligned.filter fun entry => entry.2.ends).map Prod.fst := by
    clear permuted described redescribed
    induction inside with
    | nil => rfl
    | cons alike _ ih =>
        obtain ⟨⟨_, _⟩⟩ := alike
        simp only [List.filter_cons]
        split
        · rw [List.map_cons, List.map_cons, ih]
        · exact ih
  rw [same]
  exact (permuted.filter _).map _

end Links

/-- A step of a level succeeds somewhere if it does so in some other order of declaration. -/
theorem Plan.levelStep_reordered {level other : Level} {entry : Site} {progress : Progress}
    {planned : String × Progress} (reordered : level.Reordered other)
    (distinct : level.Throughout fun level => level.names.Nodup)
    (made : (levelStep level entry).success progress = .ok planned) (site : Site) (start : Progress) :
    ∃ replanned, (levelStep other site).success start = .ok replanned :=
  levelStep_total ((wellFormed_of_levelStep distinct made).reordered
    (fun _ _ reordered => reordered.wellFormed) reordered) site start

/-! ## Declarations turned round -/

namespace Level

/-- The level in which the states are declared the other way round. -/
def reversed (level : Level) : Level :=
  { level with states := level.states.reverse }

/-- The level in which the states are declared the other way round, as they are on the levels
in them. -/
def backwards (level : Level) : Level :=
  let turned := fun entry : String × State => (entry.1, { entry.2 with
    branches := entry.2.branches.map reversed
    iterator := entry.2.iterator.map reversed })
  { level with states := (level.states.map turned).reverse }

/-- Turning the declarations round reorders them. -/
theorem reordered_reversed (level : Level) : level.Reordered level.reversed := by
  obtain ⟨inside, permuted⟩ := Reordered.refl level
  exact .intro inside (permuted.trans (List.reverse_perm _).symm)

/-- So does turning them round on the levels inside as well. -/
theorem reordered_backwards (level : Level) : level.Reordered level.backwards := by
  refine .intro (List.forall₂_map_right_iff.mpr (List.forall₂_same.mpr fun entry _ => ?_))
    (List.reverse_perm _).symm
  have iterating : Option.Rel Reordered entry.2.iterator (entry.2.iterator.map reversed) := by
    cases entry.2.iterator with
    | none => exact .none
    | some sub => exact .some (reordered_reversed sub)
  exact .intro (.of_levels (List.forall₂_map_right_iff.mpr (List.forall₂_same.mpr fun sub _ =>
    reordered_reversed sub)) iterating)

end Level

end EventFlow
