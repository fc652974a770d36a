import EventFlow.Proofs.Workflow.Compiled

/-!
# What plans mean

The triggers that are planned for a part of a workflow announce, in any net that has
them, exactly what the interpretation of that part does on the inputs that get to its
site. The statement is proved along the plan: for branches one after the other, for a
state from the levels inside it, and for a level from its states in their order.
-/

namespace EventFlow

namespace Net

variable {net : Net}

/-- An input gets to the site of a part of a plan. -/
def Reaches (net : Net) (site : Plan.Site) (input : Json) : Prop :=
  net.Arrives site.input input ∧ Opens site.gate input

/-- At most one input gets to a site. -/
def Settles (net : Net) (site : Plan.Site) : Prop :=
  ∀ first second, net.Reaches site first → net.Reaches site second → first = second

end Net

namespace Plan

variable {net : Net}

/-- The triggers planned so far, as they will be stored. -/
def stored (progress : Progress) : List Trigger :=
  progress.triggers.map Submission.trigger

theorem stored_push (progress : Progress) (submission : Submission) :
    stored (progress.push submission) = stored progress ++ [submission.trigger] := by
  simp [stored, Progress.push]

/-- What the triggers planned for a level mean, when the level is planned at an
entry. -/
structure LevelMeans (net : Net) (level : Level) (number : Nat) (entry : Site) (id : String)
    (added : List Trigger) : Prop where
  sound : net.Sound added
  closing : id ∈ added.map Trigger.id
  finishes : ∀ output, net.Carries id output ↔
    ∃ start, net.Reaches entry start ∧ Finishes net.relay level start output
  announces : ∀ subject output, net.Spreads added subject output ↔
    ∃ start, net.Reaches entry start ∧ Announces net.relay number level start subject output
  opened : ∀ output, net.Carries id output → net.Leads entry.input id
  leads : ∀ output, net.Carries id output → ∀ subject other, net.Spreads added subject other →
    net.Leads subject id
  root : ∀ trigger ∈ added, trigger.IsRoot → entry.depth = 0 ∧ trigger.id = id

/-- What the triggers planned for branches mean, when they are planned at a site. -/
structure BranchesMean (net : Net) (branches : List Level) (number : Nat) (site : Site)
    (ids : List String) (added : List Trigger) : Prop where
  sound : net.Sound added
  closing : ∀ id ∈ ids, id ∈ added.map Trigger.id
  finishes : ∀ data, net.Reaches site data → ∀ results,
    List.Forall₂ net.Arrives ids results ↔ Gathers net.relay branches data results
  announces : ∀ subject output, net.Spreads added subject output ↔
    ∃ data index sub, net.Reaches site data ∧ branches[index]? = some sub ∧
      Announces net.relay (number + ((branches.take index).map countLevel).sum) sub data
        subject output
  opened : ∀ id ∈ ids, ∀ output, net.Carries id output →
    net.Leads site.input id ∧ ∃ data, net.Reaches site data
  leads : ∀ subject other, net.Spreads added subject other →
    ∃ id ∈ ids, ∀ output, net.Carries id output → net.Leads subject id
  root : ∀ trigger ∈ added, trigger.IsRoot → site.depth = 0

/-- What the triggers planned for a state mean, when it is planned at a site. -/
structure StateMeans (net : Net) (number : Nat) (name : String) (state : State) (site : Site)
    (outcome : Outcome) (added : List Trigger) : Prop where
  sound : net.Sound added
  choice : state.kind = .choice → outcome = ⟨site.input, site.gate⟩
  inherited : state.kind ≠ .choice → outcome.inherited = none
  completion : state.kind ≠ .choice → outcome.completion ∈ added.map Trigger.id
  yields : state.kind ≠ .choice → ∀ output, net.Carries outcome.completion output ↔
    ∃ data, net.Reaches site data ∧ Yields net.relay state data output
  announces : ∀ subject output, net.Spreads added subject output ↔
    ∃ data, net.Reaches site data ∧ state.Announces net.relay number name data subject output
  opened : ∀ output, net.Carries outcome.completion output →
    net.Leads site.input outcome.completion
  leads : ∀ output, net.Carries outcome.completion output → ∀ subject other,
    net.Spreads added subject other → net.Leads subject outcome.completion
  root : ∀ trigger ∈ added, ¬ trigger.IsRoot

/-- The triggers of a level mean what they should wherever it is planned. -/
def Means (net : Net) (level : Level) : Prop :=
  ∀ (entry : Site) (progress : Progress) (id : String) (next : Progress), Gate entry.gate →
    net.Settles entry → stored next <+: net.triggers →
    (levelStep level entry).success progress = .ok (id, next) →
    ∃ added, stored next = stored progress ++ added ∧
      LevelMeans net level progress.sequence entry id added

/-! ## Branches -/

/-- No branches mean nothing. -/
theorem BranchesMean.nil (number : Nat) (site : Site) : BranchesMean net [] number site [] [] where
  sound := .nil
  closing := by simp
  finishes data _ results := by
    rw [List.forall₂_nil_left_iff]
    constructor
    · rintro rfl
      exact .nil
    · rintro ⟨⟩
      rfl
  announces := by simp [Net.Spreads]
  opened := by simp
  leads := by simp [Net.Spreads]
  root := by simp

/-- A branch in front of others adds what it means to what they mean. -/
theorem LevelMeans.cons {branch : Level} {rest : List Level} {number : Nat} {site : Site}
    {id : String} {ids : List String} {front back : List Trigger} (settles : net.Settles site)
    (meant : LevelMeans net branch number site id front)
    (behind : BranchesMean net rest (number + countLevel branch) site ids back) :
    BranchesMean net (branch :: rest) number site (id :: ids) (front ++ back) where
  sound := meant.sound.append behind.sound
  closing other member := by
    rw [List.map_append]
    rcases List.mem_cons.mp member with rfl | member
    · exact List.mem_append_left _ meant.closing
    · exact List.mem_append_right _ (behind.closing other member)
  finishes data reaches results := by
    rw [List.forall₂_cons_left_iff]
    constructor
    · rintro ⟨result, results, ⟨output, carries, relayed⟩, arrive, rfl⟩
      obtain ⟨start, reached, finishes⟩ := (meant.finishes output).mp carries
      cases settles _ _ reaches reached
      exact .cons finishes relayed ((behind.finishes data reaches _).mp arrive)
    · intro gathers
      cases gathers with
      | cons finishes relayed gathered =>
          exact ⟨_, _, ⟨_, (meant.finishes _).mpr ⟨data, reaches, finishes⟩, relayed⟩,
            (behind.finishes data reaches _).mpr gathered, rfl⟩
  announces subject output := by
    rw [Net.spreads_append_iff, meant.announces, behind.announces]
    constructor
    · rintro (⟨start, reaches, announces⟩ | ⟨data, index, sub, reaches, found, announces⟩)
      · exact ⟨start, 0, branch, reaches, rfl, by simpa using announces⟩
      · exact ⟨data, index + 1, sub, reaches, found, by simpa [Nat.add_assoc] using announces⟩
    · rintro ⟨data, index, sub, reaches, found, announces⟩
      cases index with
      | zero =>
          cases found
          exact .inl ⟨data, reaches, by simpa using announces⟩
      | succ index =>
          exact .inr ⟨data, index, sub, reaches, found, by simpa [Nat.add_assoc] using announces⟩
  opened other member output carries := by
    rcases List.mem_cons.mp member with rfl | member
    · obtain ⟨start, reaches, _⟩ := (meant.finishes output).mp carries
      exact ⟨meant.opened output carries, start, reaches⟩
    · exact behind.opened other member output carries
  leads subject other spreads := by
    rcases Net.spreads_append_iff.mp spreads with spreads | spreads
    · exact ⟨id, List.mem_cons_self, fun output carries =>
        meant.leads output carries subject other spreads⟩
    · obtain ⟨closing, member, leads⟩ := behind.leads subject other spreads
      exact ⟨closing, List.mem_cons_of_mem _ member, leads⟩
  root trigger member isRoot := by
    rcases List.mem_append.mp member with here | later
    · exact (meant.root trigger here isRoot).1
    · exact behind.root trigger later isRoot

/-- Branches mean what they should if each of them does. -/
theorem planBranches_means {branches : List Level} {site : Site} {progress next : Progress}
    {ids : List String} (distinct : ∀ branch ∈ branches,
      branch.Throughout fun level => level.names.Nodup) (inside : ∀ branch ∈ branches, Means net branch)
    (gate : Gate site.gate) (settles : net.Settles site) (within : stored next <+: net.triggers)
    (planned : (planBranches (branches.map levelStep) site).success progress = .ok (ids, next)) :
    ∃ added, stored next = stored progress ++ added ∧
      BranchesMean net branches progress.sequence site ids added := by
  induction branches generalizing progress ids with
  | nil =>
      cases planned
      exact ⟨[], by simp, .nil _ _⟩
  | cons branch rest ih =>
      obtain ⟨id, middle, others, first, later, rfl⟩ := planBranches_cons_eq_ok_iff.mp planned
      have extended := levelStep_extends (distinct branch List.mem_cons_self) first
      have behind := planBranches_extends (fun other member progress id next =>
        levelStep_extends (distinct other (List.mem_cons_of_mem _ member))) later
      have middleWithin : stored middle <+: net.triggers :=
        (behind.triggers.map Submission.trigger).trans within
      obtain ⟨front, frontEq, meant⟩ :=
        inside branch List.mem_cons_self site progress id middle gate settles middleWithin first
      obtain ⟨back, backEq, rest⟩ := ih
        (fun other member => distinct other (List.mem_cons_of_mem _ member))
        (fun other member => inside other (List.mem_cons_of_mem _ member)) later
      rw [extended.sequence] at rest
      exact ⟨front ++ back, by rw [backEq, frontEq, List.append_assoc], meant.cons settles rest⟩

/-! ## States -/

/-- The trigger of its own that a state has at a site. -/
def ownTrigger (name action : String) (state : State) (site : Site) : Trigger :=
  (stateTrigger name [site.input] action (gated (stateContext name state) site.gate)).trigger

section State

variable {name action : String} {state : State} {site : Site} {progress next : Progress}
  {outcome : Outcome}

/-- The trigger that a state has of its own announces what it makes of the inputs that
get to its site. -/
theorem carries_ownTrigger_iff (keyed : net.Keyed) {output : Json}
    (member : ownTrigger name action state site ∈ net.triggers) :
    net.Carries name output ↔ ∃ data, net.Reaches site data ∧
      output = (ownTrigger name action state site).output data := by
  have condition : (ownTrigger name action state site).condition? = site.gate :=
    get?_condition_gated name state site.gate
  have carried : net.Carries (ownTrigger name action state site).id output ↔ _ :=
    keyed.carries_single_iff member joinsAny_stateTrigger (waits_stateTrigger _)
  rw [condition] at carried
  refine carried.trans (exists_congr fun data => ?_)
  rw [Net.Reaches, and_assoc]

/-- The trigger that a state has of its own is sound. -/
theorem sound_ownTrigger (keyed : net.Keyed) (gate : Gate site.gate) (settles : net.Settles site)
    (kind : action = Vocabulary.statePass ∨ action = Vocabulary.task)
    (member : ownTrigger name action state site ∈ net.triggers) :
    net.Sound [ownTrigger name action state site] where
  compiled trigger listed := by
    cases List.mem_singleton.mp listed
    refine compiled_stateTrigger gate (.single joinsAny_stateTrigger _ (waits_stateTrigger _) ?_)
    exact kind.imp_right .inl
  single trigger listed := by
    cases List.mem_singleton.mp listed
    intro first second left right
    obtain ⟨data, reaches, rfl⟩ := (carries_ownTrigger_iff keyed member).mp left
    obtain ⟨other, reached, rfl⟩ := (carries_ownTrigger_iff keyed member).mp right
    rw [settles _ _ reaches reached]
  exclusive trigger listed any := by
    cases List.mem_singleton.mp listed
    cases any.symm.trans joinsAny_stateTrigger

/-- The completion of a trigger is fed by what it waits for. -/
theorem leads_ownTrigger (member : ownTrigger name action state site ∈ net.triggers) {output : Json}
    (carries : net.Carries name output) : net.Leads site.input name :=
  .single ⟨_, member, rfl, by simp [ownTrigger, waits_stateTrigger], output, carries⟩

/-- The trigger that a state has of its own does not stop the worker. -/
theorem not_isRoot_ownTrigger (kind : action = Vocabulary.statePass ∨ action = Vocabulary.task) :
    ¬ (ownTrigger name action state site).IsRoot := by
  rintro ⟨closes, _⟩
  have acts : action = Vocabulary.closeLevel := closes
  rcases kind with rfl | rfl <;> exact absurd acts (by decide)

/-- A state that has only a trigger of its own means what it should. -/
theorem planSingle_means (keyed : net.Keyed) (number : Nat) (gate : Gate site.gate)
    (settles : net.Settles site) (kind : action = Vocabulary.statePass ∨ action = Vocabulary.task)
    (plain : state.kind ≠ .choice ∧ state.kind ≠ .map) (flat : state.sublevels = [])
    (yields : ∀ data output, Yields net.relay state data output ↔
      output = (ownTrigger name action state site).output data)
    (member : ownTrigger name action state site ∈ net.triggers) :
    StateMeans net number name state site ⟨name, none⟩ [ownTrigger name action state site] := by
  have carried : ∀ output, net.Carries name output ↔
      ∃ data, net.Reaches site data ∧ Yields net.relay state data output := by
    intro output
    rw [carries_ownTrigger_iff keyed member]
    simp only [yields]
  refine {
    sound := sound_ownTrigger keyed gate settles kind member
    choice := fun choice => absurd choice plain.1
    inherited := fun _ => rfl
    completion := fun _ => List.mem_singleton_self _
    yields := fun _ => carried
    announces := fun subject output => ?_
    opened := fun output carries => leads_ownTrigger member carries
    leads := fun output carries subject other spreads => ?_
    root := fun trigger listed => List.mem_singleton.mp listed ▸ not_isRoot_ownTrigger kind }
  · rw [Net.spreads_singleton_iff]
    refine (and_congr_right fun _ => carried output).trans ?_
    simp [State.Announces, plain.2, flat, ownTrigger, stateTrigger, Submission.trigger,
      Submission.toTrigger, Submission.persistent, and_left_comm]
  · rw [(Net.spreads_singleton_iff.mp spreads).1]
    exact .refl

/-- The trigger by which a parallel state joins its branches. -/
def joinTrigger (name : String) (state : State) (ids : List String) : Trigger :=
  (stateTrigger name ids Vocabulary.statePass (gated (stateContext name state) none)).trigger

/-- A parallel state announces what it makes of the results of its branches. -/
theorem carries_joinTrigger_iff (keyed : net.Keyed) {ids : List String} (ordered : state.Ordered)
    (nonempty : ids ≠ []) (member : joinTrigger name state ids ∈ net.triggers) {output : Json} :
    net.Carries name output ↔ ∃ results,
      List.Forall₂ net.Arrives ids results ∧ output = state.output (joined results) := by
  have waits : (joinTrigger name state ids).waits = ids := waits_stateTrigger _
  have free : (joinTrigger name state ids).condition? = none := get?_condition_gated name state none
  have made : ∀ input, (joinTrigger name state ids).output input = state.output input :=
    output_statePass ordered
  have carried : net.Carries (joinTrigger name state ids).id output ↔ _ :=
    keyed.carries_all_iff member joinsAny_stateTrigger (by rwa [waits])
  rw [waits, free] at carried
  simp only [opens_none, and_true, made] at carried
  exact carried

/-- The trigger by which a parallel state joins its branches is sound if they are. -/
theorem sound_joinTrigger (keyed : net.Keyed) {ids : List String} (ordered : state.Ordered)
    (nonempty : ids ≠ []) (single : ∀ id ∈ ids, net.Single id)
    (member : joinTrigger name state ids ∈ net.triggers) :
    net.Sound [joinTrigger name state ids] where
  compiled trigger listed := by
    cases List.mem_singleton.mp listed
    have waits : (joinTrigger name state ids).waits = ids := waits_stateTrigger _
    exact compiled_stateTrigger .none (.join joinsAny_stateTrigger (waits.symm ▸ nonempty) rfl
      (get?_condition_gated name state none))
  single trigger listed := by
    cases List.mem_singleton.mp listed
    intro first second left right
    obtain ⟨results, arrive, rfl⟩ := (carries_joinTrigger_iff keyed ordered nonempty member).mp left
    obtain ⟨others, arriveToo, rfl⟩ := (carries_joinTrigger_iff keyed ordered nonempty member).mp right
    rw [Net.arrive_unique single arrive arriveToo]
  exclusive trigger listed any := by
    cases List.mem_singleton.mp listed
    cases any.symm.trans joinsAny_stateTrigger

/-- Where a parallel state completes, each of its branches has completed and feeds it. -/
theorem closed_of_carries (keyed : net.Keyed) {ids : List String} (ordered : state.Ordered)
    (nonempty : ids ≠ []) (member : joinTrigger name state ids ∈ net.triggers) {output : Json}
    (carries : net.Carries name output) {id : String} (listed : id ∈ ids) :
    (∃ closing, net.Carries id closing) ∧ net.Feeds id name := by
  obtain ⟨results, arrive, _⟩ := (carries_joinTrigger_iff keyed ordered nonempty member).mp carries
  have waits : (joinTrigger name state ids).waits = ids := waits_stateTrigger _
  obtain ⟨_, -, announced, own, _⟩ := exists_of_forall₂ arrive id listed
  exact ⟨⟨announced, own⟩, _, member, rfl, waits.symm ▸ listed, output, carries⟩

/-- A parallel state whose branches mean what they should completes with what it yields on the
inputs that get to its site. -/
theorem BranchesMean.carries_iff (keyed : net.Keyed) {number : Nat} {ids : List String}
    {added : List Trigger} (ordered : state.Ordered) (kind : state.kind = .parallel) (nonempty : ids ≠ [])
    (meant : BranchesMean net state.branches number { site with depth := site.depth + 1 } ids added)
    (member : joinTrigger name state ids ∈ net.triggers) (output : Json) :
    net.Carries name output ↔
      ∃ data, net.Reaches site data ∧ Yields net.relay state data output := by
  constructor
  · intro carries
    obtain ⟨first, listed⟩ := List.exists_mem_of_ne_nil ids nonempty
    obtain ⟨⟨closing, closed⟩, _⟩ :=
      closed_of_carries keyed ordered nonempty member carries listed
    obtain ⟨results, arrive, rfl⟩ :=
      (carries_joinTrigger_iff keyed ordered nonempty member).mp carries
    obtain ⟨data, reaches⟩ := (meant.opened first listed closing closed).2
    exact ⟨data, reaches, .join kind ((meant.finishes data reaches results).mp arrive)⟩
  · rintro ⟨data, reaches, yields⟩
    obtain ⟨results, gathers, rfl⟩ := (yields_join_iff kind).mp yields
    exact (carries_joinTrigger_iff keyed ordered nonempty member).mpr
      ⟨results, (meant.finishes data reaches results).mpr gathers, rfl⟩

/-- A parallel state means what it should if its branches do. -/
theorem planParallel_means (keyed : net.Keyed) {number : Nat} {ids : List String}
    {added : List Trigger} (ordered : state.Ordered) (kind : state.kind = .parallel) (nonempty : ids ≠ [])
    (meant : BranchesMean net state.branches number { site with depth := site.depth + 1 } ids added)
    (member : joinTrigger name state ids ∈ net.triggers) :
    StateMeans net number name state site ⟨name, none⟩ (added ++ [joinTrigger name state ids]) := by
  have carried := meant.carries_iff keyed ordered kind nonempty member
  refine {
    sound := meant.sound.append (sound_joinTrigger keyed ordered nonempty
      (fun id listed => meant.sound.of_single (meant.closing id listed)) member)
    choice := fun choice => by cases kind.symm.trans choice
    inherited := fun _ => rfl
    completion := fun _ => by simp [joinTrigger, stateTrigger, Submission.trigger,
      Submission.toTrigger, Submission.persistent]
    yields := fun _ => carried
    announces := fun subject output => ?_
    opened := fun output carries => ?_
    leads := fun output carries subject other spreads => ?_
    root := fun trigger listed isRoot => ?_ }
  · rw [Net.spreads_append_iff, Net.spreads_singleton_iff, meant.announces]
    simp only [State.announces_parallel_iff kind]
    constructor
    · rintro (⟨data, index, sub, reaches, found, announces⟩ | ⟨rfl, carries⟩)
      · exact ⟨data, reaches, .inr ⟨index, sub, found, announces⟩⟩
      · obtain ⟨data, reaches, yields⟩ := (carried output).mp carries
        exact ⟨data, reaches, .inl ⟨rfl, yields⟩⟩
    · rintro ⟨data, reaches, ⟨rfl, yields⟩ | ⟨index, sub, found, announces⟩⟩
      · exact .inr ⟨rfl, (carried output).mpr ⟨data, reaches, yields⟩⟩
      · exact .inl ⟨data, index, sub, reaches, found, announces⟩
  · obtain ⟨first, listed⟩ := List.exists_mem_of_ne_nil ids nonempty
    obtain ⟨⟨closing, closed⟩, feeds⟩ :=
      closed_of_carries keyed ordered nonempty member carries listed
    exact (meant.opened first listed closing closed).1.tail feeds
  · rcases Net.spreads_append_iff.mp spreads with inner | own
    · obtain ⟨id, listed, leads⟩ := meant.leads subject other inner
      obtain ⟨⟨closing, closed⟩, feeds⟩ :=
        closed_of_carries keyed ordered nonempty member carries listed
      exact (leads closing closed).tail feeds
    · rw [(Net.spreads_singleton_iff.mp own).1]
      exact .refl
  · rcases List.mem_append.mp listed with inner | own
    · exact absurd (meant.root trigger inner isRoot) (Nat.succ_ne_zero _)
    · cases List.mem_singleton.mp own
      exact absurd isRoot.1 (show Vocabulary.statePass ≠ Vocabulary.closeLevel by decide)

/-- A map state announces the inputs that get to its site. -/
theorem carries_task_iff (keyed : net.Keyed)
    (member : ownTrigger name Vocabulary.task state site ∈ net.triggers) (output : Json) :
    net.Carries name output ↔ net.Reaches site output := by
  rw [carries_ownTrigger_iff keyed member]
  simp [ownTrigger, output_task]

/-- The iterator of a map state is started on the inputs that get to the site of the state, once
they have got through. -/
theorem reaches_iterator_iff (keyed : net.Keyed)
    (member : ownTrigger name Vocabulary.task state site ∈ net.triggers) (start : Json) :
    net.Reaches ⟨name, none, site.depth + 1⟩ start ↔
      ∃ data, net.Reaches site data ∧ net.relay data = some start := by
  simp [Net.Reaches, Net.Arrives, carries_task_iff keyed member, opens_none]

/-- A map state whose iterator means what it should completes with what it yields on the inputs
that get to its site. -/
theorem LevelMeans.carries_iff (keyed : net.Keyed) {number : Nat} {level : Level} {id : String}
    {added : List Trigger} (kind : state.kind = .map) (iterator : state.iterator = some level)
    (meant : LevelMeans net level number ⟨name, none, site.depth + 1⟩ id added)
    (member : ownTrigger name Vocabulary.task state site ∈ net.triggers) (output : Json) :
    net.Carries id output ↔
      ∃ data, net.Reaches site data ∧ Yields net.relay state data output := by
  rw [meant.finishes]
  simp only [reaches_iterator_iff keyed member, yields_map_iff kind, iterator]
  constructor
  · rintro ⟨start, ⟨data, reaches, relayed⟩, finishes⟩
    exact ⟨data, reaches, level, start, rfl, relayed, finishes⟩
  · rintro ⟨data, reaches, _, start, equal, relayed, finishes⟩
    cases equal
    exact ⟨start, ⟨data, reaches, relayed⟩, finishes⟩

/-- A map state means what it should if its iterator does, which starts on the
completion of the state's own trigger. -/
theorem planMap_means (keyed : net.Keyed) {number : Nat} {level : Level} {id : String}
    {added : List Trigger} (gate : Gate site.gate) (settles : net.Settles site)
    (kind : state.kind = .map) (iterator : state.iterator = some level)
    (meant : LevelMeans net level number ⟨name, none, site.depth + 1⟩ id added)
    (member : ownTrigger name Vocabulary.task state site ∈ net.triggers) :
    StateMeans net number name state site ⟨id, none⟩
      ([ownTrigger name Vocabulary.task state site] ++ added) := by
  have own := carries_task_iff keyed member
  have starts := reaches_iterator_iff keyed member
  refine {
    sound := (sound_ownTrigger keyed gate settles (.inr rfl) member).append meant.sound
    choice := fun choice => by cases kind.symm.trans choice
    inherited := fun _ => rfl
    completion := fun _ => by
      rw [List.map_append]
      exact List.mem_append_right _ meant.closing
    yields := fun _ => meant.carries_iff keyed kind iterator member
    announces := fun subject output => ?_
    opened := fun output carries => ?_
    leads := fun output carries subject other spreads => ?_
    root := fun trigger listed isRoot => ?_ }
  · rw [Net.spreads_append_iff, Net.spreads_singleton_iff, meant.announces]
    simp only [State.announces_map_iff kind iterator, starts]
    constructor
    · rintro (⟨rfl, carries⟩ | ⟨start, ⟨data, reaches, relayed⟩, announces⟩)
      · exact ⟨output, (own output).mp carries, .inl ⟨rfl, rfl⟩⟩
      · exact ⟨data, reaches, .inr ⟨start, relayed, announces⟩⟩
    · rintro ⟨data, reaches, ⟨rfl, rfl⟩ | ⟨start, relayed, announces⟩⟩
      · exact .inl ⟨rfl, (own output).mpr reaches⟩
      · exact .inr ⟨start, ⟨data, reaches, relayed⟩, announces⟩
  · obtain ⟨start, reaches, _⟩ := (meant.finishes output).mp carries
    obtain ⟨data, reached, _⟩ := (starts start).mp reaches
    exact (leads_ownTrigger member ((own data).mpr reached)).trans (meant.opened output carries)
  · rcases Net.spreads_append_iff.mp spreads with here | inner
    · rw [(Net.spreads_singleton_iff.mp here).1]
      exact meant.opened output carries
    · exact meant.leads output carries subject other inner
  · rcases List.mem_append.mp listed with here | inner
    · cases List.mem_singleton.mp here
      exact not_isRoot_ownTrigger (.inr rfl) isRoot
    · exact absurd (meant.root trigger inner isRoot).1 (Nat.succ_ne_zero _)

/-- A choice has no trigger and leaves its site to the states behind it. -/
theorem planChoice_means (number : Nat) (kind : state.kind = .choice) :
    StateMeans net number name state site ⟨site.input, site.gate⟩ [] where
  sound := .nil
  choice := fun _ => rfl
  inherited := fun other => absurd kind other
  completion := fun other => absurd kind other
  yields := fun other => absurd kind other
  announces := by
    have nothing : ∀ data output, ¬ Yields net.relay state data output :=
      fun data output yields => yields.kind.1 kind
    simp [Net.Spreads, State.Announces, kind, nothing, State.sublevels]
  opened := fun _ _ => .refl
  leads := by simp [Net.Spreads]
  root := by simp

/-- What is pushed last onto the triggers of a net belongs to it. -/
theorem mem_of_push {submission : Submission}
    (within : stored (progress.push submission) <+: net.triggers) :
    submission.trigger ∈ net.triggers := by
  refine within.subset ?_
  rw [stored_push]
  exact List.mem_append_right _ (List.mem_singleton_self _)

/-- Planning a state that has only a trigger of its own adds this trigger. -/
theorem planSingle_added (keyed : net.Keyed) (gate : Gate site.gate) (settles : net.Settles site)
    (kind : action = Vocabulary.statePass ∨ action = Vocabulary.task)
    (plain : state.kind ≠ .choice ∧ state.kind ≠ .map) (flat : state.sublevels = [])
    (yields : ∀ data output, Yields net.relay state data output ↔
      output = (ownTrigger name action state site).output data)
    (within : stored next <+: net.triggers)
    (planned : (planSingle name action state site).success progress = .ok (outcome, next)) :
    ∃ added, stored next = stored progress ++ added ∧
      StateMeans net progress.sequence name state site outcome added := by
  cases planned
  exact ⟨_, stored_push _ _, planSingle_means keyed _ gate settles kind plain flat yields
    (mem_of_push within)⟩

/-- Planning a parallel state adds the triggers of its branches and the one that joins
them. -/
theorem planParallel_added (keyed : net.Keyed) (ordered : state.Ordered) (kind : state.kind = .parallel)
    (distinct : ∀ branch ∈ state.branches,
      Level.Throughout (fun level => level.names.Nodup) branch)
    (inside : ∀ branch ∈ state.branches, Means net branch) (gate : Gate site.gate)
    (settles : net.Settles site) (within : stored next <+: net.triggers)
    (planned : (planParallel name state (state.branches.map levelStep) site).success progress =
      .ok (outcome, next)) :
    ∃ added, stored next = stored progress ++ added ∧
      StateMeans net progress.sequence name state site outcome added := by
  obtain ⟨nonempty, ids, middle, branches, rfl, rfl⟩ := planParallel_eq_ok_iff.mp planned
  have middleWithin : stored middle <+: net.triggers :=
    (stored_push middle _ ▸ List.prefix_append _ _).trans within
  obtain ⟨added, addedEq, meant⟩ : ∃ added, stored middle = stored progress ++ added ∧
      BranchesMean net state.branches progress.sequence { site with depth := site.depth + 1 }
        ids added :=
    planBranches_means distinct inside gate settles middleWithin branches
  have some : ids ≠ [] := by
    rintro rfl
    obtain ⟨first, rest, found⟩ := List.exists_cons_of_ne_nil nonempty
    rw [found] at branches
    obtain ⟨_, _, _, _, _, equal⟩ := planBranches_cons_eq_ok_iff.mp branches
    cases equal
  refine ⟨added ++ [joinTrigger name state ids], ?_, ?_⟩
  · rw [stored_push, addedEq, List.append_assoc]
    rfl
  · exact planParallel_means keyed ordered kind some meant (mem_of_push within)

/-- Planning a map state adds its own trigger and those of its iterator. -/
theorem planMap_added (keyed : net.Keyed) (kind : state.kind = .map)
    (distinct : ∀ sub ∈ state.sublevels, sub.Throughout fun level => level.names.Nodup)
    (inside : ∀ sub ∈ state.sublevels, Means net sub) (gate : Gate site.gate)
    (settles : net.Settles site) (within : stored next <+: net.triggers)
    (planned : (planMap name state (state.iterator.map levelStep) site).success progress =
      .ok (outcome, next)) :
    ∃ added, stored next = stored progress ++ added ∧
      StateMeans net progress.sequence name state site outcome added := by
  obtain ⟨step, id, present, iterated, rfl⟩ := planMap_eq_ok_iff.mp planned
  obtain ⟨level, iterator, rfl⟩ := Option.map_eq_some_iff.mp present
  have listed : level ∈ state.sublevels := by simp [State.sublevels, kind, iterator]
  have extended := levelStep_extends (distinct level listed) iterated
  have member : ownTrigger name Vocabulary.task state site ∈ net.triggers :=
    mem_of_push ((extended.triggers.map Submission.trigger).trans within)
  have single : net.Single name :=
    (sound_ownTrigger keyed gate settles (.inr rfl) member).single _ (List.mem_singleton_self _)
  obtain ⟨added, addedEq, meant⟩ := inside level listed ⟨name, none, site.depth + 1⟩ _ id next
    .none (fun first second left right => single.arrives left.1 right.1) within iterated
  refine ⟨[ownTrigger name Vocabulary.task state site] ++ added, ?_, ?_⟩
  · rw [addedEq, stored_push, List.append_assoc]
    rfl
  · exact planMap_means keyed gate settles kind iterator meant member

/-- A state means what it should if the levels inside it do. -/
theorem stateStep_means (keyed : net.Keyed) (ordered : state.Ordered)
    (distinct : ∀ sub ∈ state.sublevels, sub.Throughout fun level => level.names.Nodup)
    (inside : ∀ sub ∈ state.sublevels, Means net sub) (gate : Gate site.gate)
    (settles : net.Settles site) (within : stored next <+: net.triggers)
    (planned : (stateStep name state site).success progress = .ok (outcome, next)) :
    ∃ added, stored next = stored progress ++ added ∧
      StateMeans net progress.sequence name state site outcome added := by
  rw [stateStep_eq, planKind] at planned
  cases kind : state.kind with
  | pass =>
      simp only [kind] at planned
      refine planSingle_added keyed gate settles (.inl rfl) (by simp [kind])
        (by simp [State.sublevels, kind]) ?_ within planned
      intro data output
      rw [yields_pass_iff kind, ownTrigger, output_statePass ordered]
  | task =>
      simp only [kind] at planned
      refine planSingle_added keyed gate settles (.inr rfl) (by simp [kind])
        (by simp [State.sublevels, kind]) ?_ within planned
      intro data output
      rw [yields_work_iff (.inl kind), ownTrigger, output_task]
  | wait =>
      simp only [kind] at planned
      refine planSingle_added keyed gate settles (.inr rfl) (by simp [kind])
        (by simp [State.sublevels, kind]) ?_ within planned
      intro data output
      rw [yields_work_iff (.inr kind), ownTrigger, output_task]
  | choice =>
      simp only [kind] at planned
      cases planned
      exact ⟨[], by simp, planChoice_means _ kind⟩
  | parallel =>
      have sublevels : state.sublevels = state.branches := by simp [State.sublevels, kind]
      simp only [kind] at planned
      rw [sublevels] at distinct inside
      exact planParallel_added keyed ordered kind distinct inside gate settles within planned
  | map =>
      simp only [kind] at planned
      exact planMap_added keyed kind distinct inside gate settles within planned
  | succeed =>
      simp only [kind] at planned
      cases planned
  | fail =>
      simp only [kind] at planned
      cases planned

end State

end Plan

end EventFlow
