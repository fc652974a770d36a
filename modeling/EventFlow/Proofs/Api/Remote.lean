import EventFlow.Proofs.Api.Isolation
import EventFlow.Proofs.Api.Operations

/-!
# Compiling into a remote store

A remote store passes each planned trigger on in a call of its own, up to the first one
whose id is taken. A compilation that fails half-way so leaves a front part of its plan
behind. As plans are in dependency order, none of its triggers waits for one that is
missing.
-/

namespace EventFlow

/-- The trigger of a submission as documents keep it, with its context in order. -/
def Submission.kept (submission : Submission) : Trigger :=
  submission.trigger.ordered

/-- A planned trigger is kept with all that was planned, the fields of its context in order. -/
theorem Submission.IsPlanned.storedAs_kept {submission : Submission} {id : String}
    (planned : submission.IsPlanned id) :
    submission.StoredAs submission.context.sorted submission.kept := by
  have whole := planned.storedAs
  refine { whole with context := ?_ }
  rw [← whole.context, Json.sorted]
  rfl

namespace Documents

/-- A namespace that is there, with these triggers and this index of them. -/
structure Loads (documents : Documents) (space : String) (stored : Dict Trigger)
    (index : SourceEvents) : Prop where
  present : documents.spaceExists space = true
  triggers : documents.loadTriggers space = .ok stored
  index : documents.loadIndex space = .ok index

/-- Apart from the triggers of a namespace and their index these documents are the same. -/
def SameBeside (documents after : Documents) (space : String) : Prop :=
  ∀ other name, ¬(other = space ∧ (name = Documents.triggers ∨ name = sourceEvents)) →
    after.get? other name = documents.get? other name

variable {documents after : Documents} {space : String} {stored : Dict Trigger}
  {index : SourceEvents} {triggers : List Trigger}

/-- A batch that is stored touches the triggers and their index alone. -/
theorem sameBeside_of_store (succeeded : Call.store documents space triggers = .ok after) :
    documents.SameBeside after space := by
  obtain ⟨-, stored, index, -, -, -, rfl⟩ := Call.store_eq_ok_iff.mp succeeded
  intro other name beside
  by_cases here : other = space
  · subst here
    have apart : name ≠ Documents.triggers ∧ name ≠ sourceEvents := by tauto
    exact get?_rewritten_of_ne apart.1.symm apart.2.symm
  · rw [get?, get?_rewritten_of_space_ne here]
    rfl

/-- A trigger with a free id is stored in a namespace that is loaded. One with an id that is
taken is refused. -/
theorem Loads.store (loads : documents.Loads space stored index) (trigger : Trigger) :
    (trigger.id ∈ Dict.keys stored ∧ ∃ cause, Call.store documents space [trigger] = .error cause) ∨
      trigger.id ∉ Dict.keys stored ∧ ∃ after, Call.store documents space [trigger] = .ok after ∧
        after.Loads space (Call.filed stored [trigger.ordered])
          (SourceEvents.add index trigger.ordered) ∧ documents.SameBeside after space := by
  cases made : Call.store documents space [trigger] with
  | error cause =>
    refine .inl ⟨?_, cause, rfl⟩
    by_contra free
    have none : Call.firstTaken? (Dict.keys stored) [trigger] = none := by
      simp [Call.firstTaken?, free]
    cases made.symm.trans (Call.store_eq_ok_iff.mpr
      ⟨loads.present, stored, index, loads.triggers, loads.index, none, rfl⟩)
  | ok after =>
    obtain ⟨_, _, loaded, known, free, added, listed⟩ := Call.loads_of_store made
    cases loads.triggers.symm.trans loaded
    cases loads.index.symm.trans known
    have same := sameBeside_of_store made
    have present : after.spaceExists space = true := by
      rw [spaceExists, same space globalContext fun here => absurd here.2 (by decide)]
      exact loads.present
    refine .inr ⟨?_, after, rfl, ⟨present, added, listed⟩, same⟩
    exact (Call.firstTaken?_eq_none_iff.mp free).2 trigger (List.mem_singleton_self _)

end Documents

namespace TriggerStore

variable {store : TriggerStore} {space id : String} {around : Surroundings}
  {submission : Submission} {submissions : List Submission} {stored : Dict Trigger}
  {index : SourceEvents}

/-- A planned trigger is passed on in a batch of its own. -/
theorem perform_add_planned (mode : store.mode = .remote) (direct : store.transport = .direct)
    (active : store.space = some space) (planned : submission.IsPlanned id) :
    (Client.add "" submission).perform ⟨store, around⟩ =
      match Call.store around.documents space [submission.trigger] with
      | .error cause => (.error cause, ⟨store, around⟩)
      | .ok documents => (.ok id, ⟨store, { around with documents }⟩) := by
  have named : store.activeSpace = .ok space := by
    unfold activeSpace
    rw [active]
  rw [perform_add, checked_planned planned, named]
  simp only [Except.map, mode, direct, planned.named, Option.getD_some, planned.toTrigger_fields,
    Transport.perform_direct, Call.apply]
  cases Call.store around.documents space [submission.trigger] <;> rfl

/-- Planned triggers are passed on up to the first one whose id is taken. -/
theorem submit_passes (mode : store.mode = .remote) (direct : store.transport = .direct)
    (active : store.space = some space)
    (planned : ∀ submission ∈ submissions, ∃ id, submission.IsPlanned id)
    (loads : around.documents.Loads space stored index) (ids : List String) :
    let submitted := store.submit ids around submissions
    ∃ front behind, submissions = front ++ behind ∧
      submitted.around.documents.Loads space (Call.filed stored (front.map Submission.kept))
        ((front.map Submission.kept).foldl SourceEvents.add index) ∧
      around.documents.SameBeside submitted.around.documents space ∧
      Call.firstTaken? (Dict.keys stored) (front.map Submission.kept) = none ∧
      (submitted.result = .ok () ↔ behind = []) ∧
      ∀ refused, behind.head? = some refused →
        refused.kept.id ∈ Dict.keys (Call.filed stored (front.map Submission.kept)) := by
  induction submissions generalizing around stored index ids with
  | nil =>
    refine ⟨[], [], rfl, loads, fun _ _ _ => rfl, rfl, iff_of_true rfl rfl, ?_⟩
    rintro _ ⟨⟩
  | cons submission rest ih =>
    obtain ⟨id, first⟩ := planned submission List.mem_cons_self
    intro submitted
    have step : submitted = store.submit ids around (submission :: rest) := rfl
    rw [submit, perform_add_planned mode direct active first] at step
    rcases loads.store submission.trigger with ⟨taken, cause, refused⟩ | ⟨free, after, added, next, same⟩
    · rw [refused] at step
      rw [step]
      refine ⟨[], submission :: rest, rfl, loads, fun _ _ _ => rfl, rfl,
        iff_of_false ?_ (List.cons_ne_nil _ _), ?_⟩
      · rintro ⟨⟩
      · rintro _ ⟨⟩
        exact taken
    · rw [added] at step
      rw [step]
      have next : { around with documents := after }.documents.Loads space _ _ := next
      obtain ⟨front, behind, rfl, passed, alike, new, whole, stopped⟩ :=
        ih (fun other member => planned other (List.mem_cons_of_mem _ member)) next (ids ++ [id])
      have alone : Call.firstTaken? (Dict.keys stored) [submission.kept] = none := by
        have free : submission.kept.id ∉ Dict.keys stored := free
        simp [Call.firstTaken?, free]
      refine ⟨submission :: front, behind, rfl, passed, fun other name beside => ?_,
        (Call.firstTaken?_cons_iff _).mpr ⟨alone, new⟩, whole, stopped⟩
      exact (alike other name beside).trans (same other name beside)

/-- With a plan a compilation comes to what adding its triggers comes to. It gives the
completion of the plan once all of them are added, and goes back to its compiler otherwise. -/
theorem compilation_submits {compiler planner : Compiler} {workflow : Level} {initial : String}
    {plan : Plan} (planned : compiler.plan workflow initial = .ok (plan, planner)) :
    let made := store.compilation compiler workflow initial around
    let submitted := store.submit [] around plan.triggers
    made.around = submitted.around ∧
      ((∃ id, made.result = .ok id) ↔ submitted.result = .ok ()) ∧
      (∀ id, made.result = .ok id → id = plan.completion ∧ made.compiler = planner) ∧
      ∀ cause, made.result = .error cause → made.compiler = compiler := by
  intro made submitted
  have unfolded : made = store.compilation compiler workflow initial around := rfl
  rw [compilation, Compiler.attempt_eq_ok_iff.mpr planned] at unfolded
  dsimp only at unfolded
  cases result : (store.submit [] around plan.triggers).result with
  | ok =>
    rw [result] at unfolded
    rw [unfolded]
    refine ⟨rfl, iff_of_true ⟨_, rfl⟩ rfl, ?_, ?_⟩
    · rintro _ ⟨⟩
      exact ⟨rfl, rfl⟩
    · rintro _ ⟨⟩
  | error cause =>
    rw [result] at unfolded
    rw [unfolded]
    refine ⟨rfl, iff_of_false ?_ ?_, ?_, fun _ _ => rfl⟩
    · rintro ⟨_, ⟨⟩⟩
    · rintro ⟨⟩
    · rintro _ ⟨⟩

/-- A compilation into a remote store over documents that can be read. Without a plan it
changes nothing. With a plan it stores a front part of it, in order: triggers with new and
distinct ids, each of which waits only for the initial event or for another one of them,
listed in the index one after the other. It goes on until the next id is taken, so it
succeeds if and only if that part is the whole plan; if it fails, the compiler is where it
was. All other documents stay. What is stored are the triggers that were there and these,
each with all that was planned; under each subject they are listed behind those that waited
for it before. -/
theorem compilation_stores_front (mode : store.mode = .remote)
    (direct : store.transport = .direct) (active : store.space = some space)
    (loads : around.documents.Loads space stored index) (compiler : Compiler) (workflow : Level)
    (initial : String) :
    let made := store.compilation compiler workflow initial around
    (∀ cause, compiler.plan workflow initial = .error cause →
      made.result = .error cause ∧ made.compiler = compiler ∧ made.around = around) ∧
    ∀ plan planner, compiler.plan workflow initial = .ok (plan, planner) →
      ∃ count ≤ plan.triggers.length,
        let kept := (plan.triggers.take count).map Submission.kept
        made.around.documents.loadTriggers space = .ok (Call.filed stored kept) ∧
        ((kept.map Trigger.id).Nodup ∧ ∀ trigger ∈ kept, Dict.get? stored trigger.id = none) ∧
        made.around.documents.loadIndex space = .ok (kept.foldl SourceEvents.add index) ∧
        around.documents.SameBeside made.around.documents space ∧
        ((∃ id, made.result = .ok id) ↔ count = plan.triggers.length) ∧
        (∀ id, made.result = .ok id → id = plan.completion ∧ made.compiler = planner) ∧
        (∀ cause, made.result = .error cause → made.compiler = compiler) ∧
        (∀ refused, plan.triggers[count]? = some refused →
          refused.kept.id ∈ Dict.keys (Call.filed stored kept)) ∧
        (∀ trigger ∈ kept, ∀ key ∈ trigger.dependencies,
          key.subject = initial ∨ ∃ other ∈ kept, other.id = key.subject) ∧
        (∀ submission ∈ plan.triggers,
          submission.StoredAs submission.context.sorted submission.kept) ∧
        (∀ id trigger, Dict.get? (Call.filed stored kept) id = some trigger ↔
          Dict.get? stored id = some trigger ∨ trigger ∈ kept ∧ trigger.id = id) ∧
        ∀ subject, SourceEvents.waiting (kept.foldl SourceEvents.add index) subject =
          SourceEvents.waiting index subject ++
            (kept.filter fun trigger => (∃ key ∈ trigger.dependencies, key.subject = subject) ∧
              trigger.id ∉ SourceEvents.waiting index subject).map Trigger.id := by
  intro made
  constructor
  · intro cause refused
    have nothing : made = _ := compilation_unplanned refused
    rw [nothing]
    exact ⟨rfl, rfl, rfl⟩
  · intro plan planner planned
    obtain ⟨-, -, -, ordered, -⟩ := Compiler.plan_emits planned
    obtain ⟨front, behind, split, passed, same, free, whole, stopped⟩ :=
      submit_passes mode direct active ordered.isPlanned loads []
    obtain ⟨here, all, moved, back⟩ : made.around = _ ∧ _ := compilation_submits planned
    have taken : plan.triggers.take front.length = front := by rw [split, List.take_left]
    have counted : behind = [] ↔ front.length = plan.triggers.length := by
      rw [split, List.length_append, ← List.length_eq_zero_iff]
      omega
    have next : plan.triggers[front.length]? = behind.head? := by
      rw [split, List.getElem?_append_right (Nat.le_refl _), Nat.sub_self, List.head?_eq_getElem?]
    have contained := (ordered.front ⟨behind, split.symm⟩).known
    obtain ⟨distinct, new⟩ := Call.firstTaken?_eq_none_iff.mp free
    have storedAs : ∀ submission ∈ plan.triggers,
        submission.StoredAs submission.context.sorted submission.kept := by
      intro submission member
      obtain ⟨_, shape⟩ := ordered.isPlanned submission member
      exact shape.storedAs_kept
    refine ⟨front.length, by simp [split], ?_⟩
    rw [taken, show made.around = _ from here]
    refine ⟨passed.triggers, ⟨distinct, fun trigger member =>
      Dict.get?_eq_none_iff.mpr (new trigger member)⟩, passed.index, same,
      all.trans (whole.trans counted), moved, back, next ▸ stopped, fun trigger member key listed => ?_,
      storedAs, ?_, fun subject => ?_⟩
    · obtain ⟨submission, passing, rfl⟩ := List.mem_map.mp member
      refine (contained submission passing key listed).imp_right ?_
      rintro ⟨before, kept, named⟩
      exact ⟨before.kept, List.mem_map_of_mem kept,
        Option.some.inj ((storedAs before (split ▸ List.mem_append_left _ kept)).id.symm.trans named)⟩
    · exact Call.get?_filed_iff free
    · simp only [SourceEvents.waiting_addAll distinct, Trigger.mem_subjects_iff]

/-- Two states, of which the second one has the id of a trigger that is stored. -/
def halfTaken : Level where
  comment := none
  startAt := "Stop"
  states := [
    ("Stop", { State.ofKind .pass with next := some "Ready" }),
    ("Ready", { State.ofKind .pass with ends := true })]

/-- The trigger of the first state is passed on and stays; that of the second is refused. -/
theorem furnished_stores_front :
    let made := { vacant with mode := .remote }.compilation {} halfTaken "$init" furnished
    ∃ stored index plan planner count, furnished.documents.Loads "demo" stored index ∧
      ({} : Compiler).plan halfTaken "$init" = .ok (plan, planner) ∧
      count < plan.triggers.length ∧ made.compiler = {} ∧
      made.around.documents.loadTriggers "demo" =
        .ok (Call.filed stored ((plan.triggers.take count).map Submission.kept)) ∧
      (made.around.documents.loadTriggers "demo").toOption.map Dict.keys =
        some ["Ready", "Stop"] := by
  intro made
  have present : furnished.documents.spaceExists "demo" = true := by decide +kernel
  have named : (made.around.documents.loadTriggers "demo").toOption.map Dict.keys =
      some ["Ready", "Stop"] := by
    decide +kernel
  have fails : made.result.isOk = false := by decide +kernel
  have empty : Dict.Ascending ([] : Dict Trigger) := .nil
  have listing : Dict.Ascending ([("go", ["Ready"])] : SourceEvents) :=
    List.pairwise_singleton _ _
  have loads : furnished.documents.Loads "demo" _ _ := ⟨present,
    Documents.loadTriggers_of_ascending (Call.ascending_filed empty [(waiting "Ready").trigger])
      Documents.get?_triggers_rewritten,
    Documents.loadIndex_of_ascending listing Documents.get?_sourceEvents_rewritten⟩
  have remote : { vacant with mode := .remote }.mode = .remote := rfl
  obtain ⟨refused, passes⟩ := compilation_stores_front remote rfl rfl loads {} halfTaken "$init"
  cases planned : ({} : Compiler).plan halfTaken "$init" with
  | error cause =>
    have succeeds : (({} : Compiler).plan halfTaken "$init").isOk = true := by decide +kernel
    rw [planned] at succeeds
    cases succeeds
  | ok both =>
    obtain ⟨plan, planner⟩ := both
    obtain ⟨count, bounded, loaded, -, -, -, whole, -, back, -⟩ := passes plan planner planned
    cases result : made.result with
    | ok id =>
      rw [result] at fails
      cases fails
    | error cause =>
      refine ⟨_, _, plan, planner, count, loads, rfl, ?_, back cause result, loaded, named⟩
      refine lt_of_le_of_ne bounded fun all => ?_
      obtain ⟨id, succeeded⟩ := whole.mpr all
      cases result.symm.trans succeeded

end TriggerStore

end EventFlow
