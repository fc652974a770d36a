import EventFlow.Proofs.Api.Batches
import EventFlow.Proofs.Api.Committing

/-!
# The two modes of a store

A caching store gathers triggers and sends them in one batch, a remote one passes each of
them on at once. Over the documents at hand it makes no difference which of them is given
submissions with ids of their own: either both modes come through, or neither does, and what
is stored in the end is the same.
-/

namespace EventFlow

namespace TriggerStore

variable {store after : TriggerStore} {submission : Submission} {submissions : List Submission}
  {space : String} {around behind : Surroundings}

/-! ## Submissions -/

/-- Submissions all come through behind others, and leave this store and these
surroundings. -/
def Submits (store : TriggerStore) (ids : List String) (submissions : List Submission)
    (around : Surroundings) (after : TriggerStore) (behind : Surroundings) : Prop :=
  let submitted := store.submit ids around submissions
  submitted.result = .ok () ∧ submitted.store = after ∧ submitted.around = behind

/-- Without submissions nothing happens. -/
theorem submits_nil_iff {ids : List String} :
    store.Submits ids [] around after behind ↔ after = store ∧ behind = around := by
  unfold Submits
  rw [submit]
  constructor
  · rintro ⟨-, rfl, rfl⟩
    exact ⟨rfl, rfl⟩
  · rintro ⟨rfl, rfl⟩
    exact ⟨rfl, rfl, rfl⟩

/-- Submissions come through if the first one is added, and then the others. -/
theorem submits_cons_iff {ids : List String} {rest : List Submission} :
    store.Submits ids (submission :: rest) around after behind ↔
      ∃ id next middle, (store.add "" submission).perform around = (.ok (id, next), middle) ∧
        next.Submits (ids ++ [id]) rest middle after behind := by
  unfold Submits add
  simp only [going_eq_ok_iff]
  rw [submit]
  rcases (Client.add "" submission).perform ⟨store, around⟩ with ⟨cause | id, next⟩
  · simp
  · cases next
    simp

/-! ## Caching -/

/-- A caching store takes acceptable submissions with free ids, and keeps their triggers. -/
theorem submits_cached_iff (mode : store.mode = .cached) (active : store.space = some space)
    (named : ∀ submission ∈ submissions, submission.id.isSome) {ids : List String} :
    store.Submits ids submissions around after behind ↔
      (∀ submission ∈ submissions, submission.Acceptable) ∧
        store.Frees (submissions.map Submission.trigger) ∧
        after = store.keepAll (submissions.map Submission.trigger) ∧ behind = around := by
  induction submissions generalizing store ids with
  | nil => simp [submits_nil_iff, frees_nil, keepAll]
  | cons submission rest ih =>
    obtain ⟨own, others⟩ := List.forall_mem_cons.mp named
    let next := store.keep submission.trigger.id submission.trigger
    have onward : ∀ ids, next.Submits ids rest around after behind ↔
        (∀ submission ∈ rest, submission.Acceptable) ∧ next.Frees (rest.map Submission.trigger) ∧
          after = next.keepAll (rest.map Submission.trigger) ∧ behind = around :=
      fun _ => ih (show next.mode = .cached from mode) active others
    rw [submits_cons_iff, List.forall_mem_cons, List.map_cons, frees_cons_iff]
    constructor
    · rintro ⟨id, _, middle, added, submits⟩
      obtain ⟨_, _, checked, rfl, free, rfl, rfl⟩ := (perform_add_eq_ok_iff mode).mp added
      obtain ⟨-, acceptable, rfl⟩ := checked_eq_ok_iff.mp checked
      obtain ⟨accepted, frees, kept, same⟩ := (onward _).mp submits
      exact ⟨⟨acceptable, accepted⟩, ⟨free own, frees⟩, kept, same⟩
    · rintro ⟨⟨acceptable, accepted⟩, ⟨free, frees⟩, kept, same⟩
      have checked := checked_eq_ok_iff.mpr ⟨active, acceptable, rfl⟩
      have added : (store.add "" submission).perform around =
          (.ok (submission.trigger.id, next), around) :=
        (perform_add_eq_ok_iff mode).mpr ⟨space, _, checked, rfl, fun _ => free, rfl, rfl⟩
      exact ⟨_, next, around, added, (onward _).mpr ⟨accepted, frees, kept, same⟩⟩

/-! ## Passing on -/

/-- A remote store passes the trigger of an acceptable submission on, and stays as it is. -/
theorem perform_add_remote_eq_ok_iff (mode : store.mode = .remote)
    (direct : store.transport = .direct) (active : store.space = some space) {fresh id : String} :
    (store.add fresh submission).perform around = (.ok (id, after), behind) ↔
      submission.Acceptable ∧ id = submission.id.getD fresh ∧ after = store ∧
        ∃ documents, Call.store around.documents space
            [submission.toTrigger id submission.context.fields] = .ok documents ∧
          behind = { around with documents } := by
  have performed := perform_add store fresh submission around
  rw [mode, direct] at performed
  unfold add
  rw [going_eq_ok_iff, performed]
  constructor
  · intro added
    split at added
    · cases added
    · next here context checked =>
      obtain ⟨same, acceptable, rfl⟩ := checked_eq_ok_iff.mp checked
      obtain rfl : space = here := Option.some.inj (active.symm.trans same)
      dsimp only at added
      split at added
      · cases added
      · next answer middle stored =>
        cases added
        exact ⟨acceptable, rfl, rfl, Transport.perform_storeTriggers_eq_ok_iff.mp ⟨answer, stored⟩⟩
  · rintro ⟨acceptable, rfl, rfl, stored⟩
    obtain ⟨answer, stored⟩ := Transport.perform_storeTriggers_eq_ok_iff.mpr stored
    rw [checked_eq_ok_iff.mpr ⟨active, acceptable, rfl⟩]
    dsimp only
    rw [stored]

/-- A remote store takes acceptable submissions whose triggers can be stored one after the
other. -/
theorem submits_remote_iff (mode : store.mode = .remote) (direct : store.transport = .direct)
    (active : store.space = some space)
    (named : ∀ submission ∈ submissions, submission.id.isSome) {ids : List String} :
    store.Submits ids submissions around after behind ↔
      (∀ submission ∈ submissions, submission.Acceptable) ∧ after = store ∧
        ∃ documents, Call.storeEach around.documents space
            (submissions.map Submission.trigger) = .ok documents ∧
          behind = { around with documents } := by
  induction submissions generalizing around ids with
  | nil =>
    rw [submits_nil_iff]
    constructor
    · rintro ⟨rfl, rfl⟩
      exact ⟨by simp, rfl, _, rfl, rfl⟩
    · rintro ⟨-, rfl, documents, each, rfl⟩
      cases each
      exact ⟨rfl, rfl⟩
  | cons submission rest ih =>
    obtain ⟨own, others⟩ := List.forall_mem_cons.mp named
    rw [submits_cons_iff, List.forall_mem_cons, List.map_cons]
    simp only [perform_add_remote_eq_ok_iff mode direct active]
    constructor
    · rintro ⟨id, next, middle, ⟨acceptable, rfl, rfl, first, stored, rfl⟩, submits⟩
      obtain ⟨accepted, kept, documents, each, same⟩ := (ih others).mp submits
      refine ⟨⟨acceptable, accepted⟩, kept, documents, ?_, same⟩
      exact Failing.bind_eq_ok.mpr ⟨first, stored, each⟩
    · rintro ⟨⟨acceptable, accepted⟩, kept, documents, each, same⟩
      obtain ⟨first, stored, each⟩ := Failing.bind_eq_ok.mp each
      exact ⟨_, store, _, ⟨acceptable, rfl, rfl, first, stored, rfl⟩,
        (ih others).mpr ⟨accepted, kept, documents, each, same⟩⟩

/-! ## Agreement -/

/-- Submissions are gathered in an empty caching store and committed if they are acceptable
and their triggers can be stored as a batch. -/
theorem gathered_iff (mode : store.mode = .cached) (cache : store.cache = [])
    (order : store.order = []) (direct : store.transport = .direct)
    (active : store.space = some space) (nonempty : submissions ≠ [])
    (named : ∀ submission ∈ submissions, submission.id.isSome) :
    (store.submit [] around submissions).result = .ok () ∧
        (∃ answer, (store.submit [] around submissions).store.commit.perform
          (store.submit [] around submissions).around = (.ok answer, behind)) ↔
      (∀ submission ∈ submissions, submission.Acceptable) ∧
        ∃ documents, Call.store around.documents space
            (submissions.map Submission.trigger) = .ok documents ∧
          behind = { around with documents } := by
  let triggers := submissions.map Submission.trigger
  let full := store.keepAll triggers
  have coherent : store.Coherent := .empty mode cache order
  have committed : store.Frees triggers →
      ((∃ answer, full.commit.perform around = (.ok answer, behind)) ↔
        ∃ documents, Call.store around.documents space triggers = .ok documents ∧
          behind = { around with documents }) := by
    intro frees
    obtain ⟨kept, held⟩ := coherent.keepAll frees
    have gathered : full.held = triggers := by
      rw [held, TriggerStore.held, order]
      rfl
    have filled : full.cache ≠ [] := by
      intro empty
      have none : triggers = [] := by
        rw [← gathered, TriggerStore.held, empty]
        simp
      exact nonempty (List.map_eq_nil_iff.mp none)
    have same := store.keepAll_eq triggers
    rw [perform_commit_eq_ok_iff kept ((congrArg transport same).trans direct)
      ((congrArg TriggerStore.space same).trans active), gathered]
    exact and_iff_right filled
  constructor
  · rintro ⟨result, sent⟩
    obtain ⟨acceptable, frees, left, here⟩ :=
      (submits_cached_iff mode active named).mp ⟨result, rfl, rfl⟩
    rw [left, here] at sent
    exact ⟨acceptable, (committed frees).mp sent⟩
  · rintro ⟨acceptable, documents, stored, rfl⟩
    -- A batch that can be stored has distinct ids, and none of them is in the empty cache.
    have frees : store.Frees triggers := by
      obtain ⟨-, _, _, -, -, free, -⟩ := Call.store_eq_ok_iff.mp stored
      exact ⟨(Call.firstTaken?_eq_none_iff.mp free).1, by simp [cache]⟩
    obtain ⟨result, left, here⟩ :=
      (submits_cached_iff mode active named).mpr ⟨acceptable, frees, rfl, rfl⟩
    refine ⟨result, ?_⟩
    rw [left, here]
    exact (committed frees).mpr ⟨documents, stored, rfl⟩

/-- Submissions are passed on if they are acceptable and their triggers can be stored as a
batch. -/
theorem passed_iff (mode : store.mode = .remote) (direct : store.transport = .direct)
    (active : store.space = some space) (nonempty : submissions ≠ [])
    (named : ∀ submission ∈ submissions, submission.id.isSome) :
    (store.submit [] around submissions).result = .ok () ∧
        (store.submit [] around submissions).around = behind ↔
      (∀ submission ∈ submissions, submission.Acceptable) ∧
        ∃ documents, Call.store around.documents space
            (submissions.map Submission.trigger) = .ok documents ∧
          behind = { around with documents } := by
  have filled : submissions.map Submission.trigger ≠ [] := by simpa using nonempty
  simp only [← Call.storeEach_eq_ok_iff filled]
  constructor
  · rintro ⟨result, here⟩
    obtain ⟨acceptable, -, each⟩ :=
      (submits_remote_iff mode direct active named).mp ⟨result, rfl, here⟩
    exact ⟨acceptable, each⟩
  · rintro ⟨acceptable, each⟩
    obtain ⟨result, -, here⟩ :=
      (submits_remote_iff mode direct active named).mpr ⟨acceptable, rfl, each⟩
    exact ⟨result, here⟩

/-- Submissions with ids of their own are given to an empty caching store, which then commits
them, and to a remote store for the same namespace. Either all of them come through in both
ways, or in neither. If they do, then the documents are the same in the end: the triggers are
filed with those that were stored, each is listed behind those that waited before, and nothing
else is touched. -/
theorem modes_agree {caching passing : TriggerStore} (cached : caching.mode = .cached)
    (remote : passing.mode = .remote) (cache : caching.cache = []) (order : caching.order = [])
    (first : caching.transport = .direct) (second : passing.transport = .direct)
    (active : caching.space = some space) (same : passing.space = some space)
    (nonempty : submissions ≠ []) (named : ∀ submission ∈ submissions, submission.id.isSome)
    (around : Surroundings) :
    let gathered := caching.submit [] around submissions
    let committed := gathered.store.commit.perform gathered.around
    let passed := passing.submit [] around submissions
    ((gathered.result = .ok () ∧ ∃ answer, committed.1 = .ok answer) ↔ passed.result = .ok ()) ∧
      (passed.result = .ok () →
        committed.2.documents = passed.around.documents ∧
        (∃ stored index, around.documents.loadTriggers space = .ok stored ∧
          around.documents.loadIndex space = .ok index ∧
          passed.around.documents.get? space Documents.triggers = some (Documents.ofTriggers
            (Call.filed stored (submissions.map Submission.trigger))) ∧
          passed.around.documents.get? space Documents.sourceEvents = some (SourceEvents.toJson
            ((submissions.map Submission.trigger).foldl SourceEvents.add index))) ∧
        (∀ name, name ≠ Documents.triggers → name ≠ Documents.sourceEvents →
          passed.around.documents.get? space name = around.documents.get? space name) ∧
        ∀ other, other ≠ space →
          Dict.get? passed.around.documents other = Dict.get? around.documents other) := by
  intro gathered committed passed
  have agree : ∀ behind, (gathered.result = .ok () ∧
      ∃ answer, gathered.store.commit.perform gathered.around = (.ok answer, behind)) ↔
        passed.result = .ok () ∧ passed.around = behind := fun behind =>
    (gathered_iff cached cache order first active nonempty named).trans
      (passed_iff remote second same nonempty named).symm
  refine ⟨⟨fun ⟨result, answer, sent⟩ => ?_, fun result => ?_⟩, fun result => ?_⟩
  · exact ((agree committed.2).mp ⟨result, answer, Prod.ext sent rfl⟩).1
  · obtain ⟨result, answer, sent⟩ := (agree passed.around).mpr ⟨result, rfl⟩
    exact ⟨result, answer, congrArg Prod.fst sent⟩
  · obtain ⟨-, _, sent⟩ := (agree passed.around).mpr ⟨result, rfl⟩
    obtain ⟨-, documents, succeeded, here⟩ :=
      (passed_iff remote second same nonempty named).mp ⟨result, rfl⟩
    obtain ⟨-, stored, index, loaded, known, -, rfl⟩ := Call.store_eq_ok_iff.mp succeeded
    rw [here]
    refine ⟨?_, ⟨stored, index, loaded, known, Documents.get?_triggers_rewritten,
      Documents.get?_sourceEvents_rewritten⟩,
      fun name first second => Documents.get?_rewritten_of_ne first.symm second.symm,
      fun other different => Documents.get?_rewritten_of_space_ne different⟩
    exact congrArg Surroundings.documents ((congrArg Prod.snd sent).trans here)

/-- A trigger that waits for one kind of event. -/
def waiting (id : String) : Submission :=
  (Submission.waitingFor [⟨"go", "started"⟩]).persistent id

/-- Surroundings in which there is a namespace with a trigger. -/
def furnished : Surroundings :=
  { documents := (Call.writeNamespace [] "demo" [] none).rewritten "demo"
      (Call.filed [] [(waiting "Ready").trigger]) [("go", ["Ready"])] }

/-- Two triggers come through both ways. With a third one neither way is open, as its id is
that of a stored trigger. -/
theorem sample_modes_agree :
    let passing := { vacant with mode := .remote }
    let submissions := [waiting "Stop", waiting "Go"]
    let taken := [waiting "Stop", waiting "Go", waiting "Ready"]
    let gathered := vacant.submit [] furnished submissions
    let passed := passing.submit [] furnished submissions
    passed.result = .ok () ∧
      (gathered.store.commit.perform gathered.around).2.documents = passed.around.documents ∧
      (passing.submit [] furnished taken).result ≠ .ok () ∧
      (vacant.submit [] furnished taken).result = .ok () ∧
      ∀ answer, ((vacant.submit [] furnished taken).store.commit.perform
        (vacant.submit [] furnished taken).around).1 ≠ .ok answer := by
  intro passing submissions taken gathered passed
  have came : ∀ result : Except Failure Unit, result.isOk = true → result = .ok () := by
    rintro (cause | ⟨⟩) succeeds
    · cases succeeds
    · rfl
  have result : passed.result = .ok () := came _ (by decide +kernel)
  have kept : (vacant.submit [] furnished taken).result = .ok () := came _ (by decide +kernel)
  have refused : (passing.submit [] furnished taken).result ≠ .ok () := by
    have fails : (passing.submit [] furnished taken).result.isOk = false := by decide +kernel
    intro succeeded
    rw [succeeded] at fails
    cases fails
  have caches : vacant.mode = .cached := rfl
  have passes : passing.mode = .remote := rfl
  have some : submissions ≠ [] := by decide
  have more : taken ≠ [] := by decide
  have agreement := modes_agree caches passes rfl rfl rfl rfl rfl rfl some (by decide) furnished
  have disagreement := modes_agree caches passes rfl rfl rfl rfl rfl rfl more (by decide) furnished
  exact ⟨result, (agreement.2 result).1, refused, kept, fun answer sent =>
    refused (disagreement.1.mp ⟨kept, answer, sent⟩)⟩

end TriggerStore

end EventFlow
