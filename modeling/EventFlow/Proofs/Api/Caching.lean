import EventFlow.Api.TriggerStore
import EventFlow.Proofs.Api.Applied
import EventFlow.Proofs.Dict
import EventFlow.Proofs.Workflow.Emission

/-!
# Caching stores

A caching store keeps its triggers twice, by id and in the order in which they came. Both
speak of the same ids in every store that can be reached, so what is put into the cache and
dropped again leaves no trace. Hence a compilation adds all triggers of its plan behind
those that are there, or it changes nothing.
-/

namespace EventFlow

namespace Dict

variable {α : Type}

/-- An entry that is filtered out might as well not have been inserted. -/
theorem filter_insert_of_not {keep : String → Bool} {key : String} (dropped : keep key = false)
    (entries : Dict α) (value : α) :
    (insert entries key value).filter (fun entry => keep entry.1) =
      entries.filter fun entry => keep entry.1 := by
  induction entries with
  | nil => simp [insert, dropped]
  | cons entry rest ih =>
      obtain ⟨name, old⟩ := entry
      simp only [insert]
      split
      · next same =>
        subst same
        simp [dropped]
      · split
        · rw [List.filter_cons_of_neg (by simpa using dropped)]
        · rw [List.filter_cons, List.filter_cons, ih]

/-- To erase a key that is not there changes nothing. -/
theorem erase_of_get?_eq_none {key : String} {entries : Dict α} (absent : get? entries key = none) :
    erase entries key = entries :=
  List.filter_eq_self.mpr fun entry member => by
    refine decide_eq_true fun same => get?_eq_none_iff.mp absent ?_
    exact same ▸ List.mem_map_of_mem member

end Dict

/-! ## Submissions -/

/-- A submission that does not contradict itself: it is not both transient and named, and
its context is an object or null. -/
structure Submission.Acceptable (submission : Submission) : Prop where
  unnamed : submission.transient = true → submission.id = none
  context : ∃ fields, TriggerStore.submittedContext submission.context = .ok fields

/-! ## Clients -/

namespace Client

/-- What a store is asked for comes to what it says, and leaves the store. -/
theorem perform_ask {α : Type} (asking : TriggerStore → Effect α) (store : TriggerStore)
    (around : Surroundings) :
    (ask asking).perform ⟨store, around⟩ =
      (((asking store).perform around).1, ⟨store, ((asking store).perform around).2⟩) :=
  rfl

/-- What is done within a store succeeds with the store alone. -/
theorem perform_within_eq_ok_iff {α : Type} {change : Change TriggerStore α} {value : α}
    {store after : TriggerStore} {around behind : Surroundings} :
    (within change).perform ⟨store, around⟩ = (.ok value, ⟨after, behind⟩) ↔
      change.perform store = (.ok value, after) ∧ behind = around := by
  have performed : (within change).perform ⟨store, around⟩ =
      ((change.perform store).1, ⟨(change.perform store).2, around⟩) := rfl
  rw [performed]
  rcases change.perform store with ⟨cause | other, next⟩ <;> simp [and_assoc, eq_comm]

/-- Asking never touches the store. -/
theorem leaves_ask {α : Type} (asking : TriggerStore → Effect α) :
    (ask asking).Leaves Client.store :=
  fun _ => rfl

/-- A change that leaves the store where it fails does so among the surroundings. -/
theorem spares_within {α : Type} {change : Change TriggerStore α} (spares : change.Spares id) :
    (within change).Spares Client.store :=
  fun client cause failed => spares client.store cause failed

end Client

namespace TriggerStore

variable {store after : TriggerStore} {id space : String} {trigger : Trigger}
  {submission : Submission} {context : Dict Json}

/-- The fields of a context that is accepted are submitted. -/
theorem fields_of_submittedContext {json : Json} (accepted : submittedContext json = .ok context) :
    context = json.fields := by
  cases json <;> cases accepted <;> rfl

/-- A submission passes the checks of a store if a namespace is active and it is
acceptable. -/
theorem checked_eq_ok_iff :
    store.checked submission = .ok (space, context) ↔
      store.space = some space ∧ submission.Acceptable ∧ context = submission.context.fields := by
  have accepted : ∀ here : String,
      (do let context ← submittedContext submission.context; .ok (here, context)) =
          Except.ok (space, context) ↔
        here = space ∧ (∃ fields, submittedContext submission.context = .ok fields) ∧
          context = submission.context.fields := by
    intro here
    rw [Failing.bind_eq_ok]
    constructor
    · rintro ⟨fields, read, equal⟩
      cases equal
      exact ⟨rfl, ⟨_, read⟩, fields_of_submittedContext read⟩
    · rintro ⟨rfl, ⟨fields, read⟩, rfl⟩
      exact ⟨fields, read, by rw [fields_of_submittedContext read]⟩
  unfold checked activeSpace
  cases store.space with
  | none => exact iff_of_false nofun (fun both => nomatch both.1)
  | some here =>
    rw [Failing.ok_bind, Option.some.injEq]
    split
    · next id transient named =>
      refine iff_of_false nofun fun ⟨_, acceptable, _⟩ => ?_
      cases named.symm.trans (acceptable.unnamed transient)
    · next contradiction =>
      rw [accepted]
      refine and_congr_right fun _ => and_congr_left fun _ =>
        ⟨fun context => ⟨fun transient => ?_, context⟩, Submission.Acceptable.context⟩
      cases named : submission.id with
      | none => rfl
      | some id => exact absurd named (contradiction id transient)

/-! ## Cache and order -/

/-- Drop a trigger from the cache and from the order. -/
def drop (store : TriggerStore) (id : String) : TriggerStore :=
  { store with
    cache := Dict.erase store.cache id
    order := store.order.filter (· ≠ id) }

/-- A caching store whose cache and order speak of the same ids, each once, and whose
triggers are kept under their own ids. -/
structure Coherent (store : TriggerStore) : Prop where
  mode : store.mode = .cached
  ascending : Dict.Ascending store.cache
  distinct : store.order.Nodup
  listed : ∀ id, id ∈ store.order ↔ ∃ trigger, Dict.get? store.cache id = some trigger
  named : ∀ id trigger, Dict.get? store.cache id = some trigger → trigger.id = id

namespace Coherent

/-- A store for another namespace is as coherent. -/
theorem inSpace (coherent : store.Coherent) (space : Option String) :
    ({ store with space } : TriggerStore).Coherent :=
  { coherent with }

/-- An empty caching store is coherent. -/
theorem empty (mode : store.mode = .cached) (cache : store.cache = []) (order : store.order = []) :
    store.Coherent where
  mode := mode
  ascending := by simp [cache, Dict.Ascending, Dict.keys]
  distinct := by simp [order]
  listed := by simp [cache, order]
  named := by simp [cache]

/-- Keeping a trigger under a new id of its own keeps a store coherent. -/
theorem keep (coherent : store.Coherent) (new : Dict.get? store.cache trigger.id = none) :
    (store.keep trigger.id trigger).Coherent where
  mode := coherent.mode
  ascending := coherent.ascending.insert _ _
  distinct := by
    have absent : trigger.id ∉ store.order := by simp [coherent.listed, new]
    simpa [TriggerStore.keep] using coherent.distinct.concat absent
  listed id := by
    simp only [TriggerStore.keep, List.mem_append, List.mem_singleton, coherent.listed,
      Dict.get?_insert]
    by_cases same : id = trigger.id
    · simp [same]
    · simp [same, Ne.symm same]
  named id other found := by
    simp only [TriggerStore.keep, Dict.get?_insert] at found
    split at found
    · next same =>
      cases found
      exact same
    · exact coherent.named id other found

/-- Dropping a trigger keeps a store coherent. -/
theorem drop (coherent : store.Coherent) (id : String) : (store.drop id).Coherent where
  mode := coherent.mode
  ascending := List.Pairwise.sublist (List.filter_sublist.map Prod.fst) coherent.ascending
  distinct := coherent.distinct.filter _
  listed other := by
    simp only [TriggerStore.drop, List.mem_filter, coherent.listed, Dict.get?_erase]
    by_cases same : id = other
    · simp [same]
    · simp [same, Ne.symm same]
  named other trigger found := by
    simp only [TriggerStore.drop, Dict.get?_erase] at found
    split at found
    · cases found
    · exact coherent.named other trigger found

/-- Putting a trigger in the place of another one keeps a store coherent. -/
theorem amend (coherent : store.Coherent) {present : Trigger}
    (found : Dict.get? store.cache id = some present) :
    ({ store with cache := Dict.insert store.cache id { trigger with id } } : TriggerStore).Coherent where
  mode := coherent.mode
  ascending := coherent.ascending.insert _ _
  distinct := coherent.distinct
  listed other := by
    simp only [coherent.listed, Dict.get?_insert]
    by_cases same : id = other
    · subst same
      simp [found]
    · simp [same]
  named other kept stands := by
    simp only [Dict.get?_insert] at stands
    split at stands
    · next same =>
      cases stands
      exact same
    · exact coherent.named other kept stands

end Coherent

/-! ## Single operations -/

/-- A change of a store that succeeds gives the store to go on with. -/
theorem going_eq_ok_iff {α : Type} {change : Change Client α} {value : α}
    {around behind : Surroundings} :
    (store.going change).perform around = (.ok (value, after), behind) ↔
      change.perform ⟨store, around⟩ = (.ok value, ⟨after, behind⟩) := by
  have performed : (store.going change).perform around =
      ((change.perform ⟨store, around⟩).1.map fun value =>
        (value, (change.perform ⟨store, around⟩).2.store),
      (change.perform ⟨store, around⟩).2.around) := rfl
  rw [performed]
  rcases change.perform ⟨store, around⟩ with ⟨cause | other, client⟩
  · simp [Except.map]
  · cases client
    simp [Except.map, and_assoc]

/-- A namespace that is created becomes the active one. -/
theorem perform_createNamespace {name : String} {globalContext : Option Json}
    {source : Option EventSource} {answer : Json} {around behind : Surroundings}
    (created : (store.createNamespace name globalContext source).perform around =
      (.ok (answer, after), behind)) : after = { store with space := some name } := by
  obtain ⟨fields, first, read, created⟩ := Change.perform_bind_eq_ok.mp (going_eq_ok_iff.mp created)
  obtain ⟨answer, second, called, created⟩ := Change.perform_bind_eq_ok.mp created
  have same : second.store = store :=
    ((Client.leaves_ask _).same called).trans ((Change.leaves_lift _).same read)
  cases created
  exact congrArg (fun store => { store with space := some name }) same

/-- Whatever namespace is deleted, the triggers are those that were there. -/
theorem perform_deleteNamespace {name : Option String} {answer : Json} {around behind : Surroundings}
    (deleted : (store.deleteNamespace name).perform around = (.ok (answer, after), behind)) :
    ∃ space, after = { store with space } := by
  obtain ⟨name, first, named, deleted⟩ := Change.perform_bind_eq_ok.mp (going_eq_ok_iff.mp deleted)
  obtain ⟨answer, second, called, deleted⟩ := Change.perform_bind_eq_ok.mp deleted
  have same : second.store = store :=
    ((Client.leaves_ask _).same called).trans ((Client.leaves_ask _).same named)
  cases deleted
  dsimp only
  rw [same]
  split
  · exact ⟨none, rfl⟩
  · exact ⟨store.space, rfl⟩

/-- What adding a trigger comes to: a submission that passes the checks is kept by a caching
store, if its id is not taken, and passed on by a remote one. Only the former changes the
store. -/
theorem perform_add (store : TriggerStore) (fresh : String) (submission : Submission)
    (around : Surroundings) :
    (Client.add fresh submission).perform ⟨store, around⟩ =
      match store.checked submission with
      | .error cause => (.error cause, ⟨store, around⟩)
      | .ok (space, context) =>
        let id := submission.id.getD fresh
        let trigger := submission.toTrigger id context
        match store.mode with
        | .cached =>
          if submission.id.isSome && (Dict.get? store.cache id).isSome then
            (.error (.duplicateTrigger id), ⟨store, around⟩)
          else (.ok id, ⟨store.keep id trigger, around⟩)
        | .remote =>
          match (store.transport.perform (.storeTriggers space [trigger])).perform around with
          | (.error cause, behind) => (.error cause, ⟨store, behind⟩)
          | (.ok _, behind) => (.ok id, ⟨store, behind⟩) := by
  simp only [Client.add, Client.call, Change.perform_bind, Client.perform_ask, Change.perform_lift,
    Change.perform_get]
  cases store.checked submission with
  | error cause => rfl
  | ok both =>
    obtain ⟨space, context⟩ := both
    obtain ⟨transport, credentials, mode, active, cache, order⟩ := store
    cases mode with
    | cached =>
      dsimp only
      split <;> rfl
    | remote =>
      simp only [Change.perform_bind, Client.perform_ask, Change.perform_pure]
      rcases (transport.perform _).perform around with ⟨cause | answer, behind⟩ <;> rfl

/-- Adding to a caching store keeps the trigger of a checked submission under its id,
which must be new if the submission has it, and changes nothing else. -/
theorem perform_add_eq_ok_iff (mode : store.mode = .cached) {fresh : String}
    {submission : Submission} {around behind : Surroundings} :
    (store.add fresh submission).perform around = (.ok (id, after), behind) ↔
      ∃ space context, store.checked submission = .ok (space, context) ∧
        id = submission.id.getD fresh ∧
        (submission.id.isSome → Dict.get? store.cache id = none) ∧
        after = store.keep id (submission.toTrigger id context) ∧ behind = around := by
  have performed := perform_add store fresh submission around
  rw [mode] at performed
  unfold add
  rw [going_eq_ok_iff, performed]
  constructor
  · intro added
    split at added
    · cases added
    · next space context checked =>
      dsimp only at added
      split at added
      · cases added
      · next free =>
        cases added
        simp only [Bool.and_eq_true, not_and, Bool.not_eq_true, Option.isSome_eq_false_iff,
          Option.isNone_iff_eq_none] at free
        exact ⟨space, context, checked, rfl, free, rfl, rfl⟩
  · rintro ⟨space, context, checked, rfl, free, rfl, rfl⟩
    rw [checked]
    exact if_neg (by simpa using free)

/-- What is added to a caching store is a trigger under its own id, which is new. -/
theorem perform_add_cached {fresh : String} {submission : Submission} {behind : Surroundings}
    (mode : store.mode = .cached) (new : submission.id = none → Dict.get? store.cache fresh = none)
    (added : (store.add fresh submission).perform around = (.ok (id, after), behind)) :
    let trigger := submission.toTrigger (submission.id.getD fresh) submission.context.fields
    Dict.get? store.cache trigger.id = none ∧ after = store.keep trigger.id trigger := by
  obtain ⟨space, context, checked, rfl, free, rfl, -⟩ := (perform_add_eq_ok_iff mode).mp added
  obtain ⟨-, -, rfl⟩ := checked_eq_ok_iff.mp checked
  refine ⟨?_, rfl⟩
  change Dict.get? store.cache (submission.id.getD fresh) = none
  cases named : submission.id with
  | none => exact new named
  | some id =>
    rw [named] at free
    exact free rfl

/-- What a removal comes to: only a caching store drops a trigger, and only one that it has. -/
theorem perform_removal (store : TriggerStore) (id : String) :
    (removal id).perform store =
      match store.requireCache "delete_trigger", Dict.get? store.cache id with
      | .error cause, _ => (.error cause, store)
      | .ok (), some trigger => (.ok trigger, store.drop id)
      | .ok (), none => (.error (.missing (.trigger id)), store) := by
  simp only [removal, Change.perform_bind, Change.perform_get, Change.perform_lift,
    Change.perform_set, cached]
  rcases store.requireCache "delete_trigger" with cause | ⟨⟩
  · rfl
  · cases absent : Dict.get? store.cache id with
    | none => simp only [Dict.erase_of_get?_eq_none absent]
    | some trigger => rfl

/-- What an amendment comes to: only a caching store changes a trigger, and only one that it
has. -/
theorem perform_amendment (store : TriggerStore) (id : String) (trigger : Trigger) :
    (amendment id trigger).perform store =
      match store.requireCache "amend_trigger", Dict.get? store.cache id with
      | .error cause, _ => (.error cause, store)
      | .ok (), some _ =>
        (.ok (), { store with cache := Dict.insert store.cache id { trigger with id } })
      | .ok (), none => (.error (.missing (.trigger id)), store) := by
  simp only [amendment, Change.perform_bind, Change.perform_get, Change.perform_lift,
    Change.perform_set, cached]
  rcases store.requireCache "amend_trigger" with cause | ⟨⟩
  · rfl
  · cases Dict.get? store.cache id <;> rfl

/-- A caching store need not be asked whether it caches. -/
theorem requireCache_of_cached (mode : store.mode = .cached) (operation : String) :
    store.requireCache operation = .ok () := by
  unfold requireCache
  rw [mode]

/-- Deleting a cached trigger drops it. -/
theorem deleteTrigger_eq (coherent : store.Coherent) (id : String) :
    store.deleteTrigger id =
      match Dict.get? store.cache id with
      | some trigger => .ok (trigger, store.drop id)
      | none => .error (.missing (.trigger id)) := by
  unfold deleteTrigger Change.success
  rw [perform_removal, requireCache_of_cached coherent.mode]
  cases Dict.get? store.cache id <;> rfl

/-- What is amended was cached, and its place is taken. -/
theorem amendTrigger_eq_ok (amended : store.amendTrigger id trigger = .ok after) :
    (∃ present, Dict.get? store.cache id = some present) ∧
      after = { store with cache := Dict.insert store.cache id { trigger with id } } := by
  unfold amendTrigger at amended
  cases came : (amendment id trigger).success store with
  | error cause =>
    rw [came] at amended
    cases amended
  | ok both =>
    rw [came] at amended
    cases amended
    have performed := Change.success_eq_ok_iff.mp came
    rw [perform_amendment] at performed
    split at performed
    · cases performed
    · next found =>
      exact ⟨⟨_, found⟩, (congrArg Prod.snd performed).symm⟩
    · cases performed

/-- A coherent store lists its triggers. -/
theorem Coherent.list_eq (coherent : store.Coherent) : store.list = .ok store.held := by
  unfold list
  rw [coherent.mode]

/-- The triggers kept last come last. -/
theorem held_keep (coherent : store.Coherent) (new : Dict.get? store.cache id = none) :
    (store.keep id trigger).held = store.held ++ [trigger] := by
  have others : ∀ other ∈ store.order,
      Dict.get? (Dict.insert store.cache id trigger) other = Dict.get? store.cache other := by
    intro other listed
    refine Dict.get?_insert_of_ne _ _ ?_
    rintro rfl
    obtain ⟨present, found⟩ := (coherent.listed _).mp listed
    cases new.symm.trans found
  simp only [held, keep, List.filterMap_append]
  rw [List.filterMap_congr others]
  simp

/-! ## Several triggers -/

/-- Keep triggers under their ids, one after the other. -/
def keepAll (store : TriggerStore) (triggers : List Trigger) : TriggerStore :=
  triggers.foldl (fun store trigger => store.keep trigger.id trigger) store

/-- Triggers can all be kept: their ids are distinct, and none is in the cache. -/
def Frees (store : TriggerStore) (triggers : List Trigger) : Prop :=
  (triggers.map Trigger.id).Nodup ∧
    ∀ trigger ∈ triggers, Dict.get? store.cache trigger.id = none

/-- Keeping triggers changes nothing but the cache and the order. -/
theorem keepAll_eq (store : TriggerStore) (triggers : List Trigger) :
    store.keepAll triggers =
      { store with
        cache := (store.keepAll triggers).cache
        order := (store.keepAll triggers).order } := by
  induction triggers generalizing store with
  | nil => rfl
  | cons trigger rest ih => exact ih _

/-- No trigger at all can be kept. -/
theorem frees_nil : store.Frees [] :=
  ⟨.nil, by simp⟩

/-- Triggers can be kept if the first one can, and the others can behind it. -/
theorem frees_cons_iff {rest : List Trigger} :
    store.Frees (trigger :: rest) ↔
      Dict.get? store.cache trigger.id = none ∧ (store.keep trigger.id trigger).Frees rest := by
  simp only [Frees, List.map_cons, List.nodup_cons, List.forall_mem_cons, keep, Dict.get?_insert]
  constructor
  · rintro ⟨⟨fresh, distinct⟩, first, others⟩
    refine ⟨first, distinct, fun other member => ?_⟩
    have different : trigger.id ≠ other.id := fun same =>
      fresh (same ▸ List.mem_map_of_mem member)
    rw [if_neg different]
    exact others other member
  · rintro ⟨first, distinct, others⟩
    have different : ∀ other ∈ rest, trigger.id ≠ other.id := by
      intro other member same
      have absent := others other member
      rw [if_pos same] at absent
      cases absent
    refine ⟨⟨fun listed => ?_, distinct⟩, first, fun other member => ?_⟩
    · obtain ⟨other, member, same⟩ := List.mem_map.mp listed
      exact different other member same.symm
    · simpa [different other member] using others other member

/-- Keeping free triggers keeps a store coherent and puts them behind the others. -/
theorem Coherent.keepAll {triggers : List Trigger} (coherent : store.Coherent)
    (frees : store.Frees triggers) :
    (store.keepAll triggers).Coherent ∧
      (store.keepAll triggers).held = store.held ++ triggers := by
  induction triggers generalizing store with
  | nil => exact ⟨coherent, (List.append_nil _).symm⟩
  | cons trigger rest ih =>
      obtain ⟨new, behind⟩ := frees_cons_iff.mp frees
      obtain ⟨kept, listed⟩ := ih (coherent.keep new) behind
      refine ⟨kept, listed.trans ?_⟩
      rw [held_keep coherent new, List.append_assoc]
      rfl

/-- Kept triggers that are filtered out leave the cache and the order as they were. -/
theorem filter_keepAll (store : TriggerStore) (keep : String → Bool) {triggers : List Trigger}
    (dropped : ∀ trigger ∈ triggers, keep trigger.id = false) :
    (store.keepAll triggers).cache.filter (fun entry => keep entry.1) =
        store.cache.filter (fun entry => keep entry.1) ∧
      (store.keepAll triggers).order.filter keep = store.order.filter keep := by
  induction triggers generalizing store with
  | nil => exact ⟨rfl, rfl⟩
  | cons trigger rest ih =>
      have first := dropped trigger List.mem_cons_self
      obtain ⟨cache, order⟩ := ih (store.keep trigger.id trigger)
        fun other member => dropped other (List.mem_cons_of_mem _ member)
      refine ⟨cache.trans (Dict.filter_insert_of_not first _ _), order.trans ?_⟩
      have grown : (store.keep trigger.id trigger).order = store.order ++ [trigger.id] := rfl
      rw [grown, List.filter_append, List.filter_cons_of_neg (by simpa using first)]
      exact List.append_nil _

/-! ## Withdrawing -/

/-- Dropping what is not in the cache changes nothing. -/
theorem drop_of_none (coherent : store.Coherent) (absent : Dict.get? store.cache id = none) :
    store.drop id = store := by
  have unlisted : id ∉ store.order := by simp [coherent.listed, absent]
  have order : store.order.filter (· ≠ id) = store.order :=
    List.filter_eq_self.mpr fun other member =>
      decide_eq_true fun same => unlisted (same ▸ member)
  unfold drop
  rw [Dict.erase_of_get?_eq_none absent, order]

/-- Withdrawing filters the cache and the order. -/
theorem withdraw_eq (coherent : store.Coherent) (ids : List String) :
    store.withdraw ids =
      { store with
        cache := store.cache.filter fun entry => decide (entry.1 ∉ ids)
        order := store.order.filter fun id => decide (id ∉ ids) } := by
  induction ids generalizing store with
  | nil => simp [withdraw]
  | cons id rest ih =>
      have dropped : store.withdraw (id :: rest) = (store.drop id).withdraw rest := by
        unfold withdraw
        rw [List.foldl_cons, perform_removal, requireCache_of_cached coherent.mode]
        cases absent : Dict.get? store.cache id with
        | none => rw [drop_of_none coherent absent]
        | some trigger => rfl
      rw [dropped, ih (coherent.drop id)]
      simp only [drop, Dict.erase, List.filter_filter, List.mem_cons, not_or, Bool.decide_and,
        ne_eq, Bool.and_comm]

/-- Triggers that were kept and are withdrawn leave no trace. -/
theorem withdraw_keepAll {triggers : List Trigger} (coherent : store.Coherent)
    (frees : store.Frees triggers) :
    (store.keepAll triggers).withdraw (triggers.map Trigger.id) = store := by
  have dropped : ∀ trigger ∈ triggers,
      decide (trigger.id ∉ triggers.map Trigger.id) = false := fun trigger member =>
    decide_eq_false (not_not_intro (List.mem_map_of_mem member))
  obtain ⟨cache, order⟩ :=
    filter_keepAll store (fun id => decide (id ∉ triggers.map Trigger.id)) dropped
  have unlisted : ∀ id, id ∈ store.order → id ∉ triggers.map Trigger.id := by
    intro id member listed
    obtain ⟨trigger, new, rfl⟩ := List.mem_map.mp listed
    obtain ⟨present, found⟩ := (coherent.listed _).mp member
    cases (frees.2 trigger new).symm.trans found
  have whole : store.cache.filter (fun entry => decide (entry.1 ∉ triggers.map Trigger.id)) =
      store.cache := List.filter_eq_self.mpr fun entry member => by
    have present : entry.1 ∈ store.order := (coherent.listed _).mpr
      (Dict.mem_keys_iff.mp (List.mem_map_of_mem member))
    exact decide_eq_true (unlisted entry.1 present)
  have all : store.order.filter (fun id => decide (id ∉ triggers.map Trigger.id)) = store.order :=
    List.filter_eq_self.mpr fun id member => decide_eq_true (unlisted id member)
  rw [withdraw_eq (coherent.keepAll frees).1, keepAll_eq]
  simp only [cache, order, whole, all]

end TriggerStore

end EventFlow
