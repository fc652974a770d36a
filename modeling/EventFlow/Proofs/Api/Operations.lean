import EventFlow.Proofs.Api.Compilations

/-!
# Sequences of operations

A store goes through operations of all kinds, in surroundings that answer as they like. The
triggers that it lists are followed from outside: what is added comes last, what is amended
stays where it is, what is deleted goes, and an operation that fails does nothing. However
long this goes on, cache and order keep speaking of exactly these triggers.
-/

namespace EventFlow

namespace TriggerStore

variable {store after : TriggerStore} {id : String} {trigger : Trigger}

/-! ## Listings -/

/-- The triggers held by a coherent store are those that are cached. -/
theorem Coherent.mem_held_iff (coherent : store.Coherent) :
    trigger ∈ store.held ↔ Dict.get? store.cache trigger.id = some trigger := by
  rw [held, List.mem_filterMap]
  constructor
  · rintro ⟨id, -, found⟩
    rwa [coherent.named id trigger found]
  · exact fun found => ⟨trigger.id, (coherent.listed _).mpr ⟨trigger, found⟩, found⟩

/-- The triggers held by a coherent store have the ids of its order. -/
theorem Coherent.map_id_held (coherent : store.Coherent) :
    store.held.map Trigger.id = store.order := by
  have own : ∀ id ∈ store.order, (Dict.get? store.cache id).map Trigger.id = some id := by
    intro id listed
    obtain ⟨trigger, found⟩ := (coherent.listed id).mp listed
    rw [found, Option.map_some, coherent.named id trigger found]
  rw [held, List.map_filterMap, List.filterMap_congr own, List.filterMap_some]

/-- A trigger that is dropped is no longer held. -/
theorem Coherent.held_drop (coherent : store.Coherent) (id : String) :
    (store.drop id).held = store.held.filter fun trigger => trigger.id ≠ id := by
  simp only [held, TriggerStore.drop, List.filterMap_filter, List.filter_filterMap, Dict.get?_erase]
  refine List.filterMap_congr fun other listed => ?_
  obtain ⟨trigger, found⟩ := (coherent.listed other).mp listed
  have own := coherent.named other trigger found
  by_cases same : other = id
  · subst same
    simp [found, Option.filter_some, own]
  · simp [found, Option.filter_some, own, same, Ne.symm same]

/-- A trigger that takes the place of another one is held there. -/
theorem Coherent.held_amend (coherent : store.Coherent) (id : String) (trigger : Trigger) :
    ({ store with cache := Dict.insert store.cache id { trigger with id } } : TriggerStore).held =
      store.held.map fun present => if present.id = id then { trigger with id } else present := by
  simp only [held, List.map_filterMap, Dict.get?_insert]
  refine List.filterMap_congr fun other listed => ?_
  obtain ⟨present, found⟩ := (coherent.listed other).mp listed
  have own := coherent.named other present found
  by_cases same : id = other
  · subst same
    simp [found, own]
  · simp [found, own, same, Ne.symm same]

/-! ## Operations -/

/-- An operation of a store, with the id that is made up for a trigger without one. -/
inductive Operation where
  | createNamespace (name : String) (globalContext : Option Json) (source : Option EventSource)
  | deleteNamespace (name : Option String)
  | target (space : String)
  | addSource (source : EventSource) (overwrite : Bool)
  | add (fresh : String) (submission : Submission)
  | getTrigger (id : String)
  | deleteTrigger (id : String)
  | amendTrigger (id : String) (trigger : Trigger)
  | commit
  | list
  | flush
  | compile (compiler : Compiler) (workflow : Level) (initial : String)

namespace Operation

/-- What an operation does to a store and its surroundings. -/
def change : Operation → Change Client Unit
  | .createNamespace name globalContext source =>
    discard (Client.createNamespace name globalContext source)
  | .deleteNamespace name => discard (Client.deleteNamespace name)
  | .target space => Client.within (modify (·.target space))
  | .addSource source overwrite => discard (Client.ask (·.addSource source overwrite))
  | .add fresh submission => discard (Client.add fresh submission)
  | .getTrigger id => discard (Client.ask fun store => Change.lift (store.getTrigger id))
  | .deleteTrigger id => discard (Client.within (removal id))
  | .amendTrigger id trigger => Client.within (amendment id trigger)
  | .commit => discard (Client.ask TriggerStore.commit)
  | .list => discard (Client.ask fun store => Change.lift store.list)
  | .flush => Client.within (modify TriggerStore.flush)
  | .compile compiler workflow initial =>
    ExceptT.mk fun client =>
      let made := client.store.compilation compiler workflow initial client.around
      (made.result.map fun _ => (), ⟨made.store, made.around⟩)

/-- What an operation comes to, and the store behind it. -/
def outcome (operation : Operation) (store : TriggerStore) (around : Surroundings) :
    Except Failure Unit × TriggerStore :=
  let (result, client) := operation.change.perform ⟨store, around⟩
  (result, client.store)

/-- The triggers that are listed after an operation that succeeds, given those that were
listed before. -/
def lists (operation : Operation) (listed : List Trigger) : List Trigger :=
  match operation with
  | .add fresh submission =>
    listed ++ [submission.toTrigger (submission.id.getD fresh) submission.context.fields]
  | .deleteTrigger id => listed.filter fun trigger => trigger.id ≠ id
  | .amendTrigger id trigger =>
    listed.map fun present => if present.id = id then { trigger with id } else present
  | .flush => []
  | .compile compiler workflow initial =>
    match compiler.plan workflow initial with
    | .error _ => listed
    | .ok (plan, _) => listed ++ plan.triggers.map Submission.trigger
  | _ => listed

/-- The id that an operation makes up is not in the cache. -/
def Fresh (store : TriggerStore) : Operation → Prop
  | .add fresh submission => submission.id = none → Dict.get? store.cache fresh = none
  | _ => True

end Operation

variable {operation : Operation} {around : Surroundings}

/-- An operation comes to a success with its change, which leaves the store. -/
theorem outcome_eq_ok_iff :
    operation.outcome store around = (.ok (), after) ↔
      ∃ behind, operation.change.perform ⟨store, around⟩ = (.ok (), ⟨after, behind⟩) := by
  have came : operation.outcome store around =
      ((operation.change.perform ⟨store, around⟩).1,
        (operation.change.perform ⟨store, around⟩).2.store) := rfl
  rw [came]
  rcases operation.change.perform ⟨store, around⟩ with ⟨cause | ⟨⟩, client⟩
  · simp
  · cases client
    simp

/-- An operation whose value does not matter succeeds with the store that its change gives. -/
theorem going_of_outcome {α : Type} {change : Change Client α}
    (made : operation.change = discard change)
    (succeeded : operation.outcome store around = (.ok (), after)) :
    ∃ value behind, (store.going change).perform around = (.ok (value, after), behind) := by
  obtain ⟨behind, performed⟩ := outcome_eq_ok_iff.mp succeeded
  rw [made, Change.perform_discard_eq_ok_iff] at performed
  obtain ⟨value, performed⟩ := performed
  exact ⟨value, behind, going_eq_ok_iff.mpr performed⟩

/-- An operation within the store succeeds with the store that its change gives. -/
theorem within_of_outcome {change : Change TriggerStore Unit}
    (made : operation.change = Client.within change)
    (succeeded : operation.outcome store around = (.ok (), after)) :
    change.perform store = (.ok (), after) := by
  obtain ⟨behind, performed⟩ := outcome_eq_ok_iff.mp succeeded
  rw [made] at performed
  exact (Client.perform_within_eq_ok_iff.mp performed).1

/-- An operation that only asks leaves the store. -/
theorem outcome_of_ask {α : Type} {asking : TriggerStore → Effect α}
    (made : operation.change = discard (Client.ask asking))
    (succeeded : operation.outcome store around = (.ok (), after)) : after = store := by
  obtain ⟨value, behind, came⟩ := going_of_outcome made succeeded
  exact (Client.leaves_ask asking).same (going_eq_ok_iff.mp came)

/-- A compilation comes to what its result says, and leaves its store. -/
theorem outcome_compile (compiler : Compiler) (workflow : Level) (initial : String) :
    (Operation.compile compiler workflow initial).outcome store around =
      let made := store.compilation compiler workflow initial around
      (made.result.map fun _ => (), made.store) :=
  rfl

/-- A trigger that was deleted was there to be deleted. -/
theorem deleteTrigger_of_outcome
    (succeeded : (Operation.deleteTrigger id).outcome store around = (.ok (), after)) :
    ∃ trigger, store.deleteTrigger id = .ok (trigger, after) := by
  obtain ⟨behind, performed⟩ := outcome_eq_ok_iff.mp succeeded
  obtain ⟨trigger, removed⟩ := Change.perform_discard_eq_ok_iff.mp performed
  exact ⟨trigger, Change.success_eq_ok_iff.mpr (Client.perform_within_eq_ok_iff.mp removed).1⟩

/-- A trigger that was amended was there to be amended. -/
theorem amendTrigger_of_outcome
    (succeeded : (Operation.amendTrigger id trigger).outcome store around = (.ok (), after)) :
    store.amendTrigger id trigger = .ok after := by
  have amended : (amendment id trigger).perform store = (.ok (), after) :=
    within_of_outcome rfl succeeded
  rw [amendTrigger, Change.success_eq_ok_iff.mpr amended]
  rfl

/-! ## What single operations do -/

/-- What is added to a remote store leaves the store. -/
theorem store_add_remote (mode : store.mode = .remote) (fresh : String) (submission : Submission)
    (around : Surroundings) :
    ((Client.add fresh submission).perform ⟨store, around⟩).2.store = store := by
  rw [perform_add, mode]
  split
  · rfl
  · dsimp only
    split <;> rfl

/-- Submitting to a remote store leaves it, however far it comes. -/
theorem submit_remote (mode : store.mode = .remote) (ids : List String) (around : Surroundings)
    (submissions : List Submission) : (store.submit ids around submissions).store = store := by
  induction submissions generalizing ids around with
  | nil => rfl
  | cons submission rest ih =>
    rw [submit]
    have same := store_add_remote mode "" submission around
    rcases added : (Client.add "" submission).perform ⟨store, around⟩ with ⟨cause | id, next, middle⟩
    · rw [added] at same
      exact same
    · rw [added] at same
      obtain rfl : next = store := same
      exact ih _ _

/-- Compiling into a remote store leaves it, also where the compilation fails half-way. -/
theorem compilation_remote (mode : store.mode = .remote) {compiler : Compiler} {workflow : Level}
    {initial : String} : (store.compilation compiler workflow initial around).store = store := by
  have unmoved : ∀ submissions, (store.submit [] around submissions).store = store :=
    submit_remote mode [] around
  unfold compilation
  split
  · rfl
  · dsimp only
    split
    · exact unmoved _
    · rw [unmoved, mode]

/-! ## Steps of a caching store -/

/-- An operation that succeeds on a coherent store leaves a coherent store, which holds the
triggers that are now listed. -/
theorem Coherent.outcome_ok (coherent : store.Coherent) (fresh : operation.Fresh store)
    (succeeded : operation.outcome store around = (.ok (), after)) :
    after.Coherent ∧ after.held = operation.lists store.held := by
  cases operation with
  | createNamespace name globalContext source =>
    obtain ⟨_, _, created⟩ := going_of_outcome rfl succeeded
    obtain rfl := perform_createNamespace created
    exact ⟨coherent.inSpace _, rfl⟩
  | deleteNamespace name =>
    obtain ⟨_, _, deleted⟩ := going_of_outcome rfl succeeded
    obtain ⟨space, rfl⟩ := perform_deleteNamespace deleted
    exact ⟨coherent.inSpace _, rfl⟩
  | target space =>
    cases succeeded
    exact ⟨coherent.inSpace _, rfl⟩
  | add new submission =>
    obtain ⟨_, _, added⟩ := going_of_outcome rfl succeeded
    obtain ⟨absent, rfl⟩ := perform_add_cached coherent.mode fresh added
    exact ⟨coherent.keep absent, held_keep coherent absent⟩
  | deleteTrigger id =>
    have deleted := deleteTrigger_of_outcome succeeded
    obtain ⟨present, deleted⟩ := deleted
    rw [deleteTrigger_eq coherent] at deleted
    split at deleted
    · cases deleted
      exact ⟨coherent.drop id, coherent.held_drop id⟩
    · cases deleted
  | amendTrigger id trigger =>
    obtain ⟨⟨present, found⟩, rfl⟩ := amendTrigger_eq_ok (amendTrigger_of_outcome succeeded)
    exact ⟨coherent.amend found, coherent.held_amend id trigger⟩
  | flush =>
    cases succeeded
    exact ⟨.empty coherent.mode rfl rfl, rfl⟩
  | compile compiler workflow initial =>
    rw [outcome_compile] at succeeded
    cases planned : compiler.plan workflow initial with
    | error cause =>
      rw [compilation_unplanned planned] at succeeded
      cases succeeded
    | ok both =>
      obtain ⟨plan, planner⟩ := both
      simp only [Operation.lists, planned]
      rcases coherent.compilation_planned planned around with ⟨cause, made, -⟩ | ⟨made, -, frees⟩
      · rw [made] at succeeded
        cases succeeded
      · rw [made] at succeeded
        cases succeeded
        exact coherent.keepAll frees
  | addSource | getTrigger | commit | list =>
    obtain rfl := outcome_of_ask rfl succeeded
    exact ⟨coherent, rfl⟩

/-! ## Steps of a remote store -/

/-- A remote store, in which nothing is kept. -/
structure Passing (store : TriggerStore) : Prop where
  mode : store.mode = .remote
  cache : store.cache = []
  order : store.order = []

/-- An operation that succeeds on a remote store leaves one. -/
theorem Passing.outcome_ok (passing : store.Passing)
    (succeeded : operation.outcome store around = (.ok (), after)) : after.Passing := by
  have refused : ∀ operation, store.requireCache operation =
      .error (.unsupported (.remoteOperation operation)) := by
    intro operation
    unfold requireCache
    rw [passing.mode]
  cases operation with
  | createNamespace name globalContext source =>
    obtain ⟨_, _, created⟩ := going_of_outcome rfl succeeded
    obtain rfl := perform_createNamespace created
    exact { passing with }
  | deleteNamespace name =>
    obtain ⟨_, _, deleted⟩ := going_of_outcome rfl succeeded
    obtain ⟨space, rfl⟩ := perform_deleteNamespace deleted
    exact { passing with }
  | target space =>
    cases succeeded
    exact { passing with }
  | add new submission =>
    obtain ⟨_, _, added⟩ := going_of_outcome rfl succeeded
    have same := store_add_remote passing.mode new submission around
    rw [going_eq_ok_iff.mp added] at same
    obtain rfl : after = store := same
    exact passing
  | deleteTrigger id =>
    obtain ⟨_, deleted⟩ := deleteTrigger_of_outcome succeeded
    have removed := Change.success_eq_ok_iff.mp deleted
    rw [perform_removal, refused] at removed
    cases removed
  | amendTrigger id trigger =>
    have amended : (amendment id trigger).perform store = _ := within_of_outcome rfl succeeded
    rw [perform_amendment, refused] at amended
    cases amended
  | flush =>
    cases succeeded
    exact ⟨passing.mode, rfl, rfl⟩
  | compile compiler workflow initial =>
    have same : after = store :=
      (congrArg Prod.snd succeeded).symm.trans (compilation_remote passing.mode)
    exact same ▸ passing
  | addSource | getTrigger | commit | list =>
    obtain rfl := outcome_of_ask rfl succeeded
    exact passing

/-! ## Failures -/

/-- A coherent store gives back what a failed compilation took. -/
theorem Coherent.compilation_error (coherent : store.Coherent) {compiler : Compiler}
    {workflow : Level} {initial : String} {cause : Failure}
    (failed : (store.compilation compiler workflow initial around).result = .error cause) :
    (store.compilation compiler workflow initial around).store = store := by
  cases planned : compiler.plan workflow initial with
  | error cause => rw [compilation_unplanned planned]
  | ok both =>
    obtain ⟨plan, planner⟩ := both
    rcases coherent.compilation_planned planned around with ⟨_, made, -⟩ | ⟨made, -, -⟩
    · rw [made]
    · rw [made] at failed
      cases failed

/-- A namespace is made active only behind the call that creates it. -/
theorem spares_createNamespace (name : String) (globalContext : Option Json)
    (source : Option EventSource) :
    (Client.createNamespace name globalContext source).Spares Client.store :=
  (Change.leaves_lift _).bind fun _ => (Client.leaves_ask _).bind fun _ =>
    Change.spares_of_sure fun _ => ⟨_, rfl⟩

/-- A namespace is given up only behind the call that deletes it. -/
theorem spares_deleteNamespace (name : Option String) :
    (Client.deleteNamespace name).Spares Client.store :=
  (Client.leaves_ask _).bind fun _ => (Client.leaves_ask _).bind fun _ =>
    Change.spares_of_sure fun _ => ⟨_, rfl⟩

/-- A trigger that cannot be added is not kept. -/
theorem spares_add (fresh : String) (submission : Submission) :
    (Client.add fresh submission).Spares Client.store := by
  rintro ⟨store, around⟩ cause
  rw [perform_add]
  split
  · exact fun _ => rfl
  · dsimp only
    split
    · split
      · exact fun _ => rfl
      · exact nofun
    · split
      · exact fun _ => rfl
      · exact nofun

/-- A trigger that cannot be removed was not there. -/
theorem spares_removal (id : String) : (removal id).Spares fun store => store := by
  intro store cause failed
  rw [perform_removal] at failed ⊢
  split at failed
  · rfl
  · cases failed
  · rfl

/-- A trigger that cannot be amended stays. -/
theorem spares_amendment (id : String) (trigger : Trigger) :
    (amendment id trigger).Spares fun store => store := by
  intro store cause failed
  rw [perform_amendment] at failed ⊢
  split at failed
  · rfl
  · cases failed
  · rfl

/-- A change that spares the store leaves it where it fails. -/
theorem outcome_of_spares (spares : operation.change.Spares Client.store) {cause : Failure}
    (failed : (operation.outcome store around).1 = .error cause) :
    (operation.outcome store around).2 = store :=
  spares ⟨store, around⟩ cause failed

/-- An operation that fails leaves the store. -/
theorem outcome_error (kept : store.Coherent ∨ store.Passing) {cause : Failure}
    (failed : (operation.outcome store around).1 = .error cause) :
    (operation.outcome store around).2 = store := by
  cases operation with
  | target space => cases failed
  | flush => cases failed
  -- Only a compilation has added something when it fails, which it withdraws.
  | compile compiler workflow initial =>
    rcases kept with coherent | passing
    · simp only [outcome_compile] at failed ⊢
      cases result : (store.compilation compiler workflow initial around).result with
      | ok id =>
        rw [result] at failed
        cases failed
      | error cause => exact coherent.compilation_error result
    · exact compilation_remote passing.mode
  | createNamespace name globalContext source =>
    exact outcome_of_spares (spares_createNamespace name globalContext source).discard failed
  | deleteNamespace name => exact outcome_of_spares (spares_deleteNamespace name).discard failed
  | add fresh submission => exact outcome_of_spares (spares_add fresh submission).discard failed
  | deleteTrigger id =>
    exact outcome_of_spares (Client.spares_within (spares_removal id)).discard failed
  | amendTrigger id trigger =>
    exact outcome_of_spares (Client.spares_within (spares_amendment id trigger)) failed
  | addSource | getTrigger | commit | list =>
    exact outcome_of_spares (Client.leaves_ask _).spares.discard failed

/-! ## Courses -/

/-- The courses of a store from a new one, whatever its surroundings are at each operation,
and the triggers that are listed behind them. Ids that are made up are not taken. -/
inductive Course : TriggerStore → List Trigger → Prop where
  | opened (transport : Transport) (credentials : Credentials) (mode : StoreMode) :
      Course { transport, credentials, mode } []
  | succeeded {store after : TriggerStore} {listed : List Trigger} (before : Course store listed)
      (operation : Operation) (around : Surroundings) (fresh : operation.Fresh store)
      (outcome : operation.outcome store around = (.ok (), after)) :
      Course after (operation.lists listed)
  | failed {store after : TriggerStore} {listed : List Trigger} {cause : Failure}
      (before : Course store listed) (operation : Operation) (around : Surroundings)
      (outcome : operation.outcome store around = (.error cause, after)) : Course after listed

/-- A store on its course is coherent and holds what is listed, or it is remote. -/
theorem Course.kept {listed : List Trigger} (course : Course store listed) :
    store.Coherent ∧ store.held = listed ∨ store.Passing := by
  induction course with
  | opened transport credentials mode =>
    cases mode with
    | cached => exact .inl ⟨.empty rfl rfl rfl, rfl⟩
    | remote => exact .inr ⟨rfl, rfl, rfl⟩
  | succeeded _ operation around fresh outcome ih =>
    rcases ih with ⟨coherent, rfl⟩ | passing
    · exact .inl (coherent.outcome_ok fresh outcome)
    · exact .inr (passing.outcome_ok outcome)
  | failed _ operation around outcome ih =>
    obtain rfl := congrArg Prod.snd outcome
    rwa [outcome_error (ih.imp_left And.left) (congrArg Prod.fst outcome)]

/-- The order of a coherent store enumerates the names of its cache. -/
theorem Coherent.order_perm (coherent : store.Coherent) :
    store.order.Perm (Dict.keys store.cache) := by
  refine (List.perm_ext_iff_of_nodup coherent.distinct coherent.ascending.nodup).mpr fun id => ?_
  rw [coherent.listed, Dict.mem_keys_iff]

/-- A coherent store holds what it caches, each trigger once. -/
theorem Coherent.held_perm (coherent : store.Coherent) :
    store.held.Perm (store.cache.map Prod.snd) := by
  have own : ∀ entry ∈ store.cache, entry.2.id = entry.1 := fun entry member =>
    coherent.named _ _ (Dict.get?_of_mem coherent.ascending.nodup member)
  have names : (store.cache.map Prod.snd).map Trigger.id = Dict.keys store.cache := by
    rw [List.map_map]
    exact List.map_congr_left own
  have cached : (store.cache.map Prod.snd).Nodup := .of_map Trigger.id <| by
    rw [names]
    exact coherent.ascending.nodup
  have held : store.held.Nodup := .of_map Trigger.id <| by
    rw [coherent.map_id_held]
    exact coherent.distinct
  refine (List.perm_ext_iff_of_nodup held cached).mpr fun trigger => ?_
  rw [coherent.mem_held_iff, List.mem_map]
  constructor
  · exact fun found => ⟨_, Dict.mem_of_get? found, rfl⟩
  · rintro ⟨entry, member, rfl⟩
    rw [own entry member]
    exact Dict.get?_of_mem coherent.ascending.nodup member

/-- On every course of a store its order enumerates the cached ids, each once, and each cached
trigger has the id under which it is cached. A caching store lists the triggers that were
added and not removed, in the order in which they were added, and these are the cached ones,
each once; a remote one caches none. Whatever operation fails leaves the store as it was. -/
theorem cache_tracks_listing {listed : List Trigger} (course : Course store listed) :
    (store.order.Nodup ∧ store.order.Perm (Dict.keys store.cache)) ∧
    (∀ id trigger, Dict.get? store.cache id = some trigger → trigger.id = id) ∧
    (store.mode = .cached → store.list = .ok listed ∧ listed.map Trigger.id = store.order ∧
      listed.Perm (store.cache.map Prod.snd)) ∧
    (store.mode = .remote → store.list = .error .cachingDisabled ∧ store.cache = []) ∧
    ∀ operation around cause, (Operation.outcome operation store around).1 = .error cause →
      (Operation.outcome operation store around).2 = store := by
  have left : ∀ operation around cause,
      (Operation.outcome operation store around).1 = .error cause →
        (Operation.outcome operation store around).2 = store := fun _ _ _ failed =>
    outcome_error (course.kept.imp_left And.left) failed
  rcases course.kept with ⟨coherent, rfl⟩ | passing
  · exact ⟨⟨coherent.distinct, coherent.order_perm⟩, coherent.named,
      fun _ => ⟨coherent.list_eq, coherent.map_id_held, coherent.held_perm⟩,
      fun remote => (nomatch coherent.mode.symm.trans remote), left⟩
  · have names : store.order.Nodup ∧ store.order.Perm (Dict.keys store.cache) := by
      rw [passing.order, passing.cache]
      exact ⟨.nil, .nil⟩
    have disabled : store.list = .error .cachingDisabled := by
      unfold list
      rw [passing.mode]
    have none : ∀ id trigger, Dict.get? store.cache id = some trigger → trigger.id = id := by
      simp [passing.cache]
    exact ⟨names, none, fun cached => (nomatch passing.mode.symm.trans cached),
      fun _ => ⟨disabled, passing.cache⟩, left⟩

/-- Two triggers are added, the first under an id that is made up, and then it is amended: it is
still listed first. The sample needs the id of the second one, and its compilation leaves no
trace. -/
theorem sample_cache_tracks_listing :
    let second := ((Submission.waitingFor []).persistent "Go").trigger
    let store := (vacant.keep "0" { second with id := "0" }).keep "Go" second
    Course store [{ second with id := "0" }, second] ∧
      store.list = .ok [{ second with id := "0" }, second] ∧ store.order = ["0", "Go"] ∧
      ((Operation.compile {} Level.sample "$init").outcome store {}).1.isOk = false ∧
      ((Operation.compile {} Level.sample "$init").outcome store {}).2 = store := by
  intro second store
  let first := (Submission.waitingFor []).toTrigger "0" []
  have opened : Course vacant [] :=
    .succeeded (.opened .direct ⟨"user", "secret"⟩ .cached) (.target "demo") {} trivial rfl
  have one : Course (vacant.keep "0" first) [first] :=
    .succeeded opened (.add "0" (Submission.waitingFor [])) {} (fun _ => rfl) rfl
  have two : Course ((vacant.keep "0" first).keep "Go" second) [first, second] :=
    .succeeded one (.add "" ((Submission.waitingFor []).persistent "Go")) {} nofun rfl
  have course : Course store [{ second with id := "0" }, second] :=
    .succeeded two (.amendTrigger "0" second) {} trivial rfl
  have fails : ((Operation.compile {} Level.sample "$init").outcome store {}).1.isOk = false := by
    decide +kernel
  obtain ⟨-, -, cached, -, left⟩ := cache_tracks_listing course
  obtain ⟨listed, ordered, -⟩ := cached rfl
  refine ⟨course, listed, ordered.symm, fails, ?_⟩
  cases result : ((Operation.compile {} Level.sample "$init").outcome store {}).1 with
  | ok done =>
    rw [result] at fails
    cases fails
  | error cause => exact left _ _ cause result

end TriggerStore

end EventFlow
