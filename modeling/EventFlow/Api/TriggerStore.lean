import EventFlow.Api.Transport
import EventFlow.Text.Quoted
import EventFlow.Workflow.Plan

/-!
# Trigger stores

The client for one namespace at a time. A caching store keeps triggers until
they are committed in one call; a remote one passes each trigger on at once. The
operations change the store and its surroundings step by step; a compilation that
fails half-way takes out of the cache again what it has put there.
-/

namespace EventFlow

/-- Where added triggers go. -/
inductive StoreMode where
  | cached
  | remote
deriving DecidableEq, Repr

namespace StoreMode

/-- The name of a mode. -/
def name : StoreMode → String
  | .cached => "Cached"
  | .remote => "Remote"

end StoreMode

/-- A client of the trigger API. -/
structure TriggerStore where
  transport : Transport
  credentials : Credentials
  mode : StoreMode
  space : Option String := none
  /-- The cached triggers by id. -/
  cache : Dict Trigger := []
  /-- The ids of the cached triggers in the order in which they were added. -/
  order : List String := []

namespace TriggerStore

/-- A store whose calls go to an endpoint. -/
def connect (endpoint : String) (credentials : Credentials) (mode : StoreMode) :
    Except Failure TriggerStore := do
  let transport ← Transport.connect endpoint credentials
  .ok { transport, credentials, mode }

/-- How a store describes itself. -/
def summary (store : TriggerStore) : String :=
  "TriggerStore \x7b mode: " ++ store.mode.name ++ ", namespace: "
    ++ Text.quotedOption store.space ++ ", cached: " ++ toString store.cache.length ++ " \x7d"

/-- Make a namespace the active one without asking anybody. -/
def target (store : TriggerStore) (space : String) : TriggerStore :=
  { store with space := some space }

/-- The active namespace. -/
def activeSpace (store : TriggerStore) : Except Failure String :=
  match store.space with
  | some space => .ok space
  | none => .error .noNamespace

/-! ## Namespaces and event sources -/

/-- A global context as it was given, if it is an object; without one it is
empty. -/
def contextFields : Option Json → Except Failure (Dict Json)
  | none => .ok []
  | some (.object fields) => .ok fields
  | some other => .error (.rejected (.globalContext other))

/-- Register an event source on the active namespace. -/
def addSource (store : TriggerStore) (source : EventSource) (overwrite : Bool) : Effect Json := do
  let space ← Change.lift store.activeSpace
  store.transport.perform (.registerSource space source overwrite)

/-! ## Triggers -/

/-- The context of a submission, if it is an object; null stands for an empty
one. -/
def submittedContext : Json → Except Failure (Dict Json)
  | .object fields => .ok fields
  | .null => .ok []
  | other => .error (.rejected (.triggerContext other))

/-- Check a submission. The result is the namespace it goes to and its
context. -/
def checked (store : TriggerStore) (submission : Submission) :
    Except Failure (String × Dict Json) := do
  let space ← store.activeSpace
  match submission.transient, submission.id with
  | true, some id => .error (.namedTransient id)
  | _, _ => do
    let context ← submittedContext submission.context
    .ok (space, context)

/-- Put a trigger into the cache under an id, behind all others. -/
def keep (store : TriggerStore) (id : String) (trigger : Trigger) : TriggerStore :=
  { store with
    cache := Dict.insert store.cache id trigger
    order := store.order ++ [id] }

/-- Only caching stores have single triggers to look at. -/
def requireCache (store : TriggerStore) (operation : String) : Except Failure Unit :=
  match store.mode with
  | .cached => .ok ()
  | .remote => .error (.unsupported (.remoteOperation operation))

/-- A cached trigger. -/
def cached (store : TriggerStore) (id : String) : Except Failure Trigger :=
  match Dict.get? store.cache id with
  | some trigger => .ok trigger
  | none => .error (.missing (.trigger id))

/-- Look up a cached trigger. -/
def getTrigger (store : TriggerStore) (id : String) : Except Failure Trigger := do
  store.requireCache "get_trigger"
  store.cached id

/-- Remove a cached trigger, from the cache and then from the order. -/
def removal (id : String) : Change TriggerStore Trigger := do
  let store ← get
  Change.lift (store.requireCache "delete_trigger")
  set { store with cache := Dict.erase store.cache id }
  let trigger ← Change.lift (store.cached id)
  modify fun store => { store with order := store.order.filter (· ≠ id) }
  return trigger

/-- Put a trigger in the place of a cached one, whose id it takes over. -/
def amendment (id : String) (trigger : Trigger) : Change TriggerStore Unit := do
  let store ← get
  Change.lift (store.requireCache "amend_trigger")
  let _ ← Change.lift (store.cached id)
  set { store with cache := Dict.insert store.cache id { trigger with id } }

/-- Remove a cached trigger, and go on with the store after it only if that succeeds. -/
def deleteTrigger (store : TriggerStore) (id : String) :
    Except Failure (Trigger × TriggerStore) :=
  (removal id).success store

/-- Amend a cached trigger, and go on with the store after it only if that succeeds. -/
def amendTrigger (store : TriggerStore) (id : String) (trigger : Trigger) :
    Except Failure TriggerStore :=
  ((amendment id trigger).success store).map Prod.snd

/-- The triggers in the cache in the order in which they were added. -/
def held (store : TriggerStore) : List Trigger :=
  store.order.filterMap (Dict.get? store.cache)

/-- The cached triggers in the order in which they were added. -/
def list (store : TriggerStore) : Except Failure (List Trigger) :=
  match store.mode with
  | .cached => .ok store.held
  | .remote => .error .cachingDisabled

/-- Send all cached triggers in one call. They stay in the cache. -/
def commit (store : TriggerStore) : Effect Json := do
  let triggers ← Change.lift store.list
  if store.cache.isEmpty then throw .emptyCache
  else do
    let space ← Change.lift store.activeSpace
    store.transport.perform (.storeTriggers space triggers)

/-- Forget all cached triggers. -/
def flush (store : TriggerStore) : TriggerStore :=
  { store with cache := [], order := [] }

end TriggerStore

/-! ## Changes of a store -/

/-- A store, and what it has around it. -/
structure Client where
  store : TriggerStore
  around : Surroundings

namespace Client

/-- Do something that the store is only asked for. -/
def ask {α : Type} (asking : TriggerStore → Effect α) : Change Client α :=
  ExceptT.mk fun client =>
    let (result, around) := (asking client.store).perform client.around
    (result, { client with around })

/-- Change the store alone. -/
def within {α : Type} (change : Change TriggerStore α) : Change Client α :=
  ExceptT.mk fun client =>
    let (result, store) := change.perform client.store
    (result, { client with store })

/-- Perform a call by the transport of the store. -/
def call (call : Call) : Change Client Json :=
  ask fun store => store.transport.perform call

/-- Create a namespace and make it active. Its name is put into its global
context. -/
def createNamespace (name : String) (globalContext : Option Json) (source : Option EventSource) :
    Change Client Json := do
  let fields ← Change.lift (TriggerStore.contextFields globalContext)
  let fields := Dict.insert fields Namespace.nameKey (.string name)
  let answer ← call (.createNamespace name fields source)
  within (modify (·.target name))
  return answer

/-- Delete a namespace, by default the active one. -/
def deleteNamespace (name : Option String) : Change Client Json := do
  let name ← ask fun store => Change.lift (match name with
    | some name => .ok name
    | none => store.activeSpace)
  let answer ← call (.deleteNamespace name)
  within (modify fun store => if store.space = some name then { store with space := none } else store)
  return answer

/-- Add a trigger. The result is its id, which is the fresh one unless the
submission has its own. -/
def add (fresh : String) (submission : Submission) : Change Client String := do
  let (space, context) ← ask fun store => Change.lift (store.checked submission)
  let id := submission.id.getD fresh
  let trigger := submission.toTrigger id context
  let client ← get
  match client.store.mode with
  | .cached =>
    if submission.id.isSome && (Dict.get? client.store.cache id).isSome then
      throw (.duplicateTrigger id)
    else do
      within (modify (·.keep id trigger))
      return id
  | .remote => do
    let _ ← call (.storeTriggers space [trigger])
    return id

end Client

namespace TriggerStore

/-- Go on with the store that a change leaves, if it succeeds. -/
def going {α : Type} (store : TriggerStore) (change : Change Client α) :
    Effect (α × TriggerStore) :=
  ExceptT.mk fun around =>
    let (result, client) := change.perform ⟨store, around⟩
    (result.map fun value => (value, client.store), client.around)

/-- Create a namespace, and go on with the store for which it is the active one. -/
def createNamespace (store : TriggerStore) (name : String) (globalContext : Option Json)
    (source : Option EventSource) : Effect (Json × TriggerStore) :=
  store.going (Client.createNamespace name globalContext source)

/-- Delete a namespace, and go on with the store for which it is no longer active. -/
def deleteNamespace (store : TriggerStore) (name : Option String) :
    Effect (Json × TriggerStore) :=
  store.going (Client.deleteNamespace name)

/-- Add a trigger, and go on with the store that has it. -/
def add (store : TriggerStore) (fresh : String) (submission : Submission) :
    Effect (String × TriggerStore) :=
  store.going (Client.add fresh submission)

/-! ## Workflows -/

/-- Triggers on their way into a store: the ids of those that were added, the store
with them, and the failure at which that ended, if there was one. -/
structure Submitted where
  result : Except Failure Unit
  ids : List String
  store : TriggerStore
  around : Surroundings

/-- Add the triggers of a plan, which all have ids, one after the other until one
cannot be added. `ids` holds those of the triggers before. -/
def submit (store : TriggerStore) (ids : List String) (around : Surroundings) :
    List Submission → Submitted
  | [] => { result := .ok (), ids, store, around }
  | submission :: rest =>
    match (Client.add "" submission).perform ⟨store, around⟩ with
    | (.error cause, client) =>
      { result := .error cause, ids, store := client.store, around := client.around }
    | (.ok id, client) => client.store.submit (ids ++ [id]) client.around rest

/-- Take cached triggers out again, one after the other. One that cannot be taken out
is passed over. -/
def withdraw (store : TriggerStore) (ids : List String) : TriggerStore :=
  ids.foldl (fun store id => ((removal id).perform store).2) store

/-- What a compilation comes to, and the compiler, the store and the surroundings after
it. -/
structure Compilation where
  result : Except Failure String
  compiler : Compiler
  store : TriggerStore
  around : Surroundings

/-- Compile a workflow into the store. The result is the id of the trigger that closes
it. When a trigger cannot be added, the compiler goes back to where it was, and a
caching store gives up the triggers that were added before; what a remote store has
passed on by then stays there. -/
def compilation (store : TriggerStore) (compiler : Compiler) (workflow : Level)
    (initial : String) (around : Surroundings) : Compilation :=
  match compiler.attempt workflow initial with
  | (.error cause, attempted) =>
    { result := .error cause, compiler := attempted, store, around }
  | (.ok plan, planned) =>
    let submitted := store.submit [] around plan.triggers
    match submitted.result with
    | .ok () => {
        result := .ok plan.completion
        compiler := planned
        store := submitted.store
        around := submitted.around }
    | .error cause => {
        result := .error cause
        compiler := { planned with sequence := compiler.sequence }
        store :=
          match submitted.store.mode with
          | .cached => submitted.store.withdraw submitted.ids
          | .remote => submitted.store
        around := submitted.around }

/-- Compile a workflow into the store, and go on only if that succeeds. -/
def compile (store : TriggerStore) (compiler : Compiler) (workflow : Level) (initial : String) :
    Effect (String × Compiler × TriggerStore) :=
  ExceptT.mk fun around =>
    let made := store.compilation compiler workflow initial around
    (made.result.map fun id => (id, made.compiler, made.store), made.around)

end TriggerStore

end EventFlow
