import EventFlow.Store.Keys

/-!
# Documents in a bucket

A message server holds payloads in buckets, by key. The documents of all namespaces share one
bucket: each is kept under its document key, and those of one namespace are found again by how
their keys start. What the server does with a bucket is a parameter here.
-/

namespace EventFlow

/-- Something that is done with a server and may fail. What the server has changed before a
failure stays changed. -/
abbrev Exchange (ε State α : Type) := ExceptT ε (StateM State) α

/-- What comes of an exchange with a server in some state, and the state after it. -/
def Exchange.perform {ε State α : Type} (exchange : Exchange ε State α) (state : State) :
    Except ε α × State :=
  exchange.run state

/-- What a document store asks of its server. -/
inductive StoreTask where
  | listKeys
  | readKey
  | readDocument
  | writeDocument
  | deleteDocument

/-- The words for a task that was not done. -/
def StoreTask.message : StoreTask → String
  | .listKeys => "Failed to list keys"
  | .readKey => "Failed to read key"
  | .readDocument => "Failed to read document"
  | .writeDocument => "Failed to write document"
  | .deleteDocument => "Failed to delete document"

/-- Why something was not done with stored documents: a failure of the engine, or the reason that
the server gives. -/
inductive StoreFailure where
  | engine (cause : Failure)
  | server (task : StoreTask) (reason : String)

/-- The words for a failure of a document store. -/
def StoreFailure.message : StoreFailure → String
  | .engine cause => cause.message
  | .server task reason => "Storage error: " ++ task.message ++ ": " ++ reason

/-- A bucket of a message server, by the requests that the server answers. An entry of a listing
is a key, or the reason why there is none to be read. -/
structure Bucket (State : Type) where
  keys : Exchange String State (List (Except String String))
  read (key : String) : Exchange String State (Option (List UInt8))
  write (key : String) (payload : List UInt8) : Exchange String State Unit
  purge (key : String) : Exchange String State Unit

namespace Bucket

variable {State α : Type}

/-- Ask the server for something. -/
def ask (task : StoreTask) (request : Exchange String State α) : Exchange StoreFailure State α :=
  ExceptT.adapt (.server task) request

/-- Go on with a result that the server has no part in. -/
def settled {ε : Type} (failure : ε → StoreFailure) (result : Except ε α) :
    Exchange StoreFailure State α :=
  ExceptT.mk (pure (result.mapError failure))

variable (bucket : Bucket State)

/-- The document of that name. A key without a payload holds none. -/
def get (space document : String) : Exchange StoreFailure State (Option Json) := do
  let key ← settled .engine (Keys.documentKey space document)
  match ← ask .readDocument (bucket.read key) with
  | none | some [] => return none
  | some payload => do
    let found ← settled .engine (decoded (Decode.bytes Decode.json payload))
    return some found

/-- Create or replace a document. -/
def put (space document : String) (content : Json) : Exchange StoreFailure State Unit := do
  let key ← settled .engine (Keys.documentKey space document)
  ask .writeDocument (bucket.write key (Text.bytesOf content.sorted.compact))

/-- Remove a document. The result is whether there was one. -/
def delete (space document : String) : Exchange StoreFailure State Bool := do
  match ← bucket.get space document with
  | none => return false
  | some _ => do
    let key ← settled .engine (Keys.documentKey space document)
    ask .deleteDocument (bucket.purge key)
    return true

/-- The keys of a namespace, of all that are in the bucket. -/
def spaceKeys (space : String) : Exchange StoreFailure State (List String) := do
  let listed ← ask .listKeys bucket.keys
  let keys ← settled (.server .readKey) (listed.mapM id)
  return keys.filter (·.startsWith (space ++ "."))

/-- Remove all documents of a namespace, one after the other. The result is whether there were
any. -/
def deleteSpace (space : String) : Exchange StoreFailure State Bool := do
  let keys ← bucket.spaceKeys space
  keys.forM fun key => ask .deleteDocument (bucket.purge key)
  return !keys.isEmpty

end Bucket

end EventFlow
