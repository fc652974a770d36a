import EventFlow.Api.Transport
import EventFlow.Proofs.Change

/-!
# Calls in one go

A direct call takes several steps, and whatever it has saved stays saved if a later step
fails. Seen from outside it is one step all the same: `Call.apply` gives the answer and
the documents that it leaves, and a call that fails leaves the documents it has found.
-/

namespace EventFlow

namespace Call

/-! ## Calls on documents -/

/-- Write the documents of a new namespace. -/
def writeNamespace (documents : Documents) (name : String) (globalContext : Dict Json)
    (source : Option EventSource) : Documents :=
  let documents := documents.put name Documents.globalContext (.object globalContext)
  let documents := documents.put name Documents.triggers (Documents.ofTriggers [])
  let documents := documents.put name Documents.sourceEvents (SourceEvents.toJson [])
  match source with
  | none => documents.put name Documents.eventSources (Documents.ofSources [])
  | some source =>
    let documents := documents.put name Documents.eventSource (.object source.toFields)
    documents.put name Documents.eventSources (Documents.ofSources [(source.name, source)])

/-- The namespace has to be there. -/
def requireSpace (documents : Documents) (space : String) : Except Failure Unit :=
  if documents.spaceExists space then .ok () else .error (.namespaceAbsent space)

/-- Register an event source, which becomes the one that workers read from. -/
def register (documents : Documents) (space : String) (source : EventSource) (overwrite : Bool) :
    Except Failure Documents := do
  requireSpace documents space
  let sources ← documents.loadSources space
  if Dict.contains sources source.name && !overwrite then
    .error (.exists (.eventSource source.name))
  else
    let sources := Dict.insert sources source.name source
    let documents := documents.put space Documents.eventSources (Documents.ofSources sources)
    .ok (documents.put space Documents.eventSource (.object source.toFields))

/-- Store a batch of triggers: all of them, or none if an id is taken. -/
def store (documents : Documents) (space : String) (triggers : List Trigger) :
    Except Failure Documents := do
  requireSpace documents space
  let stored ← documents.loadTriggers space
  match firstTaken? (Dict.keys stored) triggers with
  | some id => .error (.exists (.trigger id))
  | none => do
    let index ← documents.loadIndex space
    let index := triggers.foldl SourceEvents.add index
    let stored := triggers.foldl (fun stored trigger => Dict.insert stored trigger.id trigger) stored
    let documents := documents.put space Documents.triggers (Documents.ofTriggers stored)
    .ok (documents.put space Documents.sourceEvents (SourceEvents.toJson index))

/-- Perform a call on documents. The result is the answer and the documents
after it. -/
def apply (call : Call) (documents : Documents) : Except Failure (Json × Documents) :=
  match call with
  | .createNamespace name globalContext source =>
    if documents.spaceExists name then .error (.exists (.space name))
    else
      .ok (.object [("namespace", .string name)],
        writeNamespace documents name globalContext source)
  | .deleteNamespace name => do
    requireSpace documents name
    .ok (.object [("deleted", .string name)], documents.deleteSpace name)
  | .registerSource space source overwrite => do
    let documents ← register documents space source overwrite
    .ok (.object [("eventsource", .string source.name)], documents)
  | .storeTriggers space triggers => do
    let documents ← store documents space triggers
    .ok (.object [("triggers", .array (triggers.map fun trigger => .string trigger.id))], documents)

end Call

/-! ## Steps of direct calls -/

namespace Direct

variable {α β : Type} {around : Surroundings}

/-- What was read is there, and nothing else. -/
theorem perform_read (reading : Documents → Except Failure α) :
    (read reading).perform around = (reading around.documents, around) :=
  rfl

/-- Whatever follows a reading goes on with what was read. -/
theorem perform_read_bind (reading : Documents → Except Failure α) (next : α → Effect β) :
    (read reading >>= next).perform around =
      match reading around.documents with
      | .ok value => (next value).perform around
      | .error cause => (.error cause, around) := by
  rw [Change.perform_bind, perform_read]
  cases reading around.documents <;> rfl

end Direct

/-! ## Direct calls -/

/-- A direct call changes the documents if it succeeds, and nothing if it fails. -/
theorem Transport.perform_direct (call : Call) (around : Surroundings) :
    (direct.perform call).perform around =
      match call.apply around.documents with
      | .error cause => (.error cause, around)
      | .ok (answer, documents) => (.ok answer, { around with documents }) := by
  show call.direct.perform around = _
  cases call with
  | createNamespace name globalContext source =>
    simp only [Call.direct, Direct.createNamespace, Direct.requireVacancy,
      Direct.perform_read_bind, Call.apply]
    cases around.documents.spaceExists name with
    | true => rfl
    | false => cases source <;> rfl
  | deleteNamespace name =>
    simp only [Call.direct, Direct.deleteNamespace, Direct.requireSpace, Direct.perform_read_bind,
      Call.apply, Call.requireSpace]
    cases around.documents.spaceExists name <;> rfl
  | registerSource space source overwrite =>
    simp only [Call.direct, Direct.registerSource, Direct.requireSpace, Direct.perform_read_bind,
      Call.apply, Call.register, Call.requireSpace]
    cases around.documents.spaceExists space with
    | false => rfl
    | true =>
      simp only [if_true, Failing.ok_bind]
      cases around.documents.loadSources space with
      | error cause => rfl
      | ok sources =>
        simp only [Failing.ok_bind]
        cases Dict.contains sources source.name && !overwrite <;> rfl
  | storeTriggers space triggers =>
    simp only [Call.direct, Direct.storeTriggers, Direct.requireSpace, Direct.perform_read_bind,
      Call.apply, Call.store, Call.requireSpace]
    cases around.documents.spaceExists space with
    | false => rfl
    | true =>
      simp only [if_true, Failing.ok_bind]
      cases around.documents.loadTriggers space with
      | error cause => rfl
      | ok stored =>
        simp only [Failing.ok_bind]
        cases Call.firstTaken? (Dict.keys stored) triggers with
        | some id => rfl
        | none =>
          simp only [Direct.perform_read_bind]
          cases around.documents.loadIndex space <;> rfl

end EventFlow
