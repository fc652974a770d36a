import EventFlow.Api.Call
import EventFlow.Surroundings

/-!
# Direct calls

The calls of the trigger API over the documents at hand. A call checks and loads what
it needs, and then saves one document after the other. What was saved before a failure
stays saved, so nothing may be saved before the last check.
-/

namespace EventFlow

namespace Direct

/-! ## Steps -/

/-- Read the documents at hand. -/
def read {α : Type} (reading : Documents → Except Failure α) : Effect α := do
  let around ← get
  ExceptT.mk (return reading around.documents)

/-- Change the documents at hand. -/
def change (made : Documents → Documents) : Effect Unit :=
  modify fun around => { around with documents := made around.documents }

/-- Save a document. -/
def save (space name : String) (document : Json) : Effect Unit :=
  change (·.put space name document)

/-- The namespace has to be there. -/
def requireSpace (space : String) : Effect Unit :=
  read fun documents =>
    if documents.spaceExists space then .ok () else .error (.namespaceAbsent space)

/-- The namespace must not be there. -/
def requireVacancy (space : String) : Effect Unit :=
  read fun documents =>
    if documents.spaceExists space then .error (.exists (.space space)) else .ok ()

/-! ## Calls -/

/-- Create a namespace: all its documents, with those of an event source if there is one. -/
def createNamespace (name : String) (globalContext : Dict Json) (source : Option EventSource) :
    Effect Json := do
  requireVacancy name
  save name Documents.globalContext (.object globalContext)
  save name Documents.triggers (Documents.ofTriggers [])
  save name Documents.sourceEvents (SourceEvents.toJson [])
  match source with
  | none => save name Documents.eventSources (Documents.ofSources [])
  | some source => do
    save name Documents.eventSource (.object source.toFields)
    save name Documents.eventSources (Documents.ofSources [(source.name, source)])
  return .object [("namespace", .string name)]

/-- Delete a namespace. -/
def deleteNamespace (name : String) : Effect Json := do
  requireSpace name
  change (·.deleteSpace name)
  return .object [("deleted", .string name)]

/-- Register an event source, which becomes the one that workers read from. -/
def registerSource (space : String) (source : EventSource) (overwrite : Bool) : Effect Json := do
  requireSpace space
  let sources ← read (·.loadSources space)
  if Dict.contains sources source.name && !overwrite then
    throw (.exists (.eventSource source.name))
  else do
    let sources := Dict.insert sources source.name source
    save space Documents.eventSources (Documents.ofSources sources)
    save space Documents.eventSource (.object source.toFields)
    return .object [("eventsource", .string source.name)]

/-- Store a batch of triggers: all of them, or none if an id is taken. -/
def storeTriggers (space : String) (triggers : List Trigger) : Effect Json := do
  requireSpace space
  let stored ← read (·.loadTriggers space)
  match Call.firstTaken? (Dict.keys stored) triggers with
  | some id => throw (.exists (.trigger id))
  | none => do
    let index ← read (·.loadIndex space)
    let index := triggers.foldl SourceEvents.add index
    let stored := triggers.foldl (fun stored trigger => Dict.insert stored trigger.id trigger) stored
    save space Documents.triggers (Documents.ofTriggers stored)
    save space Documents.sourceEvents (SourceEvents.toJson index)
    return .object [("triggers", .array (triggers.map fun trigger => .string trigger.id))]

end Direct

/-- Perform a call on the documents at hand. -/
def Call.direct : Call → Effect Json
  | .createNamespace name globalContext source =>
    Direct.createNamespace name globalContext source
  | .deleteNamespace name => Direct.deleteNamespace name
  | .registerSource space source overwrite => Direct.registerSource space source overwrite
  | .storeTriggers space triggers => Direct.storeTriggers space triggers

end EventFlow
