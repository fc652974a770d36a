import EventFlow.Proofs.Api.Batches
import EventFlow.Proofs.Api.Committing

/-!
# What a namespace holds

Calls over the documents at hand are made one after the other, and some of them fail. Those
that succeed say what a namespace holds: what it was created with, the event source that came
last, and every trigger that was stored since. The documents of the namespace say the same.
-/

namespace EventFlow

/-! ## Calls and what they leave -/

/-- What a namespace holds, with the triggers in the order in which they were stored. -/
structure Holdings where
  globalContext : Dict Json
  source : Option EventSource
  triggers : List Trigger := []

/-- Make calls over the documents at hand, one after the other. The result is the calls that
succeed, and the surroundings behind all of them. -/
def Transport.performAll (around : Surroundings) : List Call → List Call × Surroundings
  | [] => ([], around)
  | call :: rest =>
    match (direct.perform call).perform around with
    | (.ok _, next) =>
      let (accepted, behind) := performAll next rest
      (call :: accepted, behind)
    | (.error _, next) => performAll next rest

namespace Call

/-- What a namespace holds after a call that succeeded, given what it held before, if it was
there. -/
def holding (space : String) (held : Option Holdings) (call : Call) : Option Holdings :=
  if call.space = space then
    match call with
    | .createNamespace _ globalContext source => some { globalContext, source }
    | .deleteNamespace _ => none
    | .registerSource _ source _ => held.map fun held => { held with source := some source }
    | .storeTriggers _ triggers =>
      held.map fun held => { held with triggers := held.triggers ++ triggers }
  else held

/-- The objects that a call writes are in order, as all are that were decoded or inserted field
by field. -/
def Ordered : Call → Prop
  | .createNamespace _ globalContext _ => (Json.object globalContext).Ordered
  | .storeTriggers _ triggers => ∀ trigger ∈ triggers, (Json.object trigger.context).Ordered
  | _ => True

end Call

/-! ## Documents that keep it -/

namespace Documents

/-- The documents of a namespace keep what it holds: the global context, the event source, the
triggers under their ids, and an index of them. -/
structure Keeps (documents : Documents) (space : String) (held : Holdings) : Prop where
  globalContext : documents.get? space globalContext = some (.object held.globalContext)
  source : documents.get? space eventSource =
    held.source.map fun source => .object source.toFields
  batch : ∃ stored index, documents.get? space triggers = some (ofTriggers stored) ∧
    documents.get? space sourceEvents = some (SourceEvents.toJson index) ∧
    index.Indexes stored ∧
    ∀ id trigger, Dict.get? stored id = some trigger ↔ trigger ∈ held.triggers ∧ trigger.id = id
  distinct : (held.triggers.map Trigger.id).Nodup
  fields : (Json.object held.globalContext).Ordered
  contexts : ∀ trigger ∈ held.triggers, (Json.object trigger.context).Ordered

/-- The documents of a namespace agree with what it holds, if it is there. -/
def Agrees (documents : Documents) (space : String) : Option Holdings → Prop
  | none => documents.Vacant space
  | some held => documents.Keeps space held

variable {documents after : Documents} {space : String} {held : Holdings} {call : Call}

/-- A namespace may be given another event source while its other documents stay. -/
theorem Keeps.withSource (keeps : documents.Keeps space held) {source : Option EventSource}
    (global : after.get? space Documents.globalContext =
      documents.get? space Documents.globalContext)
    (stays : after.get? space triggers = documents.get? space triggers)
    (index : after.get? space sourceEvents = documents.get? space sourceEvents)
    (current : after.get? space eventSource = source.map fun source => .object source.toFields) :
    after.Keeps space { held with source } where
  globalContext := global.trans keeps.globalContext
  source := current
  batch := by
    rw [stays, index]
    exact keeps.batch
  distinct := keeps.distinct
  fields := keeps.fields
  contexts := keeps.contexts

/-- What is kept is kept in the same documents. -/
theorem Agrees.congr {held : Option Holdings}
    (same : ∀ name ∈ shared, after.get? space name = documents.get? space name)
    (agrees : documents.Agrees space held) : after.Agrees space held := by
  cases held with
  | none => exact fun name member => (same name member).trans (agrees name member)
  | some held =>
    exact Keeps.withSource agrees (same _ (by decide)) (same _ (by decide)) (same _ (by decide))
      ((same _ (by decide)).trans agrees.source)

/-- A namespace that holds something is there. -/
theorem Keeps.spaceExists (keeps : documents.Keeps space held) :
    documents.spaceExists space = true := by
  rw [Documents.spaceExists, keeps.globalContext]
  rfl

/-- A namespace of which nothing is left is not there. -/
theorem Vacant.spaceExists (vacant : documents.Vacant space) :
    documents.spaceExists space = false := by
  rw [Documents.spaceExists, vacant globalContext (by decide)]
  rfl

/-- The triggers that are kept are loaded as they are, and so is their index. -/
theorem Keeps.loads (keeps : documents.Keeps space held) :
    ∃ stored index, documents.loadTriggers space = .ok stored ∧
      documents.loadIndex space = .ok index ∧
      documents.get? space sourceEvents = some (SourceEvents.toJson index) ∧
      index.Indexes stored ∧
      ∀ id trigger, Dict.get? stored id = some trigger ↔
        trigger ∈ held.triggers ∧ trigger.id = id := by
  obtain ⟨stored, index, written, listed, indexes, found⟩ := keeps.batch
  have ordered : ∀ entry ∈ stored, (Json.object entry.2.context).Ordered := by
    intro entry member
    have kept := (found _ _).mp (Dict.get?_of_mem indexes.ordered.nodup member)
    exact keeps.contexts _ kept.1
  refine ⟨stored, index, ?_, loadIndex_of_ascending indexes.ascending listed, listed, indexes,
    found⟩
  rw [loadTriggers_of_ascending indexes.ordered written, map_ordered ordered]

end Documents

namespace Call

variable {documents after : Documents} {space : String} {held : Holdings} {call : Call}
  {triggers : List Trigger}

/-- A new namespace keeps what it was created with. -/
theorem keeps_writeNamespace {name : String} (vacant : documents.Vacant name)
    {globalContext : Dict Json} (ordered : (Json.object globalContext).Ordered)
    (source : Option EventSource) :
    (writeNamespace documents name globalContext source).Keeps name { globalContext, source } := by
  -- The documents before the event source is written.
  let empty := (documents.put name Documents.globalContext (.object globalContext)).rewritten
    name [] []
  have beside : ∀ {documents : Documents} {written other : String} {document : Json},
      written ≠ other → (documents.put name written document).get? name other =
        documents.get? name other := Documents.get?_put_of_name_ne _ _ _
  have keeps : empty.Keeps name { globalContext, source := none } := by
    refine ⟨?_, ?_, ⟨[], [], Documents.get?_triggers_rewritten,
      Documents.get?_sourceEvents_rewritten, .empty, by simp⟩, .nil, ordered, by simp⟩
    · rw [Documents.get?_rewritten_of_ne (by decide) (by decide)]
      exact Documents.get?_put_self _ _ _ _
    · rw [Documents.get?_rewritten_of_ne (by decide) (by decide), beside (by decide)]
      exact vacant _ (by decide)
  cases source with
  | none =>
    exact keeps.withSource (beside (by decide)) (beside (by decide)) (beside (by decide))
      ((beside (by decide)).trans keeps.source)
  | some source =>
    exact keeps.withSource ((beside (by decide)).trans (beside (by decide)))
      ((beside (by decide)).trans (beside (by decide)))
      ((beside (by decide)).trans (beside (by decide)))
      ((beside (by decide)).trans (Documents.get?_put_self _ _ _ _))

/-- A registered event source takes the place of the one that was kept. -/
theorem keeps_register (keeps : documents.Keeps space held) (source : EventSource)
    (sources : Json) :
    ((documents.put space Documents.eventSources sources).put space Documents.eventSource
      (.object source.toFields)).Keeps space { held with source := some source } := by
  have beside : ∀ {written : String}, Documents.eventSources ≠ written →
      Documents.eventSource ≠ written →
        ((documents.put space Documents.eventSources sources).put space Documents.eventSource
          (.object source.toFields)).get? space written = documents.get? space written :=
    fun first second => (Documents.get?_put_of_name_ne _ _ _ second).trans
      (Documents.get?_put_of_name_ne _ _ _ first)
  exact keeps.withSource (beside (by decide) (by decide)) (beside (by decide) (by decide))
    (beside (by decide) (by decide)) (Documents.get?_put_self _ _ _ _)

/-- A stored batch comes behind the triggers that were kept. -/
theorem keeps_store (keeps : documents.Keeps space held)
    (ordered : ∀ trigger ∈ triggers, (Json.object trigger.context).Ordered)
    (succeeded : store documents space triggers = .ok after) :
    after.Keeps space { held with triggers := held.triggers ++ triggers } := by
  obtain ⟨stored, index, loaded, known, -, indexes, found⟩ := keeps.loads
  obtain ⟨-, _, _, first, second, free, rfl⟩ := store_eq_ok_iff.mp succeeded
  cases loaded.symm.trans first
  cases known.symm.trans second
  obtain ⟨distinct, new⟩ := firstTaken?_eq_none_iff.mp free
  have absent : ∀ id, id ∉ Dict.keys stored → Dict.get? stored id = none := fun id missing =>
    Dict.get?_eq_none_iff.mpr missing
  -- The ids of the batch are new, so no trigger is stored in the place of another.
  have apart : ∀ id ∈ held.triggers.map Trigger.id, ∀ other ∈ triggers.map Trigger.id,
      id ≠ other := by
    rintro _ kept _ posted rfl
    obtain ⟨present, member, same⟩ := List.mem_map.mp kept
    obtain ⟨trigger, listed, rfl⟩ := List.mem_map.mp posted
    exact new trigger listed (Dict.mem_keys_iff.mpr ⟨present, (found _ _).mpr ⟨member, same⟩⟩)
  refine ⟨?_, ?_, ⟨_, _, Documents.get?_triggers_rewritten, Documents.get?_sourceEvents_rewritten,
    (indexes_addAll indexes absent free).1, fun id trigger => ?_⟩, ?_, keeps.fields, ?_⟩
  · rw [Documents.get?_rewritten_of_ne (by decide) (by decide)]
    exact keeps.globalContext
  · rw [Documents.get?_rewritten_of_ne (by decide) (by decide)]
    exact keeps.source
  · rw [List.mem_append, or_and_right, ← found]
    exact get?_filed_iff free id trigger
  · rw [List.map_append]
    exact List.nodup_append.mpr ⟨keeps.distinct, distinct, apart⟩
  · exact List.forall_mem_append.mpr ⟨keeps.contexts, ordered⟩

/-- A call that succeeds keeps the documents of a namespace in agreement with what it
holds. -/
theorem agrees_apply {held : Option Holdings} {answer : Json} (ordered : call.Ordered)
    (agrees : documents.Agrees space held)
    (applied : call.apply documents = .ok (answer, after)) :
    after.Agrees space (call.holding space held) := by
  have changes := changes_of_apply applied
  unfold holding
  split
  · next here =>
    subst here
    have there : documents.spaceExists call.space = true →
        ∃ kept, held = some kept ∧ documents.Keeps call.space kept := by
      intro present
      cases held with
      | none => cases agrees.spaceExists.symm.trans present
      | some kept => exact ⟨kept, rfl, agrees⟩
    cases changes with
    | created absent =>
      cases held with
      | none => exact keeps_writeNamespace agrees ordered _
      | some kept => cases agrees.spaceExists.symm.trans absent
    | @deleted name =>
      refine fun wanted _ => ?_
      simp [Documents.get?, Documents.deleteSpace, Dict.get?_erase, Call.space]
    | @registered space source _ _ present =>
      obtain ⟨kept, rfl, keeps⟩ := there present
      exact keeps_register keeps source _
    | stored present =>
      obtain ⟨kept, rfl, keeps⟩ := there present
      obtain ⟨_, succeeded, equal⟩ := Failing.bind_eq_ok.mp applied
      cases equal
      exact keeps_store keeps ordered succeeded
  · next elsewhere =>
    exact agrees.congr fun name _ => changes.get?_of_ne elsewhere name

end Call

/-- What a namespace holds after calls that succeeded, if it was not there before. -/
def Call.held (space : String) (calls : List Call) : Option Holdings :=
  calls.foldl (Call.holding space) none

/-- Calls keep the documents of every namespace in agreement with what it holds after those
that succeed. -/
theorem Transport.agrees_performAll {calls : List Call} {around : Surroundings} {space : String}
    {held : Option Holdings} (ordered : ∀ call ∈ calls, call.Ordered)
    (agrees : around.documents.Agrees space held) :
    (performAll around calls).2.documents.Agrees space
      ((performAll around calls).1.foldl (Call.holding space) held) := by
  induction calls generalizing around held with
  | nil => exact agrees
  | cons call rest ih =>
    obtain ⟨own, others⟩ := List.forall_mem_cons.mp ordered
    rw [performAll, perform_direct]
    cases applied : call.apply around.documents with
    | error cause => exact ih others agrees
    | ok both => exact ih others (Call.agrees_apply own agrees applied)

end EventFlow
