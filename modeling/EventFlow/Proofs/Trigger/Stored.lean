import EventFlow.Engine.Worker
import EventFlow.Proofs.Json.Decoded
import EventFlow.Proofs.Json.Ordered
import EventFlow.Proofs.Json.Values

/-!
# Stored triggers

What becomes of triggers that are written into a document and read back: they are
the same up to the order of the fields in their contexts.
-/

namespace EventFlow

/-- An event key is read back. -/
theorem EventKey.decoder_encode (key : EventKey) :
    decoder .value (Draft.ofJson key.encode) = .ok key := by
  rfl

/-- An event key is written in order. -/
theorem EventKey.sorted_encode (key : EventKey) : key.encode.sorted = key.encode := by
  rfl

/-- An index that was written is read back. -/
theorem SourceEvents.decoder_toJson (index : SourceEvents) :
    Decode.value decoder index.toJson = .ok (Dict.ofList index) := by
  have reads := Decode.dict_ofJson (Decode.list Decode.string)
    (fun ids => .array (ids.map Json.string)) id index fun entry _ =>
      Decode.list_ofJson Decode.string Json.string entry.2 fun _ _ => rfl
  have unchanged : index.map (fun entry => (entry.1, id entry.2)) = index := List.map_id _
  rw [unchanged] at reads
  exact reads

namespace Trigger

/-- A trigger as it is after its context was put into order. -/
def ordered (trigger : Trigger) : Trigger :=
  { trigger with context := Json.sortedFields trigger.context [] }

/-- A context in order stays as it is. -/
theorem ordered_of_ordered {trigger : Trigger} (ordered : (Json.object trigger.context).Ordered) :
    trigger.ordered = trigger := by
  have whole := Json.sortedFields_of_ordered ordered.2 [] (by simpa using ordered.1)
  rw [Trigger.ordered, whole, List.nil_append]

/-- The fields of a trigger in ascending order. -/
theorem toJson_eq (trigger : Trigger) :
    trigger.toJson = .object [
      ("action", .string trigger.action),
      ("condition", .string trigger.condition),
      ("context", .object (Json.sortedFields trigger.context [])),
      ("depends_on_events", .array (trigger.dependencies.map EventKey.encode)),
      ("transient", .bool trigger.transient),
      ("trigger_id", .string trigger.id)] := by
  have keys : Json.sortedItems (trigger.dependencies.map EventKey.encode) =
      trigger.dependencies.map EventKey.encode := by
    simp [Json.sortedItems_eq_map, Function.comp_def, EventKey.sorted_encode]
  simp only [toJson, encode, Json.sorted, Json.sortedFields, keys]
  rfl

/-- A trigger is read back with its context in order. -/
theorem decoder_toJson (trigger : Trigger) :
    decoder .value (Draft.ofJson trigger.toJson) = .ok trigger.ordered.ordered := by
  rw [toJson_eq]
  have context := Decode.object_ofJson (Json.sortedFields trigger.context [])
  have dependencies := Decode.list_ofJson EventKey.decoder EventKey.encode
    trigger.dependencies fun key _ => key.decoder_encode
  simp only [Draft.ofJson] at context dependencies
  simp only [decoder, Decode.record, Draft.ofJson, ofObject, Decode.fields, Reading.enter,
    Draft.ofFields, Decode.foldFields, Decode.key, field, Decode.once, Decode.string, Draft.sound,
    Decode.bool, context, dependencies, Failing.ok_bind, Except.map,
    Decode.close, Decode.required]
  rfl

/-- The context of a trigger that was decoded from an object is in order. -/
theorem ordered_of_ofObject {reading : Reading} {draft : Draft} {trigger : Trigger}
    (decoded : ofObject reading draft = .ok trigger) : (Json.object trigger.context).Ordered := by
  obtain ⟨known, walked, rest⟩ := Failing.bind_eq_ok.mp decoded
  obtain ⟨_, _, rest⟩ := Failing.bind_eq_ok.mp rest
  obtain ⟨_, _, rest⟩ := Failing.bind_eq_ok.mp rest
  obtain ⟨_, _, rest⟩ := Failing.bind_eq_ok.mp rest
  obtain ⟨_, _, equal⟩ := Failing.bind_eq_ok.mp rest
  cases equal
  have ordered : ∀ context, known.context = some context → (Json.object context).Ordered := by
    refine Decode.fields_ok
      (motive := fun known : Partial => ∀ context, known.context = some context →
        (Json.object context).Ordered) (fun _ absent => ?_) ?_ walked
    · cases absent
    · intro known name reading draft next earlier stepped
      unfold field at stepped
      split at stepped
      case h_4 =>
        obtain ⟨filled, read, equal⟩ := Failing.bind_eq_ok.mp stepped
        cases equal
        obtain ⟨context, rfl, decoded⟩ := Decode.once_eq_ok read
        rintro _ ⟨⟩
        exact Decode.ordered_of_object decoded
      all_goals
        obtain ⟨_, _, equal⟩ := Failing.bind_eq_ok.mp stepped
        cases equal
        exact earlier
  cases held : known.context with
  | none => exact ⟨List.Pairwise.nil, trivial⟩
  | some context => exact ordered context held

/-- The context of a trigger that was decoded from the items of an array is in
order. -/
theorem ordered_of_ofItems {reading : Reading} {items rest : Decode.Positions}
    {trigger : Trigger} (decoded : ofItems reading items = .ok (trigger, rest)) :
    (Json.object trigger.context).Ordered := by
  obtain ⟨_, _, decoded⟩ := Failing.bind_eq_ok.mp decoded
  obtain ⟨_, _, decoded⟩ := Failing.bind_eq_ok.mp decoded
  obtain ⟨_, _, decoded⟩ := Failing.bind_eq_ok.mp decoded
  obtain ⟨⟨context, _⟩, next, decoded⟩ := Failing.bind_eq_ok.mp decoded
  obtain ⟨_, _, decoded⟩ := Failing.bind_eq_ok.mp decoded
  obtain ⟨_, _, equal⟩ := Failing.bind_eq_ok.mp decoded
  cases equal
  cases context with
  | none => exact ⟨List.Pairwise.nil, trivial⟩
  | some context =>
    obtain ⟨_, read⟩ := Decode.nextItem_eq_ok next context rfl
    exact Decode.ordered_of_object read

/-- The context of a decoded trigger is in order. -/
theorem ordered_of_decoder {reading : Reading} {draft : Draft} {trigger : Trigger}
    (decoded : decoder reading draft = .ok trigger) : (Json.object trigger.context).Ordered := by
  unfold decoder Decode.record at decoded
  cases draft with
  | scalar value stop => cases value <;> cases decoded
  | array items stop =>
    obtain ⟨_, _, decoded⟩ := Failing.bind_eq_ok.mp decoded
    obtain ⟨⟨_, _⟩, byPosition, decoded⟩ := Failing.bind_eq_ok.mp decoded
    obtain ⟨_, _, equal⟩ := Failing.bind_eq_ok.mp decoded
    cases equal
    exact ordered_of_ofItems byPosition
  | object fields stop => exact ordered_of_ofObject decoded

/-- Of triggers with distinct ids each one is found under its own. -/
theorem get?_byId_iff {triggers : List Trigger} (distinct : (triggers.map Trigger.id).Nodup)
    {id : String} {trigger : Trigger} :
    Dict.get? (triggers.map fun trigger => (trigger.id, trigger)) id = some trigger ↔
      trigger ∈ triggers ∧ trigger.id = id := by
  have names : (Dict.keys (triggers.map fun trigger => (trigger.id, trigger))).Nodup := by
    simpa [Dict.keys, Function.comp_def] using distinct
  constructor
  · intro found
    obtain ⟨_, listed, equal⟩ := List.mem_map.mp (Dict.mem_of_get? found)
    cases equal
    exact ⟨listed, rfl⟩
  · rintro ⟨listed, rfl⟩
    exact Dict.get?_of_mem names (List.mem_map.mpr ⟨trigger, listed, rfl⟩)

end Trigger

namespace Documents

/-- A dictionary that was loaded is in order, also where there is no document. -/
theorem ascending_of_load? {documents : Documents} {space name : String} {α : Type}
    {value : Decoder α} {entries : Dict α}
    (loaded : (documents.load? (Decode.dict value) space name).map (·.getD []) = .ok entries) :
    Dict.Ascending entries := by
  unfold load? at loaded
  split at loaded
  · cases loaded
    exact List.Pairwise.nil
  · rename_i document _
    cases read : Decode.value (Decode.dict value) document with
    | error cause =>
      rw [read] at loaded
      cases loaded
    | ok found =>
      rw [read] at loaded
      cases loaded
      exact (Decode.dict_ok read).1

/-- Loaded triggers have contexts in order. -/
theorem ordered_of_loadTriggers {documents : Documents} {space : String}
    {stored : Dict Trigger} (loaded : documents.loadTriggers space = .ok stored) :
    ∀ entry ∈ stored, (Json.object entry.2.context).Ordered := by
  unfold loadTriggers load? at loaded
  split at loaded
  · cases loaded
    exact fun _ member => absurd member List.not_mem_nil
  · rename_i document _
    cases read : Decode.value (Decode.dict Trigger.decoder) document with
    | error cause =>
      rw [read] at loaded
      cases loaded
    | ok entries =>
      rw [read] at loaded
      cases loaded
      intro entry member
      obtain ⟨reading, draft, decoded⟩ := (Decode.dict_ok read).2 entry member
      exact Trigger.ordered_of_decoder decoded

/-- A document of triggers is read back. -/
theorem load?_triggers_of_get? {documents : Documents} {space : String} {stored : Dict Trigger}
    (written : documents.get? space triggers = some (ofTriggers stored)) :
    load? (Decode.dict Trigger.decoder) documents space triggers =
      .ok (some (Dict.ofList (stored.map fun entry => (entry.1, entry.2.ordered.ordered)))) := by
  have reads := Decode.dict_ofJson Trigger.decoder Trigger.toJson
    (fun trigger => trigger.ordered.ordered) stored fun entry _ => entry.2.decoder_toJson
  simp only [load?, written, Decode.value, ofTriggers, reads]
  rfl

/-- A document with an index is read back. -/
theorem load?_index_of_get? {documents : Documents} {space : String} {index : SourceEvents}
    (written : documents.get? space sourceEvents = some index.toJson) :
    load? SourceEvents.decoder documents space sourceEvents = .ok (some (Dict.ofList index)) := by
  simp only [load?, written, SourceEvents.decoder_toJson]
  rfl

/-- Triggers that were written into their document are read back. -/
theorem loadTriggers_of_get? {documents : Documents} {space : String} {stored : Dict Trigger}
    (written : documents.get? space triggers = some (ofTriggers stored)) :
    documents.loadTriggers space =
      .ok (Dict.ofList (stored.map fun entry => (entry.1, entry.2.ordered.ordered))) := by
  rw [loadTriggers, load?_triggers_of_get? written]
  rfl

/-- The documents of a namespace hold exactly these triggers, each under its id, and an
index. -/
structure Holds (documents : Documents) (space : String) (triggers : List Trigger) :
    Prop where
  stored : ∃ stored, documents.loadTriggers space = .ok stored ∧ ∀ id trigger,
    Dict.get? stored id = some trigger ↔ trigger ∈ triggers ∧ trigger.id = id
  index : ∃ index, documents.loadIndex space = .ok index

/-- The triggers of a namespace are stored under their own ids. -/
def OwnKeyed (documents : Documents) (space : String) : Prop :=
  ∀ stored, documents.loadTriggers space = .ok stored → ∀ entry ∈ stored, entry.2.id = entry.1

/-- Triggers that were written under their own ids are under their own ids. -/
theorem OwnKeyed.of_get? {documents : Documents} {space : String} {stored : Dict Trigger}
    (written : documents.get? space triggers = some (ofTriggers stored))
    (keyed : ∀ entry ∈ stored, entry.2.id = entry.1) : documents.OwnKeyed space := by
  intro loaded succeeds entry member
  rw [loadTriggers_of_get? written] at succeeds
  cases succeeds
  obtain ⟨original, stored, rfl⟩ := List.mem_map.mp (Dict.mem_ofList member)
  exact keyed original stored

/-- Writing another document does not touch the triggers. -/
theorem OwnKeyed.put_other {documents : Documents} {space name : String} (document : Json)
    (other : name ≠ triggers) (keyed : documents.OwnKeyed space) :
    (documents.put space name document).OwnKeyed space := by
  intro loaded succeeds
  refine keyed loaded ?_
  simpa only [loadTriggers, load?, get?_put_of_name_ne _ _ _ other] using succeeds

end Documents

/-- Deleting a trigger keeps the others under their own ids. -/
theorem Documents.OwnKeyed.forget {documents : Documents} {space : String} (trigger : Trigger)
    (keyed : documents.OwnKeyed space) :
    (Worker.forget documents space trigger).OwnKeyed space := by
  have different : sourceEvents ≠ triggers := by decide
  unfold Worker.forget
  cases loaded : documents.loadTriggers space with
  | error cause => exact keyed
  | ok stored =>
    dsimp only
    have rewritten : (if Dict.contains stored trigger.id then
        documents.put space triggers (ofTriggers (Dict.erase stored trigger.id))
        else documents).OwnKeyed space := by
      split
      · exact of_get? (get?_put_self _ _ _ _) fun entry member =>
          keyed stored loaded entry (List.mem_of_mem_filter member)
      · exact keyed
    split
    · exact rewritten.put_other _ different
    · exact rewritten

end EventFlow
