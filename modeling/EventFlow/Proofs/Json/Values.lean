import EventFlow.Json.Decode
import EventFlow.Proofs.Failing

/-!
# Values read back

Decoding the draft of a value that is already there meets no faults: what comes of
it is the value with its fields in order.
-/

namespace EventFlow

namespace Decode

mutual

/-- Any value is read back in order. -/
theorem json_ofJson (value : Json) : json .value (Draft.ofJson value) = .ok value.sorted := by
  cases value with
  | null => rfl
  | bool _ => rfl
  | number _ => rfl
  | string _ => rfl
  | array items =>
    simp only [Draft.ofJson, json, Reading.enter, Failing.ok_bind, jsonItems_ofItems items, close,
      Json.sorted]
  | object fields =>
    simp only [Draft.ofJson, json, Reading.enter, Failing.ok_bind, jsonFields_ofFields fields, close,
      Json.sorted]

/-- Items are read back one by one. -/
theorem jsonItems_ofItems (items : List Json) :
    jsonItems .value (Draft.ofItems items) = .ok (Json.sortedItems items) := by
  cases items with
  | nil => rfl
  | cons item rest =>
    simp only [Draft.ofItems, jsonItems, json_ofJson item, jsonItems_ofItems rest, Failing.ok_bind,
      Json.sortedItems]

/-- Fields are read back into those that were read before. -/
theorem jsonFields_ofFields (fields : List (String × Json)) (done : Dict Json) :
    jsonFields .value done (Draft.ofFields fields) = .ok (Json.sortedFields fields done) := by
  cases fields with
  | nil => rfl
  | cons field rest =>
    obtain ⟨name, value⟩ := field
    simp only [Draft.ofFields, jsonFields, key, json_ofJson value, jsonFields_ofFields rest,
      Failing.ok_bind, Json.sortedFields]

end

/-- A dictionary of values is read back in order. -/
theorem object_ofJson (fields : List (String × Json)) :
    object .value (Draft.ofJson (.object fields)) = .ok (Json.sortedFields fields []) := by
  have walked : ∀ (fields : List (String × Json)) (done : Dict Json),
      foldFields (fun done name reading draft => do
          let value ← json reading draft
          .ok (Dict.insert done name value)) .value done (Draft.ofFields fields) =
        .ok (Json.sortedFields fields done) := by
    intro fields
    induction fields with
    | nil => exact fun _ => rfl
    | cons field rest ih =>
      intro done
      obtain ⟨name, value⟩ := field
      simp only [Draft.ofFields, foldFields, key, json_ofJson value, Failing.ok_bind, ih,
        Json.sortedFields]
  simp only [object, dict, Decode.fields, Draft.ofJson, Reading.enter, Failing.ok_bind, walked,
    close]

/-- A list is read back if its items are. -/
theorem list_ofJson {α : Type} (item : Decoder α) (encode : α → Json) (values : List α)
    (reads : ∀ value ∈ values, item .value (Draft.ofJson (encode value)) = .ok value) :
    list item .value (Draft.ofJson (.array (values.map encode))) = .ok values := by
  have walked : items item .value (Draft.ofItems (values.map encode)) = .ok values := by
    induction values with
    | nil => rfl
    | cons value rest ih =>
      simp only [List.map_cons, Draft.ofItems, items, reads value List.mem_cons_self,
        ih fun later member => reads later (List.mem_cons_of_mem _ member), Failing.ok_bind]
  simp only [list, Draft.ofJson, Reading.enter, Failing.ok_bind, walked, close]

/-- A dictionary is read back entry by entry. -/
theorem dict_ofJson {α : Type} (value : Decoder α) (encode : α → Json) (normal : α → α)
    (entries : Dict α)
    (reads : ∀ entry ∈ entries,
      value .value (Draft.ofJson (encode entry.2)) = .ok (normal entry.2)) :
    dict value .value
        (Draft.ofJson (.object (entries.map fun entry => (entry.1, encode entry.2)))) =
      .ok (Dict.ofList (entries.map fun entry => (entry.1, normal entry.2))) := by
  have walked : ∀ done : Dict α,
      foldFields (fun done name reading draft => do
          let value ← value reading draft
          .ok (Dict.insert done name value)) .value done
          (Draft.ofFields (entries.map fun entry => (entry.1, encode entry.2))) =
        .ok ((entries.map fun entry => (entry.1, normal entry.2)).foldl
          (fun dict entry => Dict.insert dict entry.1 entry.2) done) := by
    induction entries with
    | nil => exact fun _ => rfl
    | cons entry rest ih =>
      intro done
      have readsRest := ih fun later member => reads later (List.mem_cons_of_mem _ member)
      simp only [List.map_cons, Draft.ofFields, foldFields, key, reads entry List.mem_cons_self,
        Failing.ok_bind, readsRest, List.foldl_cons]
  simp only [dict, Decode.fields, Draft.ofJson, Reading.enter, Failing.ok_bind, walked, close,
    Dict.ofList]

end Decode

/-- Items are sorted one by one. -/
theorem Json.sortedItems_eq_map (items : List Json) : sortedItems items = items.map sorted := by
  induction items with
  | nil => rfl
  | cons item rest ih => rw [sortedItems, ih, List.map_cons]

end EventFlow
