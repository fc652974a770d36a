import EventFlow.Proofs.Json.Decoded
import EventFlow.Proofs.Json.Values

/-!
# Values in order

A value is in order when the fields of all its objects ascend. Sorting puts every
value in order and leaves it alone afterwards, and what is decoded is in order.
-/

namespace EventFlow

namespace Dict

variable {α : Type}

/-- An entry whose name is larger than all others goes to the end. -/
theorem insert_of_forall_lt {entries : Dict α} {key : String}
    (larger : ∀ name ∈ keys entries, name < key) (value : α) :
    insert entries key value = entries ++ [(key, value)] := by
  induction entries with
  | nil => rfl
  | cons entry rest ih =>
      obtain ⟨name, old⟩ := entry
      have above : name < key := larger name (by simp [keys])
      have different : name ≠ key := fun equal => String.lt_irrefl key (equal ▸ above)
      have notLess : ¬ key < name := fun less => String.lt_irrefl name (String.lt_trans above less)
      rw [insert, if_neg different, if_neg notLess,
        ih fun other member => larger other (List.mem_cons_of_mem _ member), List.cons_append]

/-- Entries with larger names are laid behind a dictionary. -/
theorem overlay_eq_append {lower upper : Dict α} (ascending : Ascending (lower ++ upper)) :
    overlay lower upper = lower ++ upper := by
  unfold overlay
  induction upper generalizing lower with
  | nil => exact (List.append_nil _).symm
  | cons entry rest ih =>
      have regrouped : lower ++ entry :: rest = (lower ++ [entry]) ++ rest := by simp
      have larger : ∀ name ∈ keys lower, name < entry.1 := by
        intro name member
        rw [Ascending, keys, List.map_append, List.pairwise_append] at ascending
        exact ascending.2.2 name member entry.1 (by simp)
      rw [List.foldl_cons, insert_of_forall_lt larger, ih (regrouped ▸ ascending), regrouped]

/-- A dictionary in order is the dictionary of its entries. -/
theorem Ascending.ofList_eq {entries : Dict α} (ascending : Ascending entries) :
    Dict.ofList entries = entries :=
  overlay_eq_append ascending

end Dict

namespace Json

mutual

/-- The fields of all objects in a value ascend. -/
def Ordered : Json → Prop
  | .array items => OrderedItems items
  | .object fields => Dict.Ascending fields ∧ OrderedFields fields
  | _ => True

/-- All items are in order. -/
def OrderedItems : List Json → Prop
  | [] => True
  | item :: rest => Ordered item ∧ OrderedItems rest

/-- The values of all fields are in order. -/
def OrderedFields : List (String × Json) → Prop
  | [] => True
  | (_, value) :: rest => Ordered value ∧ OrderedFields rest

end

/-- Items are in order one by one. -/
theorem orderedItems_iff {items : List Json} :
    OrderedItems items ↔ ∀ item ∈ items, Ordered item := by
  induction items with
  | nil => simp [OrderedItems]
  | cons item rest ih => simp [OrderedItems, ih]

/-- The values of fields are in order one by one. -/
theorem orderedFields_iff {fields : List (String × Json)} :
    OrderedFields fields ↔ ∀ field ∈ fields, Ordered field.2 := by
  induction fields with
  | nil => simp [OrderedFields]
  | cons field rest ih => simp [OrderedFields, ih]

/-- A field with a value in order keeps the others in order. -/
theorem OrderedFields.insert {fields : Dict Json} (ordered : OrderedFields fields) (key : String)
    {value : Json} (valueOrdered : Ordered value) : OrderedFields (Dict.insert fields key value) := by
  rw [orderedFields_iff] at ordered ⊢
  intro field member
  rcases Dict.mem_insert member with rfl | earlier
  · exact valueOrdered
  · exact ordered field earlier

mutual

/-- Sorting leaves a value in order alone. -/
theorem sorted_of_ordered {value : Json} (ordered : Ordered value) : value.sorted = value := by
  cases value with
  | array items => rw [sorted, sortedItems_of_ordered ordered]
  | object fields =>
      have whole := sortedFields_of_ordered (show OrderedFields fields from ordered.2) []
        (by simpa using ordered.1)
      rw [sorted, whole, List.nil_append]
  | _ => rfl

/-- Sorting leaves items in order alone. -/
theorem sortedItems_of_ordered {items : List Json} (ordered : OrderedItems items) :
    sortedItems items = items := by
  cases items with
  | nil => rfl
  | cons item rest =>
      rw [sortedItems, sorted_of_ordered ordered.1, sortedItems_of_ordered ordered.2]

/-- Sorting puts fields in order behind smaller ones. -/
theorem sortedFields_of_ordered {fields : List (String × Json)} (ordered : OrderedFields fields)
    (done : Dict Json) (ascending : Dict.Ascending (done ++ fields)) :
    sortedFields fields done = done ++ fields := by
  cases fields with
  | nil => rw [sortedFields, List.append_nil]
  | cons field rest =>
      obtain ⟨key, value⟩ := field
      have larger : ∀ name ∈ Dict.keys done, name < key := by
        intro name member
        rw [Dict.Ascending, Dict.keys, List.map_append, List.pairwise_append] at ascending
        exact ascending.2.2 name member key (by simp)
      have regrouped : done ++ (key, value) :: rest = (done ++ [(key, value)]) ++ rest := by simp
      rw [sortedFields, sorted_of_ordered ordered.1, Dict.insert_of_forall_lt larger,
        sortedFields_of_ordered ordered.2 _ (regrouped ▸ ascending), regrouped]

end

mutual

/-- Sorting puts a value in order. -/
theorem ordered_sorted (value : Json) : Ordered value.sorted := by
  cases value with
  | array items => exact orderedItems_sorted items
  | object fields => exact ordered_sortedFields fields List.Pairwise.nil trivial
  | _ => trivial

/-- Sorting puts items in order. -/
theorem orderedItems_sorted (items : List Json) : OrderedItems (sortedItems items) := by
  cases items with
  | nil => trivial
  | cons item rest => exact ⟨ordered_sorted item, orderedItems_sorted rest⟩

/-- Sorting puts fields in order. -/
theorem ordered_sortedFields (fields : List (String × Json)) {done : Dict Json}
    (ascending : Dict.Ascending done) (ordered : OrderedFields done) :
    Ordered (.object (sortedFields fields done)) := by
  cases fields with
  | nil => exact ⟨ascending, ordered⟩
  | cons field rest =>
      exact ordered_sortedFields rest (ascending.insert field.1 field.2.sorted)
        (ordered.insert field.1 (ordered_sorted field.2))

end

/-- Fields of distinct names are sorted alike in any order. -/
theorem sortedFields_perm {fields others : List (String × Json)} (permuted : fields.Perm others)
    (distinct : (Dict.keys fields).Nodup) (done : Dict Json) :
    sortedFields fields done = sortedFields others done := by
  induction permuted generalizing done with
  | nil => rfl
  | cons field _ ih => exact ih (List.nodup_cons.mp distinct).2 _
  | swap first second rest =>
      have different : second.1 ≠ first.1 := by
        rintro same
        exact (List.nodup_cons.mp distinct).1 (same ▸ List.mem_cons_self)
      rw [sortedFields, sortedFields, sortedFields, sortedFields, Dict.insert_comm _ different]
  | trans left _ front behind =>
      rw [front distinct, behind ((left.map Prod.fst).nodup_iff.mp distinct)]

/-- Fields whose values are sorted alike are sorted alike. -/
theorem sortedFields_congr {fields others : List (String × Json)}
    (alike : List.Forall₂ (fun field other => field.1 = other.1 ∧ field.2.sorted = other.2.sorted)
      fields others) (done : Dict Json) :
    sortedFields fields done = sortedFields others done := by
  induction alike generalizing done with
  | nil => rfl
  | cons same _ ih => rw [sortedFields, sortedFields, same.1, same.2, ih]

end Json

namespace Decode

mutual

/-- A decoded value is in order. -/
theorem ordered_of_json {reading : Reading} {draft : Draft} {value : Json}
    (decoded : json reading draft = .ok value) : value.Ordered := by
  cases draft with
  | scalar scalar stop =>
      rcases scalar with cause | scalar
      · cases decoded
      · cases scalar <;> cases decoded <;> trivial
  | array items stop =>
      rw [json] at decoded
      obtain ⟨inner, _, decoded⟩ := Failing.bind_eq_ok.mp decoded
      obtain ⟨values, made, decoded⟩ := Failing.bind_eq_ok.mp decoded
      obtain ⟨_, _, equal⟩ := Failing.bind_eq_ok.mp decoded
      cases equal
      exact orderedItems_of_json made
  | object fields stop =>
      rw [json] at decoded
      obtain ⟨inner, _, decoded⟩ := Failing.bind_eq_ok.mp decoded
      obtain ⟨values, made, decoded⟩ := Failing.bind_eq_ok.mp decoded
      obtain ⟨_, _, equal⟩ := Failing.bind_eq_ok.mp decoded
      cases equal
      exact ordered_of_jsonFields made List.Pairwise.nil trivial

/-- Decoded items are in order. -/
theorem orderedItems_of_json {reading : Reading} {items : List Draft} {values : List Json}
    (decoded : jsonItems reading items = .ok values) : Json.OrderedItems values := by
  cases items with
  | nil =>
      cases decoded
      trivial
  | cons item rest =>
      rw [jsonItems] at decoded
      obtain ⟨first, made, decoded⟩ := Failing.bind_eq_ok.mp decoded
      obtain ⟨others, behind, equal⟩ := Failing.bind_eq_ok.mp decoded
      cases equal
      exact ⟨ordered_of_json made, orderedItems_of_json behind⟩

/-- Decoded fields are in order. -/
theorem ordered_of_jsonFields {reading : Reading} {done values : Dict Json}
    {fields : List (Except Fault String × Draft)}
    (decoded : jsonFields reading done fields = .ok values) (ascending : Dict.Ascending done)
    (ordered : Json.OrderedFields done) : (Json.object values).Ordered := by
  cases fields with
  | nil =>
      cases decoded
      exact ⟨ascending, ordered⟩
  | cons field rest =>
      obtain ⟨name, draft⟩ := field
      rw [jsonFields] at decoded
      obtain ⟨key, _, decoded⟩ := Failing.bind_eq_ok.mp decoded
      obtain ⟨value, made, behind⟩ := Failing.bind_eq_ok.mp decoded
      exact ordered_of_jsonFields behind (ascending.insert key value)
        (ordered.insert key (ordered_of_json made))

end

/-- A decoded object is in order. -/
theorem ordered_of_object {reading : Reading} {draft : Draft} {fields : Dict Json}
    (decoded : object reading draft = .ok fields) : (Json.object fields).Ordered := by
  obtain ⟨ascending, made⟩ := dict_ok decoded
  refine ⟨ascending, Json.orderedFields_iff.mpr fun field member => ?_⟩
  obtain ⟨_, _, value⟩ := made field member
  exact ordered_of_json value

end Decode

end EventFlow
