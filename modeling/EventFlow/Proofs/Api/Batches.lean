import EventFlow.Proofs.Api.Consistency

/-!
# Batches of triggers

A batch of triggers is checked as a whole and written at once. It makes no difference to
the documents whether triggers come in one batch or each in a call of its own: what the
second call reads is what the first one has written, with the triggers in the same form and
the ids in the same order, so the calls succeed together and the documents are the same in
the end.
-/

namespace EventFlow

/-! ## Reading what was written -/

/-- Fields that were sorted are sorted. -/
theorem Json.sortedFields_sortedFields (fields : List (String × Json)) :
    sortedFields (sortedFields fields []) [] = sortedFields fields [] := by
  have ordered := @ordered_sortedFields fields [] .nil trivial
  rw [sortedFields_of_ordered ordered.2 [] (by simpa using ordered.1), List.nil_append]

namespace Trigger

/-- A context is put into order once and for all. -/
theorem ordered_ordered (trigger : Trigger) : trigger.ordered.ordered = trigger.ordered := by
  simp only [ordered, Json.sortedFields_sortedFields]

/-- A trigger is written in order anyway. -/
theorem toJson_ordered (trigger : Trigger) : trigger.ordered.toJson = trigger.toJson := by
  simp only [toJson_eq, ordered, Json.sortedFields_sortedFields]

end Trigger

namespace Documents

variable {documents : Documents} {space : String} {stored : Dict Trigger} {index : SourceEvents}

/-- The triggers that are rewritten are there. -/
theorem get?_triggers_rewritten :
    (documents.rewritten space stored index).get? space triggers = some (ofTriggers stored) :=
  (get?_put_of_name_ne _ _ _ (by decide)).trans (get?_put_self _ _ _ _)

/-- The index that is rewritten is there. -/
theorem get?_sourceEvents_rewritten :
    (documents.rewritten space stored index).get? space sourceEvents = some index.toJson :=
  get?_put_self _ _ _ _

/-- Triggers in order are read with their contexts in order. -/
theorem loadTriggers_of_ascending (ascending : Dict.Ascending stored)
    (written : documents.get? space triggers = some (ofTriggers stored)) :
    documents.loadTriggers space = .ok (stored.map fun entry => (entry.1, entry.2.ordered)) := by
  have names : Dict.Ascending (stored.map fun entry => (entry.1, entry.2.ordered)) := by
    rwa [Dict.Ascending, Dict.keys, List.map_map]
  rw [loadTriggers_of_get? written]
  simp only [Trigger.ordered_ordered, names.ofList_eq]

/-- An index in order is read as it is. -/
theorem loadIndex_of_ascending (ascending : Dict.Ascending index)
    (written : documents.get? space sourceEvents = some index.toJson) :
    documents.loadIndex space = .ok index := by
  rw [loadIndex, load?_index_of_get? written, ascending.ofList_eq]
  rfl

/-- Contexts that are in order stay as they are. -/
theorem map_ordered (ordered : ∀ entry ∈ stored, (Json.object entry.2.context).Ordered) :
    (stored.map fun entry => (entry.1, entry.2.ordered)) = stored := by
  refine (List.map_congr_left fun entry member => ?_).trans (List.map_id _)
  rw [Trigger.ordered_of_ordered (ordered entry member)]
  rfl

/-- Nothing remains of triggers and an index that are rewritten once more. -/
theorem rewritten_rewritten (documents : Documents) (space : String)
    (first second : Dict Trigger) (earlier later : SourceEvents) :
    (documents.rewritten space first earlier).rewritten space second later =
      documents.rewritten space second later := by
  have before : sourceEvents < triggers := by decide
  simp only [rewritten, put, Dict.get?_insert_self, Option.getD_some, Dict.insert_insert_self,
    Dict.insert_comm_of_lt _ before]

/-- Rewriting leaves the other namespaces. -/
theorem get?_rewritten_of_space_ne {other : String} (different : other ≠ space) :
    Dict.get? (documents.rewritten space stored index) other = Dict.get? documents other := by
  simp only [rewritten, put, Dict.get?_insert_of_ne _ _ (Ne.symm different)]

end Documents

namespace Call

variable {documents after : Documents} {space : String} {trigger : Trigger}
  {triggers : List Trigger} {stored : Dict Trigger} {index : SourceEvents}

/-! ## Batches -/

/-- Stored triggers, and with them those of a batch under their ids. -/
def filed (stored : Dict Trigger) (triggers : List Trigger) : Dict Trigger :=
  triggers.foldl (fun stored trigger => Dict.insert stored trigger.id trigger) stored

/-- No id of a batch is taken if its ids are distinct and none of them was taken before. -/
theorem firstTaken?_eq_none_iff {taken : List String} :
    firstTaken? taken triggers = none ↔
      (triggers.map Trigger.id).Nodup ∧ ∀ trigger ∈ triggers, trigger.id ∉ taken := by
  induction triggers generalizing taken with
  | nil => simp [firstTaken?]
  | cons first rest ih =>
    rw [firstTaken?]
    split
    · next present =>
      have listed : first.id ∈ taken := by simpa using present
      simp [listed]
    · next absent =>
      have unlisted : first.id ∉ taken := by simpa using absent
      rw [ih, List.map_cons, List.nodup_cons, List.forall_mem_cons]
      constructor
      · rintro ⟨distinct, free⟩
        refine ⟨⟨fun listed => ?_, distinct⟩, unlisted, fun other member taken => ?_⟩
        · obtain ⟨other, member, same⟩ := List.mem_map.mp listed
          exact free other member (same ▸ List.mem_cons_self)
        · exact free other member (List.mem_cons_of_mem _ taken)
      · rintro ⟨⟨fresh, distinct⟩, -, free⟩
        refine ⟨distinct, fun other member taken => ?_⟩
        rcases List.mem_cons.mp taken with same | earlier
        · exact fresh (same ▸ List.mem_map_of_mem member)
        · exact free other member earlier

/-- Storing a batch succeeds if the namespace is there, its triggers and their index can be
read, and the ids are free. The batch is then written behind what was read. -/
theorem store_eq_ok_iff :
    store documents space triggers = .ok after ↔
      documents.spaceExists space = true ∧ ∃ stored index,
        documents.loadTriggers space = .ok stored ∧ documents.loadIndex space = .ok index ∧
          firstTaken? (Dict.keys stored) triggers = none ∧
          after = documents.rewritten space (filed stored triggers)
            (triggers.foldl SourceEvents.add index) := by
  constructor
  · intro succeeded
    obtain ⟨_, required, succeeded⟩ := Failing.bind_eq_ok.mp succeeded
    obtain ⟨stored, loaded, succeeded⟩ := Failing.bind_eq_ok.mp succeeded
    split at succeeded
    · cases succeeded
    · next free =>
      obtain ⟨index, known, succeeded⟩ := Failing.bind_eq_ok.mp succeeded
      cases succeeded
      exact ⟨exists_of_requireSpace required, stored, index, loaded, known, free, rfl⟩
  · rintro ⟨present, stored, index, loaded, known, free, rfl⟩
    simp only [store, requireSpace, present, if_true, loaded, known, free, Failing.ok_bind]
    rfl

/-- What is filed with a batch of new ids was there, or is of the batch. -/
theorem get?_filed_iff (free : firstTaken? (Dict.keys stored) triggers = none) (id : String)
    (trigger : Trigger) : Dict.get? (filed stored triggers) id = some trigger ↔
      Dict.get? stored id = some trigger ∨ trigger ∈ triggers ∧ trigger.id = id := by
  obtain ⟨distinct, new⟩ := firstTaken?_eq_none_iff.mp free
  let entries := triggers.map fun trigger => (trigger.id, trigger)
  have names : (Dict.keys entries).Nodup := by
    simpa [entries, Dict.keys, Function.comp_def] using distinct
  have laid : filed stored triggers = Dict.overlay stored entries := by
    rw [filed, Dict.overlay, List.foldl_map]
  rw [laid, Dict.get?_overlay names, ← Trigger.get?_byId_iff distinct]
  cases later : Dict.get? entries id with
  | none => rw [Option.none_or, or_iff_left nofun]
  | some present =>
    obtain ⟨member, rfl⟩ := (Trigger.get?_byId_iff distinct).mp later
    have absent := Dict.get?_eq_none_iff.mpr (new present member)
    rw [Option.some_or, absent, or_iff_right nofun]

/-- Filing triggers keeps the stored ones in order. -/
theorem ascending_filed (ascending : Dict.Ascending stored) (triggers : List Trigger) :
    Dict.Ascending (filed stored triggers) := by
  unfold filed
  induction triggers generalizing stored with
  | nil => exact ascending
  | cons first rest ih => exact ih (ascending.insert _ _)

/-- Listing triggers keeps an index in order. -/
theorem ascending_addAll (ascending : Dict.Ascending index) (triggers : List Trigger) :
    Dict.Ascending (triggers.foldl SourceEvents.add index) := by
  have grows : ∀ (subjects : List String) (id : String) {index : SourceEvents},
      Dict.Ascending index → Dict.Ascending (subjects.foldl (SourceEvents.addUnder id) index) := by
    intro subjects id
    induction subjects with
    | nil => exact fun ascending => ascending
    | cons subject rest ih => exact fun ascending => ih (ascending.insert _ _)
  induction triggers generalizing index with
  | nil => exact ascending
  | cons first rest ih => exact ih (grows first.subjects first.id ascending)

/-- Stored triggers are written in order anyway, with whatever is filed among them. -/
theorem ofTriggers_filed_ordered (stored : Dict Trigger) (triggers : List Trigger) :
    Documents.ofTriggers (filed (stored.map fun entry => (entry.1, entry.2.ordered)) triggers) =
      Documents.ofTriggers (filed stored triggers) := by
  have written : ∀ stored : Dict Trigger,
      (filed stored triggers).map (fun entry => (entry.1, entry.2.toJson)) =
        triggers.foldl (fun stored trigger => Dict.insert stored trigger.id trigger.toJson)
          (stored.map fun entry => (entry.1, entry.2.toJson)) := by
    unfold filed
    induction triggers with
    | nil => exact fun _ => rfl
    | cons first rest ih =>
      intro stored
      rw [List.foldl_cons, ih, Dict.map_insert, List.foldl_cons]
  simp only [Documents.ofTriggers, written, List.map_map, Function.comp_def,
    Trigger.toJson_ordered]

/-- What was written can be read, so a batch that comes next needs free ids and nothing else.
It is written as if the triggers that are there had just been filed with it. -/
theorem store_rewritten_iff (present : documents.spaceExists space = true)
    (ascending : Dict.Ascending stored) (listing : Dict.Ascending index) :
    store (documents.rewritten space stored index) space triggers = .ok after ↔
      firstTaken? (Dict.keys stored) triggers = none ∧
        after = documents.rewritten space (filed stored triggers)
          (triggers.foldl SourceEvents.add index) := by
  have stays : (documents.rewritten space stored index).spaceExists space = true := by
    rw [Documents.spaceExists, Documents.get?_rewritten_of_ne (by decide) (by decide)]
    exact present
  have names : Dict.keys (stored.map fun entry => (entry.1, entry.2.ordered)) =
      Dict.keys stored := by
    rw [Dict.keys, Dict.keys, List.map_map]
    rfl
  have written : (documents.rewritten space stored index).rewritten space
      (filed (stored.map fun entry => (entry.1, entry.2.ordered)) triggers)
      (triggers.foldl SourceEvents.add index) =
        documents.rewritten space (filed stored triggers)
          (triggers.foldl SourceEvents.add index) := by
    rw [Documents.rewritten_rewritten, Documents.rewritten, Documents.rewritten,
      ofTriggers_filed_ordered]
  have loaded := Documents.loadTriggers_of_ascending ascending
    (@Documents.get?_triggers_rewritten documents space stored index)
  have known := Documents.loadIndex_of_ascending listing
    (@Documents.get?_sourceEvents_rewritten documents space stored index)
  rw [store_eq_ok_iff, ← names]
  constructor
  · rintro ⟨-, found, listed, first, second, free, rfl⟩
    cases loaded.symm.trans first
    cases known.symm.trans second
    exact ⟨free, written⟩
  · rintro ⟨free, rfl⟩
    exact ⟨stays, _, _, loaded, known, free, written.symm⟩

/-- The ids of a batch are free if the first one is, and the others are behind it. -/
theorem firstTaken?_cons_iff (rest : List Trigger) :
    firstTaken? (Dict.keys stored) (trigger :: rest) = none ↔
      firstTaken? (Dict.keys stored) [trigger] = none ∧
        firstTaken? (Dict.keys (filed stored [trigger])) rest = none := by
  have names : ∀ id, id ∈ Dict.keys (filed stored [trigger]) ↔
      id ∈ trigger.id :: Dict.keys stored := by
    intro id
    rw [Dict.mem_keys_iff, List.mem_cons, Dict.mem_keys_iff]
    simp only [filed, List.foldl_cons, List.foldl_nil, Dict.get?_insert]
    by_cases here : trigger.id = id
    · simp [here]
    · simp [here, Ne.symm here]
  have behind : firstTaken? (Dict.keys (filed stored [trigger])) rest = none ↔
      firstTaken? (trigger.id :: Dict.keys stored) rest = none := by
    simp only [firstTaken?_eq_none_iff, names]
  rw [behind]
  simp only [firstTaken?]
  split <;> simp

/-- A batch is stored if its first trigger can be stored, and then the others; the documents
are the same. -/
theorem store_cons_iff (rest : List Trigger) :
    store documents space (trigger :: rest) = .ok after ↔
      ∃ middle, store documents space [trigger] = .ok middle ∧
        store middle space rest = .ok after := by
  have behind : ∀ {stored : Dict Trigger} {index : SourceEvents},
      documents.spaceExists space = true → documents.loadTriggers space = .ok stored →
      documents.loadIndex space = .ok index →
      (store (documents.rewritten space (filed stored [trigger])
          ([trigger].foldl SourceEvents.add index)) space rest = .ok after ↔
        firstTaken? (Dict.keys (filed stored [trigger])) rest = none ∧
          after = documents.rewritten space (filed stored (trigger :: rest))
            ((trigger :: rest).foldl SourceEvents.add index)) :=
    fun present loaded known => store_rewritten_iff present
      (ascending_filed (Documents.ascending_of_load? loaded) [trigger])
      (ascending_addAll (Documents.ascending_of_load? known) [trigger])
  constructor
  · intro succeeded
    obtain ⟨present, stored, index, loaded, known, free, rfl⟩ := store_eq_ok_iff.mp succeeded
    obtain ⟨first, others⟩ := (firstTaken?_cons_iff rest).mp free
    exact ⟨_, store_eq_ok_iff.mpr ⟨present, stored, index, loaded, known, first, rfl⟩,
      (behind present loaded known).mpr ⟨others, rfl⟩⟩
  · rintro ⟨middle, succeeded, next⟩
    obtain ⟨present, stored, index, loaded, known, first, rfl⟩ := store_eq_ok_iff.mp succeeded
    obtain ⟨others, rfl⟩ := (behind present loaded known).mp next
    exact store_eq_ok_iff.mpr ⟨present, stored, index, loaded, known,
      (firstTaken?_cons_iff rest).mpr ⟨first, others⟩, rfl⟩

/-- Store triggers one after the other, each in a batch of its own. -/
def storeEach (documents : Documents) (space : String) (triggers : List Trigger) :
    Except Failure Documents :=
  triggers.foldlM (fun documents trigger => store documents space [trigger]) documents

/-- Triggers can be stored one after the other if and only if they can be stored as a batch,
and the documents are the same. -/
theorem storeEach_eq_ok_iff (nonempty : triggers ≠ []) :
    storeEach documents space triggers = .ok after ↔
      store documents space triggers = .ok after := by
  unfold storeEach
  induction triggers generalizing documents with
  | nil => exact absurd rfl nonempty
  | cons first rest ih =>
    rw [List.foldlM_cons, Failing.bind_eq_ok]
    cases rest with
    | nil =>
      constructor
      · rintro ⟨middle, succeeded, equal⟩
        cases equal
        exact succeeded
      · exact fun succeeded => ⟨after, succeeded, rfl⟩
    | cons second rest =>
      rw [store_cons_iff]
      exact exists_congr fun middle => and_congr_right fun _ => ih (List.cons_ne_nil _ _)

end Call

end EventFlow
