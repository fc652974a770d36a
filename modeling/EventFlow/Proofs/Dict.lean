import EventFlow.Dict

/-!
# Entries and names of a dictionary

Lookup, seen from the list of entries: which names are found at all, and when
every entry is the one that is found under its name.
-/

namespace EventFlow.Dict

variable {α : Type}

/-- What is found under a name is an entry. -/
theorem mem_of_get? {entries : Dict α} {key : String} {value : α}
    (found : get? entries key = some value) : (key, value) ∈ entries := by
  induction entries with
  | nil => cases found
  | cons entry rest ih =>
      obtain ⟨name, first⟩ := entry
      by_cases same : name = key
      · subst same
        simp only [get?_cons, if_true, Option.some.injEq] at found
        subst found
        exact List.mem_cons_self
      · rw [get?_cons, if_neg same] at found
        exact List.mem_cons_of_mem _ (ih found)

/-- A name has an entry exactly when something is found under it. -/
theorem mem_keys_iff {entries : Dict α} {key : String} :
    key ∈ keys entries ↔ ∃ value, get? entries key = some value := by
  induction entries with
  | nil => simp [keys]
  | cons entry rest ih =>
      obtain ⟨name, first⟩ := entry
      by_cases same : name = key
      · simp [keys, same]
      · have different : ¬ key = name := fun equal => same equal.symm
        simpa [keys, same, different] using ih

/-- Nothing is found under a name that has no entry. -/
theorem get?_eq_none_iff {entries : Dict α} {key : String} :
    get? entries key = none ↔ key ∉ keys entries := by
  rw [mem_keys_iff]
  cases get? entries key <;> simp

/-- With distinct names every entry is found under its name. -/
theorem get?_of_mem {entries : Dict α} {key : String} {value : α}
    (distinct : (keys entries).Nodup) (member : (key, value) ∈ entries) :
    get? entries key = some value := by
  induction entries with
  | nil => cases member
  | cons entry rest ih =>
      obtain ⟨name, first⟩ := entry
      rw [keys, List.map_cons, List.nodup_cons] at distinct
      rcases List.mem_cons.mp member with equal | later
      · cases equal
        simp
      · have different : name ≠ key := by
          rintro rfl
          exact distinct.1 (List.mem_map.mpr ⟨_, later, rfl⟩)
        rw [get?_cons, if_neg different]
        exact ih distinct.2 later

/-- An entry is new or was there before the insertion. -/
theorem mem_insert {entries : Dict α} {key : String} {value : α} {entry : String × α}
    (member : entry ∈ insert entries key value) : entry = (key, value) ∨ entry ∈ entries := by
  induction entries with
  | nil => exact .inl (List.mem_singleton.mp member)
  | cons first rest ih =>
      obtain ⟨name, old⟩ := first
      simp only [insert] at member
      split at member
      · rcases List.mem_cons.mp member with new | later
        · exact .inl new
        · exact .inr (List.mem_cons_of_mem _ later)
      · split at member
        · exact List.mem_cons.mp member
        · rcases List.mem_cons.mp member with first | later
          · exact .inr (first ▸ List.mem_cons_self)
          · exact (ih later).imp_right (List.mem_cons_of_mem _)

/-- A name that is inserted is a new one or was there. -/
theorem mem_keys_insert {entries : Dict α} {key name : String} {value : α}
    (member : name ∈ keys (insert entries key value)) : name = key ∨ name ∈ keys entries := by
  obtain ⟨entry, inside, rfl⟩ := List.mem_map.mp member
  exact (mem_insert inside).imp (congrArg Prod.fst) fun earlier => List.mem_map_of_mem earlier

/-- The entries of an overlay are upper or lower ones. -/
theorem mem_overlay {lower upper : Dict α} {entry : String × α}
    (member : entry ∈ overlay lower upper) : entry ∈ upper ∨ entry ∈ lower := by
  unfold overlay at member
  induction upper generalizing lower with
  | nil => exact .inr member
  | cons first rest ih =>
      rw [List.foldl_cons] at member
      rcases ih member with later | inserted
      · exact .inl (List.mem_cons_of_mem _ later)
      · rcases mem_insert inserted with rfl | lower
        · exact .inl List.mem_cons_self
        · exact .inr lower

/-- The names of an overlay are those of its parts. -/
theorem mem_keys_overlay {lower upper : Dict α} {key : String} :
    key ∈ keys (overlay lower upper) ↔ key ∈ keys upper ∨ key ∈ keys lower := by
  unfold overlay
  induction upper generalizing lower with
  | nil => simp [keys]
  | cons entry rest ih =>
      have inserted : key ∈ keys (insert lower entry.1 entry.2) ↔
          key = entry.1 ∨ key ∈ keys lower := by
        rw [mem_keys_iff, mem_keys_iff, get?_insert]
        by_cases same : key = entry.1
        · simp [same]
        · simp [same, Ne.symm same]
      have listed : key ∈ keys (entry :: rest) ↔ key = entry.1 ∨ key ∈ keys rest := List.mem_cons
      rw [List.foldl_cons, ih, inserted, listed, or_left_comm, or_assoc]

/-- The names of the dictionary of a list are those of the list. -/
theorem mem_keys_ofList {entries : List (String × α)} {key : String} :
    key ∈ keys (ofList entries) ↔ key ∈ keys entries :=
  mem_keys_overlay.trans (or_iff_left List.not_mem_nil)

/-- The dictionary of a list has no other entries. -/
theorem mem_ofList {entries : List (String × α)} {entry : String × α}
    (member : entry ∈ ofList entries) : entry ∈ entries :=
  (mem_overlay member).resolve_right List.not_mem_nil

/-- Entries that are dropped because of their name are not found any more, all
others are. -/
theorem get?_filter (keep : String → Bool) (entries : Dict α) (key : String) :
    get? (entries.filter fun entry => keep entry.1) key =
      if keep key then get? entries key else none := by
  induction entries with
  | nil => simp
  | cons entry rest ih =>
      obtain ⟨name, value⟩ := entry
      by_cases same : name = key
      · subst same
        cases kept : keep name <;> simp [kept, ih]
      · cases kept : keep name <;> simp [kept, ih, same]

/-- Names that the upper entries lack keep their values. -/
theorem get?_overlay_of_not_mem {lower upper : Dict α} {key : String}
    (absent : key ∉ keys upper) : get? (overlay lower upper) key = get? lower key := by
  unfold overlay
  induction upper generalizing lower with
  | nil => rfl
  | cons entry rest ih =>
      rw [keys, List.map_cons, List.mem_cons, not_or] at absent
      rw [List.foldl_cons, ih absent.2, get?_insert_of_ne _ _ (Ne.symm absent.1)]

/-- Upper entries of distinct names win over the lower ones. -/
theorem get?_overlay {lower upper : Dict α} (distinct : (keys upper).Nodup) (key : String) :
    get? (overlay lower upper) key = (get? upper key).or (get? lower key) := by
  unfold overlay
  induction upper generalizing lower with
  | nil => simp
  | cons entry rest ih =>
      obtain ⟨name, value⟩ := entry
      rw [keys, List.map_cons, List.nodup_cons] at distinct
      rw [List.foldl_cons, ih distinct.2, get?_cons]
      by_cases same : name = key
      · subst same
        rw [get?_eq_none_iff.mpr distinct.1]
        simp
      · simp [same, get?_insert_of_ne _ _ same]

/-- The names ascend. -/
def Ascending (entries : Dict α) : Prop :=
  (keys entries).Pairwise (· < ·)

/-- Ascending names are distinct. -/
theorem Ascending.nodup {entries : Dict α} (ascending : Ascending entries) :
    (keys entries).Nodup := by
  refine List.Pairwise.imp ?_ ascending
  rintro name _ less rfl
  exact String.lt_irrefl name less

/-- An insertion keeps names ascending. -/
theorem Ascending.insert {entries : Dict α} (ascending : Ascending entries) (key : String)
    (value : α) : Ascending (insert entries key value) := by
  induction entries with
  | nil => exact List.pairwise_singleton _ _
  | cons entry rest ih =>
      obtain ⟨name, old⟩ := entry
      obtain ⟨least, above⟩ := List.pairwise_cons.mp ascending
      simp only [Dict.insert]
      split
      · rename_i same
        subst same
        exact ascending
      · split
        · rename_i less
          refine List.pairwise_cons.mpr ⟨fun other member => ?_, ascending⟩
          rcases List.mem_cons.mp member with rfl | later
          · exact less
          · exact String.lt_trans less (least other later)
        · rename_i different notLess
          have greater : name < key := by
            rcases String.le_total name key with le | le
            · exact String.not_le.mp fun reverse => different (String.le_antisymm le reverse)
            · exact absurd (String.not_le.mp fun reverse => different
                (String.le_antisymm reverse le)) notLess
          refine List.pairwise_cons.mpr ⟨fun other member => ?_, ih above⟩
          obtain ⟨inserted, inside, rfl⟩ := List.mem_map.mp member
          rcases mem_insert inside with rfl | earlier
          · exact greater
          · exact least _ (List.mem_map_of_mem earlier)

/-- An erasure keeps names ascending. -/
theorem Ascending.erase {entries : Dict α} (ascending : Ascending entries) (key : String) :
    Ascending (erase entries key) :=
  List.Pairwise.sublist (List.filter_sublist.map Prod.fst) ascending

/-- An overlay keeps names ascending. -/
theorem Ascending.overlay {lower : Dict α} (ascending : Ascending lower) (upper : Dict α) :
    Ascending (overlay lower upper) := by
  unfold Dict.overlay
  induction upper generalizing lower with
  | nil => exact ascending
  | cons entry rest ih => exact ih (ascending.insert entry.1 entry.2)

/-- The dictionary of a list has ascending names. -/
theorem Ascending.ofList (entries : List (String × α)) : Ascending (ofList entries) :=
  Ascending.overlay (show Ascending [] from List.Pairwise.nil) entries

/-- The dictionary of a list of distinct names has what the list has. -/
theorem get?_ofList {entries : List (String × α)} (distinct : (keys entries).Nodup) (key : String) :
    get? (ofList entries) key = get? entries key :=
  (get?_overlay distinct key).trans (Option.or_none ..)

/-- What the dictionary of a list has after every value was changed. -/
theorem Ascending.get?_ofList_map {entries : Dict α} {β : Type} (ascending : Ascending entries)
    (change : α → β) (key : String) :
    get? (Dict.ofList (entries.map fun entry => (entry.1, change entry.2))) key =
      (get? entries key).map change := by
  have names : keys (entries.map fun entry => (entry.1, change entry.2)) = keys entries := by
    simp [keys, Function.comp_def]
  rw [get?_ofList (names ▸ ascending.nodup)]
  clear names ascending
  induction entries with
  | nil => rfl
  | cons entry rest ih =>
      rw [List.map_cons, get?_cons, get?_cons, ih]
      split <;> rfl

/-- The entries ascend by their names. -/
theorem Ascending.pairwise {entries : Dict α} (ascending : Ascending entries) :
    List.Pairwise (fun entry other : String × α => entry.1 < other.1) entries :=
  List.pairwise_map.mp (show (entries.map Prod.fst).Pairwise (· < ·) from ascending)

/-- Dictionaries in order in which the same is found are the same. -/
theorem Ascending.ext {entries others : Dict α} (ascending : Ascending entries)
    (otherAscending : Ascending others) (same : ∀ key, get? entries key = get? others key) :
    entries = others := by
  have once : ∀ {dict : Dict α}, Ascending dict → List.Nodup dict := by
    intro dict ordered
    refine ordered.pairwise.imp ?_
    rintro entry _ less rfl
    exact String.lt_irrefl entry.1 less
  have members : ∀ entry, entry ∈ entries ↔ entry ∈ others := fun (key, value) =>
    ⟨fun member => mem_of_get? (same key ▸ get?_of_mem ascending.nodup member),
      fun member => mem_of_get? (same key ▸ get?_of_mem otherAscending.nodup member)⟩
  have perm : List.Perm entries others :=
    (List.perm_ext_iff_of_nodup (once ascending) (once otherAscending)).mpr members
  refine perm.eq_of_pairwise (fun entry other _ _ less greater => ?_) ascending.pairwise
    otherAscending.pairwise
  exact absurd (String.lt_trans less greater) (String.lt_irrefl entry.1)

/-- Giving a name the value that it has changes nothing. -/
theorem Ascending.insert_of_get? {entries : Dict α} (ascending : Ascending entries) {key : String}
    {value : α} (found : get? entries key = some value) : Dict.insert entries key value = entries := by
  induction entries with
  | nil => cases found
  | cons entry rest ih =>
      obtain ⟨name, old⟩ := entry
      obtain ⟨least, above⟩ := List.pairwise_cons.mp ascending
      rw [get?_cons] at found
      simp only [Dict.insert]
      split
      · rename_i same
        rw [if_pos same, Option.some.injEq] at found
        rw [found, same]
      · rename_i different
        rw [if_neg different] at found
        have larger : name < key := least key (mem_keys_iff.mpr ⟨value, found⟩)
        rw [if_neg fun less => String.lt_irrefl name (String.lt_trans larger less), ih above found]

/-- Laying entries over a dictionary that has them changes nothing. -/
theorem Ascending.overlay_of_get? {lower upper : Dict α} (ascending : Ascending lower)
    (same : ∀ entry ∈ upper, get? lower entry.1 = some entry.2) : Dict.overlay lower upper = lower := by
  unfold Dict.overlay
  induction upper with
  | nil => rfl
  | cons entry rest ih =>
      rw [List.foldl_cons, ascending.insert_of_get? (same entry List.mem_cons_self)]
      exact ih fun other member => same other (List.mem_cons_of_mem _ member)

/-- Of two values for one name the later one counts. -/
theorem insert_insert_self (entries : Dict α) (key : String) (first second : α) :
    insert (insert entries key first) key second = insert entries key second := by
  induction entries with
  | nil => simp [insert]
  | cons entry rest ih =>
      obtain ⟨name, old⟩ := entry
      by_cases same : name = key
      · simp [insert, same]
      · by_cases less : key < name
        · simp [insert, same, less]
        · simp [insert, same, less, ih]

/-- A smaller and a larger name may be given their values in any order. -/
theorem insert_comm_of_lt (entries : Dict α) {small large : String} (less : small < large)
    (first second : α) :
    insert (insert entries small first) large second =
      insert (insert entries large second) small first := by
  have different : small ≠ large := fun same => String.lt_irrefl large (same ▸ less)
  have notLess : ¬ large < small := String.lt_asymm less
  induction entries with
  | nil => simp [insert, different, Ne.symm different, less, notLess]
  | cons entry rest ih =>
      obtain ⟨name, old⟩ := entry
      by_cases here : name = small
      · subst here
        simp [insert, different, notLess]
      · by_cases before : small < name
        · simp only [insert, here, before, different, notLess, if_true, if_false]
          split
          · simp [insert, Ne.symm different, less]
          · split
            · simp [insert, Ne.symm different, less]
            · simp [insert, here, before]
        · have beyond : name ≠ large := fun same => before (same ▸ less)
          have behind : ¬ large < name := fun above => before (String.lt_trans less above)
          simp [insert, here, before, beyond, behind, ih]

/-- Different names may be given their values in any order. -/
theorem insert_comm (entries : Dict α) {key other : String} (different : key ≠ other)
    (first second : α) :
    insert (insert entries key first) other second =
      insert (insert entries other second) key first := by
  rcases String.le_total key other with le | le
  · have less : key < other :=
      String.not_le.mp fun reverse => different (String.le_antisymm le reverse)
    exact insert_comm_of_lt entries less first second
  · have less : other < key :=
      String.not_le.mp fun reverse => different (String.le_antisymm reverse le)
    exact (insert_comm_of_lt entries less second first).symm

/-- Giving a name a value commutes with changing every value. -/
theorem map_insert {β : Type} (change : α → β) (entries : Dict α) (key : String) (value : α) :
    (insert entries key value).map (fun entry => (entry.1, change entry.2)) =
      insert (entries.map fun entry => (entry.1, change entry.2)) key (change value) := by
  induction entries with
  | nil => rfl
  | cons entry rest ih =>
      obtain ⟨name, old⟩ := entry
      simp only [insert, List.map_cons]
      split
      · rfl
      · split
        · rfl
        · rw [List.map_cons, ih]

end EventFlow.Dict
