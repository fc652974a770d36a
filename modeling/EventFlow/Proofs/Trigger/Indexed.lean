import Mathlib.Data.List.Nodup
import EventFlow.Proofs.Engine.Index
import EventFlow.Proofs.Trigger.Stored

/-!
# Stored triggers and their index

An index speaks of the stored triggers if it lists exactly them, each under the subjects
that it depends on. Storing another trigger and adding it to the index keeps this, and so
does deleting a trigger and taking it out of the index, if it still depends on what the
stored one depends on.
-/

namespace EventFlow

namespace SourceEvents

variable {index : SourceEvents} {stored : Dict Trigger} {trigger : Trigger}

/-! ## Compact indices -/

/-- An index in order, with no subject that lists nobody. -/
structure Compact (index : SourceEvents) : Prop where
  ascending : Dict.Ascending index
  filled : ∀ subject, Dict.get? index subject ≠ some []

/-- A compact index has an entry for the subjects that somebody waits for. -/
theorem Compact.get?_eq (compact : index.Compact) (subject : String) :
    Dict.get? index subject =
      if waiting index subject = [] then none else some (waiting index subject) := by
  have filled := compact.filled subject
  unfold waiting
  cases listed : Dict.get? index subject with
  | none => rfl
  | some ids =>
    have some : ids ≠ [] := fun empty => filled (by rw [listed, empty])
    exact (if_neg some).symm

/-- Compact indices that list the same ids in the same order are the same. -/
theorem Compact.ext (compact : index.Compact) {other : SourceEvents} (otherCompact : other.Compact)
    (same : ∀ subject, waiting index subject = waiting other subject) : index = other := by
  refine compact.ascending.ext otherCompact.ascending fun subject => ?_
  rw [compact.get?_eq, otherCompact.get?_eq, same]

/-- A list of ids that is not empty keeps an index compact. -/
theorem Compact.insert (compact : index.Compact) (under : String) {ids : List String}
    (nonempty : ids ≠ []) : Compact (Dict.insert index under ids) where
  ascending := compact.ascending.insert _ _
  filled subject := by
    rw [Dict.get?_insert]
    split
    · exact fun empty => nonempty (Option.some.inj empty)
    · exact compact.filled subject

/-- Listing a trigger keeps an index compact. -/
theorem Compact.add (compact : index.Compact) (trigger : Trigger) :
    (SourceEvents.add index trigger).Compact := by
  unfold SourceEvents.add
  generalize trigger.subjects = subjects
  induction subjects generalizing index with
  | nil => exact compact
  | cons subject rest ih =>
    refine ih (compact.insert subject ?_)
    split
    · rename_i present
      exact List.ne_nil_of_mem (List.contains_iff_mem.mp present)
    · simp

/-- Taking a trigger out keeps an index compact. -/
theorem Compact.remove (compact : index.Compact) (trigger : Trigger) :
    (SourceEvents.remove index trigger).Compact := by
  unfold SourceEvents.remove
  generalize trigger.subjects = subjects
  induction subjects generalizing index with
  | nil => exact compact
  | cons subject rest ih =>
    refine ih ?_
    unfold removeUnder
    split
    · exact compact
    · dsimp only
      split
      · refine ⟨compact.ascending.erase _, fun under => ?_⟩
        rw [Dict.get?_erase]
        split
        · simp
        · exact compact.filled under
      · rename_i remaining
        exact compact.insert subject (by simpa using remaining)

/-- Listing a trigger that is listed under its subjects changes nothing. -/
theorem Compact.add_eq_self (compact : index.Compact)
    (listed : ∀ subject ∈ trigger.subjects, trigger.id ∈ waiting index subject) :
    SourceEvents.add index trigger = index := by
  refine (compact.add trigger).ext compact fun subject => ?_
  rw [waiting_add, if_neg fun new => new.2 (listed subject new.1)]

/-- Taking out a trigger that was not listed before it was added gives the index back. -/
theorem Compact.remove_add (compact : index.Compact)
    (absent : ∀ subject, trigger.id ∉ waiting index subject) :
    SourceEvents.remove (SourceEvents.add index trigger) trigger = index := by
  refine ((compact.add trigger).remove trigger).ext compact fun subject => ?_
  have others : (waiting index subject).filter (· ≠ trigger.id) = waiting index subject :=
    List.filter_eq_self.mpr fun id listed =>
      decide_eq_true fun same => absent subject (same ▸ listed)
  rw [waiting_remove, waiting_add]
  by_cases waits : subject ∈ trigger.subjects
  · rw [if_pos waits, if_pos ⟨waits, absent subject⟩, List.filter_append, others]
    simp
  · rw [if_neg waits, if_neg fun new => waits new.1]

/-! ## Tidy indices -/

/-- An index in order, with no subject that lists an id twice or lists none. -/
structure Tidy (index : SourceEvents) : Prop where
  ascending : Dict.Ascending index
  lists : ∀ subject ids, Dict.get? index subject = some ids → ids.Nodup ∧ ids ≠ []

/-- A tidy index is a compact one that lists nobody twice. -/
theorem tidy_iff : index.Tidy ↔ index.Compact ∧ ∀ subject, (waiting index subject).Nodup := by
  constructor
  · refine fun tidy => ⟨⟨tidy.ascending, fun subject empty => ?_⟩, fun subject => ?_⟩
    · exact (tidy.lists subject [] empty).2 rfl
    · unfold waiting
      cases listed : Dict.get? index subject with
      | none => exact List.nodup_nil
      | some ids => exact (tidy.lists subject ids listed).1
  · refine fun ⟨compact, once⟩ => ⟨compact.ascending, fun subject ids listed => ⟨?_, ?_⟩⟩
    · simpa [waiting, listed] using once subject
    · exact fun empty => compact.filled subject (empty ▸ listed)

/-- Listing a trigger keeps an index tidy. -/
theorem Tidy.add (tidy : index.Tidy) (trigger : Trigger) :
    (SourceEvents.add index trigger).Tidy := by
  obtain ⟨compact, once⟩ := tidy_iff.mp tidy
  refine tidy_iff.mpr ⟨compact.add trigger, fun subject => ?_⟩
  rw [waiting_add]
  split
  · rename_i new
    simpa using (once subject).concat new.2
  · exact once subject

/-- Taking a trigger out keeps an index tidy. -/
theorem Tidy.remove (tidy : index.Tidy) (trigger : Trigger) :
    (SourceEvents.remove index trigger).Tidy := by
  obtain ⟨compact, once⟩ := tidy_iff.mp tidy
  refine tidy_iff.mpr ⟨compact.remove trigger, fun subject => ?_⟩
  rw [waiting_remove]
  split
  · exact (once subject).filter _
  · exact once subject

/-! ## Indices of stored triggers -/

/-- An index of stored triggers: these are stored under their own ids, and an id is listed
under a subject if and only if the trigger of that id depends on it. -/
structure Indexes (index : SourceEvents) (stored : Dict Trigger) : Prop extends Tidy index where
  ordered : Dict.Ascending stored
  own : ∀ id trigger, Dict.get? stored id = some trigger → trigger.id = id
  listed : ∀ id subject, id ∈ waiting index subject ↔
    ∃ trigger, Dict.get? stored id = some trigger ∧ subject ∈ trigger.subjects

/-- Without triggers there is nothing to be listed. -/
theorem Indexes.empty : Indexes [] [] where
  ascending := .nil
  lists _ _ found := by cases found
  ordered := .nil
  own _ _ found := by cases found
  listed id subject := by simp [waiting]

/-- A trigger with a new id is stored and listed. -/
theorem Indexes.add (indexes : index.Indexes stored) (fresh : Dict.get? stored trigger.id = none) :
    (SourceEvents.add index trigger).Indexes (Dict.insert stored trigger.id trigger) where
  toTidy := indexes.toTidy.add trigger
  ordered := indexes.ordered.insert _ _
  own id held found := by
    rw [Dict.get?_insert] at found
    split at found
    · rename_i same
      cases found
      exact same
    · exact indexes.own id held found
  listed id subject := by
    rw [mem_waiting_add, indexes.listed, Dict.get?_insert]
    by_cases same : trigger.id = id
    · subst same
      simp [fresh]
    · simp [same, Ne.symm same]

/-- A trigger is deleted and taken out of the index, if it depends on what the stored one
depends on. -/
theorem Indexes.remove (indexes : index.Indexes stored) {held : Trigger}
    (found : Dict.get? stored trigger.id = some held)
    (same : held.dependencies = trigger.dependencies) :
    (SourceEvents.remove index trigger).Indexes (Dict.erase stored trigger.id) where
  toTidy := indexes.toTidy.remove trigger
  ordered := indexes.ordered.erase _
  own id other stays := by
    rw [Dict.get?_erase] at stays
    split at stays
    · cases stays
    · exact indexes.own id other stays
  listed id subject := by
    have subjects : held.subjects = trigger.subjects := by
      rw [Trigger.subjects, Trigger.subjects, same]
    rw [mem_waiting_remove, indexes.listed, Dict.get?_erase]
    by_cases deleted : trigger.id = id
    · subst deleted
      simp [found, subjects]
    · simp [deleted, Ne.symm deleted]

/-- What was written is read back as an index of the stored triggers. -/
theorem Indexes.read (indexes : index.Indexes stored) :
    Indexes (Dict.ofList index)
      (Dict.ofList (stored.map fun entry => (entry.1, entry.2.ordered.ordered))) := by
  have sameIndex : ∀ subject, Dict.get? (Dict.ofList index) subject = Dict.get? index subject :=
    Dict.get?_ofList indexes.ascending.nodup
  have sameStored := indexes.ordered.get?_ofList_map fun trigger => trigger.ordered.ordered
  refine ⟨⟨.ofList _, fun subject ids found => ?_⟩, .ofList _, fun id trigger found => ?_,
    fun id subject => ?_⟩
  · exact indexes.lists subject ids (sameIndex subject ▸ found)
  · rw [sameStored] at found
    obtain ⟨held, known, rfl⟩ := Option.map_eq_some_iff.mp found
    exact indexes.own id held known
  · rw [waiting, sameIndex, sameStored]
    refine (indexes.listed id subject).trans ?_
    simp only [Option.map_eq_some_iff, exists_exists_and_eq_and]
    rfl

end SourceEvents

end EventFlow
