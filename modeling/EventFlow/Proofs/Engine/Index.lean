import EventFlow.Engine.Worker

/-!
# Who waits for a subject

Which ids the source-events index lists under a subject, and in which order, after triggers were
added to it, taken away from it, or after it was rebuilt for a working copy.
-/

namespace EventFlow

/-- A trigger waits for the subjects of its dependencies. -/
theorem Trigger.mem_subjects_iff {trigger : Trigger} {subject : String} :
    subject ∈ trigger.subjects ↔ ∃ key ∈ trigger.dependencies, key.subject = subject := by
  have collected : ∀ (keys : List EventKey) (found : List String),
      subject ∈ keys.foldl (fun found key =>
          if found.contains key.subject then found else found ++ [key.subject]) found ↔
        subject ∈ found ∨ subject ∈ keys.map EventKey.subject := by
    intro keys
    induction keys with
    | nil => simp
    | cons key rest ih =>
      intro found
      rw [List.foldl_cons, ih, List.map_cons, List.mem_cons]
      by_cases present : key.subject ∈ found
      · rw [if_pos (List.contains_iff_mem.mpr present)]
        constructor
        · rintro (earlier | later)
          · exact .inl earlier
          · exact .inr (.inr later)
        · rintro (earlier | rfl | later)
          · exact .inl earlier
          · exact .inl present
          · exact .inr later
      · rw [if_neg (mt List.contains_iff_mem.mp present), List.mem_append, List.mem_singleton,
          or_assoc]
  simpa [subjects] using collected trigger.dependencies []

namespace SourceEvents

variable {index : SourceEvents} {id other subject under : String}

/-- An id is listed at the end of a subject, unless it is there. -/
theorem waiting_addUnder :
    waiting (addUnder id index under) subject =
      if subject = under ∧ id ∉ waiting index subject then waiting index subject ++ [id]
      else waiting index subject := by
  by_cases same : subject = under
  · subst same
    simp [addUnder, waiting]
  · rw [if_neg fun both => same both.1, addUnder, waiting, Dict.get?_insert_of_ne _ _ (Ne.symm same)]
    rfl

/-- An added trigger is listed at the end of each of its subjects, unless it is there. -/
theorem waiting_add {trigger : Trigger} :
    waiting (add index trigger) subject =
      if subject ∈ trigger.subjects ∧ trigger.id ∉ waiting index subject then
        waiting index subject ++ [trigger.id]
      else waiting index subject := by
  unfold add
  generalize trigger.subjects = subjects
  induction subjects generalizing index with
  | nil => simp
  | cons first rest ih =>
    rw [List.foldl_cons, ih, waiting_addUnder]
    by_cases same : subject = first
    · subst same
      by_cases present : trigger.id ∈ waiting index subject <;> simp [present]
    · simp [same]

/-- An id is taken away from a subject, and the others there keep their order. -/
theorem waiting_removeUnder :
    waiting (removeUnder id index under) subject =
      if subject = under then (waiting index subject).filter (· ≠ id)
      else waiting index subject := by
  unfold removeUnder
  by_cases same : subject = under
  · subst same
    cases listed : Dict.get? index subject with
    | none => simp [waiting, listed]
    | some ids =>
      dsimp only
      split
      · rename_i empty
        simpa [waiting, Dict.get?_erase, listed] using empty
      · simp [waiting, listed]
  · cases listed : Dict.get? index under with
    | none => simp [same]
    | some ids =>
      dsimp only
      split <;> simp [waiting, Dict.get?_erase, Dict.get?_insert_of_ne _ _ (Ne.symm same),
        Ne.symm same]

/-- A removed trigger is taken away from each of its subjects, and the others there keep their
order. -/
theorem waiting_remove {trigger : Trigger} :
    waiting (remove index trigger) subject =
      if subject ∈ trigger.subjects then (waiting index subject).filter (· ≠ trigger.id)
      else waiting index subject := by
  unfold remove
  generalize trigger.subjects = subjects
  induction subjects generalizing index with
  | nil => simp
  | cons first rest ih =>
    rw [List.foldl_cons, ih, waiting_removeUnder]
    by_cases same : subject = first <;> simp [same, List.filter_filter]

/-- An added trigger is listed under its subjects, and all others stay where they
are. -/
theorem mem_waiting_add {trigger : Trigger} :
    other ∈ waiting (add index trigger) subject ↔
      other ∈ waiting index subject ∨ (other = trigger.id ∧ subject ∈ trigger.subjects) := by
  rw [waiting_add]
  split
  · rename_i new
    simp [new.1]
  · rename_i known
    constructor
    · exact .inl
    · rintro (earlier | ⟨rfl, waits⟩)
      · exact earlier
      · exact Decidable.not_not.mp fun absent => known ⟨waits, absent⟩

/-- A removed trigger is not listed under its subjects any more, and all others stay
where they are. -/
theorem mem_waiting_remove {trigger : Trigger} :
    other ∈ waiting (remove index trigger) subject ↔
      other ∈ waiting index subject ∧ ¬ (other = trigger.id ∧ subject ∈ trigger.subjects) := by
  rw [waiting_remove]
  split <;> simp [*]

/-- Added triggers of distinct ids are listed in their order behind those who are there, except for
those who are among them. -/
theorem waiting_addAll {added : List Trigger}
    (distinct : (added.map Trigger.id).Nodup) (index : SourceEvents) (subject : String) :
    waiting (added.foldl add index) subject =
      waiting index subject ++
        (added.filter fun trigger =>
          subject ∈ trigger.subjects ∧ trigger.id ∉ waiting index subject).map Trigger.id := by
  induction added generalizing index with
  | nil => simp
  | cons first rest ih =>
      rw [List.map_cons, List.nodup_cons] at distinct
      have others : ∀ trigger ∈ rest, trigger.id ≠ first.id := fun trigger member same =>
        distinct.1 (List.mem_map.mpr ⟨trigger, member, same⟩)
      rw [List.foldl_cons, ih distinct.2, waiting_add]
      split
      · rename_i new
        -- The id that was added is not that of any later trigger.
        have same : (rest.filter fun trigger => subject ∈ trigger.subjects ∧
              trigger.id ∉ waiting index subject ++ [first.id]) =
            rest.filter fun trigger => subject ∈ trigger.subjects ∧
              trigger.id ∉ waiting index subject :=
          List.filter_congr fun trigger member => by simp [others trigger member]
        rw [same, List.filter_cons_of_pos (by simpa using new), List.map_cons, List.append_assoc,
          List.singleton_append]
      · rename_i known
        rw [List.filter_cons_of_neg (by simpa using known)]

/-- A trigger of the working copy is listed under all its subjects once the index
was rebuilt, whatever was stored. -/
theorem mem_waiting_rebuildIndex {triggers : Dict Trigger} {trigger : Trigger}
    (stored : SourceEvents) (member : trigger ∈ triggers.map Prod.snd)
    (waits : subject ∈ trigger.subjects) :
    trigger.id ∈ waiting (Worker.rebuildIndex triggers stored) subject := by
  have grows : ∀ (added : List Trigger) (index : SourceEvents),
      trigger.id ∈ waiting index subject →
        trigger.id ∈ waiting (added.foldl add index) subject := by
    intro added
    induction added with
    | nil => exact fun index listed => listed
    | cons first rest ih => exact fun index listed => ih _ (mem_waiting_add.mpr (.inl listed))
  obtain ⟨before, after, split⟩ := List.append_of_mem member
  rw [Worker.rebuildIndex, split, List.foldl_append, List.foldl_cons]
  exact grows after _ (mem_waiting_add.mpr (.inr ⟨rfl, waits⟩))

end SourceEvents

end EventFlow
