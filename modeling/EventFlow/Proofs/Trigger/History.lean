import EventFlow.Proofs.Trigger.Indexed

/-!
# The index after many changes

Triggers are added to an index and taken out of it again, in any order and any number of times.
What the index lists is decided by the last change of each id, if an id stands for one trigger
throughout: the index is at all times the one of the triggers that were added and not taken out
since.
-/

namespace EventFlow.SourceEvents

/-- A change of an index. -/
inductive Change where
  | addition (trigger : Trigger)
  | removal (trigger : Trigger)

namespace Change

/-- The trigger that is added or taken out. -/
def trigger : Change → Trigger
  | addition trigger => trigger
  | removal trigger => trigger

/-- The index after a change. -/
def apply (index : SourceEvents) : Change → SourceEvents
  | addition trigger => add index trigger
  | removal trigger => remove index trigger

end Change

/-- The index after a list of changes. -/
def applyAll (index : SourceEvents) (changes : List Change) : SourceEvents :=
  changes.foldl Change.apply index

variable {index : SourceEvents} {history : List Change} {change : Change} {trigger : Trigger}

/-- Throughout a history an id stands for one trigger. -/
def Identified (history : List Change) : Prop :=
  ∀ change ∈ history, ∀ other ∈ history,
    change.trigger.id = other.trigger.id → change.trigger = other.trigger

/-- The last change of the id of a trigger was the addition of this trigger. -/
def LastAdded (history : List Change) (trigger : Trigger) : Prop :=
  ∃ before after, history = before ++ .addition trigger :: after ∧
    ∀ change ∈ after, change.trigger.id ≠ trigger.id

/-- Without changes nothing was added. -/
theorem not_lastAdded_nil : ¬ LastAdded [] trigger := by
  rintro ⟨before, after, split, -⟩
  simp at split

/-- What was added last is the trigger of one of the changes. -/
theorem LastAdded.mem (added : LastAdded history trigger) : .addition trigger ∈ history := by
  obtain ⟨before, after, rfl, -⟩ := added
  simp

/-- One more change decides about its own id, and all others are as before. -/
theorem lastAdded_concat :
    LastAdded (history ++ [change]) trigger ↔
      change = .addition trigger ∨
        (change.trigger.id ≠ trigger.id ∧ LastAdded history trigger) := by
  constructor
  · rintro ⟨before, after, split, others⟩
    rcases List.eq_nil_or_concat after with rfl | ⟨rest, last, rfl⟩
    · exact .inl (List.cons.inj (List.append_inj' split rfl).2).1
    · have regrouped : history ++ [change] = (before ++ .addition trigger :: rest) ++ [last] := by
        simpa using split
      obtain ⟨rfl, same⟩ := List.append_inj' regrouped rfl
      cases same
      exact .inr ⟨others _ (by simp), before, rest, rfl,
        fun other member => others other (by simp [member])⟩
  · rintro (rfl | ⟨different, before, after, rfl, others⟩)
    · exact ⟨history, [], rfl, by simp⟩
    · refine ⟨before, after ++ [change], by simp, fun other member => ?_⟩
      rcases List.mem_append.mp member with earlier | now
      · exact others other earlier
      · cases List.mem_singleton.mp now
        exact different

/-- A change of an id that was added last is one of the trigger that was added. -/
theorem Identified.eq_of_lastAdded (identified : Identified (history ++ [change]))
    (added : LastAdded history trigger) (same : change.trigger.id = trigger.id) :
    change.trigger = trigger :=
  identified change (List.mem_append_right _ List.mem_cons_self) (.addition trigger)
    (List.mem_append_left _ added.mem) same

/-! ## What the index reflects -/

/-- An index of a history: an id is listed under a subject if and only if the trigger of that id
was added last and depends on it. -/
structure Reflects (index : SourceEvents) (history : List Change) : Prop extends Tidy index where
  listed : ∀ id subject, id ∈ waiting index subject ↔
    ∃ trigger, LastAdded history trigger ∧ trigger.id = id ∧ subject ∈ trigger.subjects

/-- The empty index is the one without any changes. -/
theorem Reflects.empty : Reflects [] [] where
  ascending := .nil
  lists _ _ found := by cases found
  listed id subject := by simp [waiting, not_lastAdded_nil]

/-- A change of the index is one of its history. -/
theorem Reflects.step (reflects : index.Reflects history)
    (identified : Identified (history ++ [change])) :
    (change.apply index).Reflects (history ++ [change]) := by
  cases change with
  | addition trigger =>
      refine ⟨reflects.toTidy.add trigger, fun id subject => ?_⟩
      rw [Change.apply, mem_waiting_add, reflects.listed]
      simp only [lastAdded_concat, Change.addition.injEq, Change.trigger]
      constructor
      · rintro (⟨held, added, rfl, waits⟩ | ⟨rfl, waits⟩)
        · by_cases same : trigger.id = held.id
          · have equal : trigger = held := identified.eq_of_lastAdded added same
            exact ⟨held, .inl equal, rfl, waits⟩
          · exact ⟨held, .inr ⟨same, added⟩, rfl, waits⟩
        · exact ⟨trigger, .inl rfl, rfl, waits⟩
      · rintro ⟨held, rfl | ⟨-, added⟩, rfl, waits⟩
        · exact .inr ⟨rfl, waits⟩
        · exact .inl ⟨held, added, rfl, waits⟩
  | removal trigger =>
      refine ⟨reflects.toTidy.remove trigger, fun id subject => ?_⟩
      rw [Change.apply, mem_waiting_remove, reflects.listed]
      simp only [lastAdded_concat, reduceCtorEq, false_or, Change.trigger]
      constructor
      · rintro ⟨⟨held, added, rfl, waits⟩, stays⟩
        refine ⟨held, ⟨fun same => stays ⟨same.symm, ?_⟩, added⟩, rfl, waits⟩
        have equal : trigger = held := identified.eq_of_lastAdded added same
        rwa [equal]
      · rintro ⟨held, ⟨different, added⟩, rfl, waits⟩
        exact ⟨⟨held, added, rfl, waits⟩, fun taken => different taken.1.symm⟩

/-- Changes of the index are changes of its history. -/
theorem Reflects.run (reflects : index.Reflects history) {changes : List Change}
    (identified : Identified (history ++ changes)) :
    (applyAll index changes).Reflects (history ++ changes) := by
  induction changes generalizing index history with
  | nil => simpa [applyAll] using reflects
  | cons change rest ih =>
      rw [List.append_cons] at identified ⊢
      refine ih (reflects.step fun first member second other => ?_) identified
      exact identified first (List.mem_append_left _ member) second (List.mem_append_left _ other)

/-- Changes of the index of a list of triggers come after the additions of these triggers. -/
theorem applyAll_ofTriggers (triggers : List Trigger) (changes : List Change) :
    applyAll (ofTriggers triggers) changes =
      applyAll [] (triggers.map .addition ++ changes) := by
  rw [applyAll, applyAll, List.foldl_append, List.foldl_map]
  rfl

/-- A trigger whose id was not added last is nowhere listed. -/
theorem Reflects.not_mem (reflects : index.Reflects history)
    (absent : ∀ other, LastAdded history other → other.id ≠ trigger.id) (subject : String) :
    trigger.id ∉ waiting index subject := by
  rw [reflects.listed]
  rintro ⟨other, added, same, -⟩
  exact absent other added same

/-- An id that stands for one trigger is taken away everywhere, and all others keep their
order. -/
theorem Reflects.waiting_remove (reflects : index.Reflects history)
    (own : ∀ other, LastAdded history other → other.id = trigger.id → other = trigger)
    (subject : String) :
    waiting (remove index trigger) subject = (waiting index subject).filter (· ≠ trigger.id) := by
  rw [SourceEvents.waiting_remove]
  split
  · rfl
  · rename_i elsewhere
    have others : ∀ id ∈ waiting index subject, id ≠ trigger.id := by
      rintro id listed rfl
      obtain ⟨other, added, same, waits⟩ := (reflects.listed _ subject).mp listed
      exact elsewhere (own other added same ▸ waits)
    exact (List.filter_eq_self.mpr (by simpa using others)).symm

/-- An index is built of a list of triggers, and triggers are added to it and taken out of it in
any order, where an id always stands for one trigger. Then an id is listed under a subject if and
only if the trigger of that id was added last, rather than taken out, and depends on the subject;
no subject lists an id twice, and none lists nobody. To add a trigger that was added last changes
nothing, to take out a trigger whose id had to be added first gives the index back, and to take out
any trigger leaves the others under every subject in their order. -/
theorem index_follows_changes {triggers : List Trigger} {changes : List Change}
    (identified : Identified (triggers.map .addition ++ changes)) :
    let history := triggers.map Change.addition ++ changes
    let index := applyAll (ofTriggers triggers) changes
    (∀ id subject, id ∈ waiting index subject ↔
        ∃ trigger, LastAdded history trigger ∧ trigger.id = id ∧
          ∃ key ∈ trigger.dependencies, key.subject = subject) ∧
      (∀ subject ids, Dict.get? index subject = some ids → ids.Nodup ∧ ids ≠ []) ∧
      (∀ trigger, LastAdded history trigger → add index trigger = index) ∧
      (∀ trigger, (∀ other, LastAdded history other → other.id ≠ trigger.id) →
        remove (add index trigger) trigger = index) ∧
      ∀ trigger, (∀ other, LastAdded history other → other.id = trigger.id → other = trigger) →
        ∀ subject, waiting (remove index trigger) subject =
          (waiting index subject).filter (· ≠ trigger.id) := by
  intro history index
  have reflects : index.Reflects history := by
    rw [show index = applyAll [] history from applyAll_ofTriggers triggers changes]
    exact Reflects.empty.run identified
  obtain ⟨compact, -⟩ := tidy_iff.mp reflects.toTidy
  refine ⟨fun id subject => ?_, reflects.lists, fun trigger added => ?_, fun trigger absent => ?_,
    fun trigger own subject => reflects.waiting_remove own subject⟩
  · rw [reflects.listed]
    simp only [Trigger.mem_subjects_iff]
  · exact compact.add_eq_self fun subject waits =>
      (reflects.listed _ subject).mpr ⟨trigger, added, rfl, waits⟩
  · exact compact.remove_add fun subject => reflects.not_mem absent subject

/-- A trigger that waits for two events of one subject and for one of another. -/
def sampleJoin : Trigger where
  id := "join"
  condition := Vocabulary.holds
  action := Vocabulary.pass
  context := []
  dependencies := [⟨"left", "done"⟩, ⟨"left", "late"⟩, ⟨"right", "done"⟩]
  transient := false

/-- A trigger that waits for one of these subjects. -/
def sampleSingle : Trigger :=
  { sampleJoin with id := "single", dependencies := [⟨"left", "done"⟩] }

/-- The first trigger is taken out, added twice, and the second one is taken out. -/
def sampleChanges : List Change :=
  [.removal sampleJoin, .addition sampleJoin, .addition sampleJoin, .removal sampleSingle]

/-- After that the first trigger is listed, and to add it once more changes nothing; the second one
may come and go, and takes nobody with it. -/
theorem sample_index_follows :
    Identified ([sampleJoin, sampleSingle].map .addition ++ sampleChanges) ∧
      let index := applyAll (ofTriggers [sampleJoin, sampleSingle]) sampleChanges
      "join" ∈ waiting index "right" ∧ add index sampleJoin = index ∧
        remove (add index sampleSingle) sampleSingle = index ∧
        ∀ subject, waiting (remove index sampleSingle) subject =
          (waiting index subject).filter (· ≠ "single") := by
  have identified : Identified ([sampleJoin, sampleSingle].map .addition ++ sampleChanges) := by
    simp [Identified, sampleChanges, Change.trigger, sampleJoin, sampleSingle]
  have added : LastAdded ([sampleJoin, sampleSingle].map .addition ++ sampleChanges) sampleJoin :=
    ⟨[.addition sampleJoin, .addition sampleSingle, .removal sampleJoin, .addition sampleJoin],
      [.removal sampleSingle], rfl, by simp [Change.trigger, sampleJoin, sampleSingle]⟩
  have gone : ∀ other, LastAdded ([sampleJoin, sampleSingle].map .addition ++ sampleChanges) other →
      other.id ≠ sampleSingle.id := by
    intro other held
    have before : LastAdded ([.addition sampleJoin, .addition sampleSingle, .removal sampleJoin,
        .addition sampleJoin, .addition sampleJoin] ++ [.removal sampleSingle]) other := held
    rcases lastAdded_concat.mp before with same | ⟨different, -⟩
    · cases same
    · exact different.symm
  obtain ⟨listed, -, again, back, others⟩ := index_follows_changes identified
  refine ⟨identified, ?_, again sampleJoin added, back sampleSingle gone,
    others sampleSingle fun other held same => absurd same (gone other held)⟩
  exact (listed "join" "right").mpr
    ⟨sampleJoin, added, rfl, ⟨"right", "done"⟩, by simp [sampleJoin], rfl⟩

end EventFlow.SourceEvents
