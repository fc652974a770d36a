import EventFlow.Proofs.Engine.Refresh
import EventFlow.Proofs.Trigger.History

/-!
# Rebuilding the index

The stored index may be stale, incomplete or about triggers that nobody knows. Rebuilt for a working
copy, it lists under every subject first those of the stored ids that are known, in their order, and
behind them in ascending order the ids that were missing. An index that lists nobody else and
misses nobody stays as it is.
-/

namespace EventFlow

namespace SourceEvents

variable {index : SourceEvents} {added : List Trigger}

/-- Who waits for a subject stands in its first entry. -/
theorem waiting_cons (name : String) (ids : List String) (rest : SourceEvents) (subject : String) :
    waiting ((name, ids) :: rest) subject = if name = subject then ids else waiting rest subject := by
  rw [waiting, Dict.get?_cons]
  split <;> rfl

/-- Listing triggers keeps an index compact. -/
theorem Compact.addAll (compact : index.Compact) (added : List Trigger) :
    (added.foldl SourceEvents.add index).Compact := by
  induction added generalizing index with
  | nil => exact compact
  | cons first rest ih => exact ih (compact.add first)

end SourceEvents

namespace Worker

open SourceEvents

variable {triggers : Dict Trigger} {stored index : SourceEvents} {id subject : String}

/-- An entry remains with the ids that are known, unless there are none. -/
theorem liveIndex_cons (triggers : Dict Trigger) (name : String) (ids : List String)
    (rest : SourceEvents) :
    liveIndex triggers ((name, ids) :: rest) =
      if ids.filter (Dict.contains triggers) = [] then liveIndex triggers rest
      else (name, ids.filter (Dict.contains triggers)) :: liveIndex triggers rest := by
  simp only [liveIndex, List.filterMap_cons, List.isEmpty_iff]
  split <;> rename_i kept <;> split at kept <;> simp_all

/-- Of the stored ids those of the working copy remain. -/
theorem waiting_liveIndex (once : (Dict.keys stored).Nodup) (subject : String) :
    waiting (liveIndex triggers stored) subject =
      (waiting stored subject).filter (Dict.contains triggers) := by
  induction stored with
  | nil => rfl
  | cons entry rest ih =>
      obtain ⟨name, ids⟩ := entry
      rw [Dict.keys, List.map_cons, List.nodup_cons] at once
      rw [liveIndex_cons, waiting_cons]
      split
      · rename_i gone
        rw [ih once.2]
        split
        · rename_i here
          -- No later entry is one of this subject.
          have absent : Dict.get? rest subject = none :=
            Dict.get?_eq_none_iff.mpr (here ▸ once.1)
          rw [gone, waiting, absent]
          rfl
        · rfl
      · rw [waiting_cons, ih once.2]
        split <;> rfl

/-- The subjects of the entries that remain are in their order. -/
theorem keys_liveIndex_sublist (triggers : Dict Trigger) (stored : SourceEvents) :
    (Dict.keys (liveIndex triggers stored)).Sublist (Dict.keys stored) := by
  induction stored with
  | nil => exact .slnil
  | cons entry rest ih =>
      rw [liveIndex_cons]
      split
      · exact ih.cons entry.1
      · exact ih.cons_cons entry.1

/-- No entry remains that lists nobody. -/
theorem filled_liveIndex (triggers : Dict Trigger) (stored : SourceEvents) (subject : String) :
    Dict.get? (liveIndex triggers stored) subject ≠ some [] := by
  induction stored with
  | nil => simp [liveIndex]
  | cons entry rest ih =>
      rw [liveIndex_cons]
      split
      · exact ih
      · rename_i nonempty
        rw [Dict.get?_cons]
        split
        · exact fun empty => nonempty (Option.some.inj empty)
        · exact ih

/-- What remains of a stored index is compact. -/
theorem compact_liveIndex (ordered : Dict.Ascending stored) :
    (liveIndex triggers stored).Compact where
  ascending := List.Pairwise.sublist (keys_liveIndex_sublist triggers stored) ordered
  filled := filled_liveIndex triggers stored

/-- The ids of the working copy that a stored index misses under a subject. -/
def missing (triggers : Dict Trigger) (stored : SourceEvents) (subject : String) : List String :=
  Dict.keys (triggers.filter fun entry =>
    subject ∈ entry.2.subjects ∧ entry.1 ∉ waiting stored subject)

/-- Missing ids are those of triggers that depend on the subject and are not listed there. -/
theorem mem_missing_iff (copy : Dict.Ascending triggers) :
    id ∈ missing triggers stored subject ↔ id ∉ waiting stored subject ∧
      ∃ trigger, Dict.get? triggers id = some trigger ∧ subject ∈ trigger.subjects := by
  simp only [missing, Dict.keys, List.mem_map, List.mem_filter, decide_eq_true_eq]
  constructor
  · rintro ⟨⟨_, trigger⟩, ⟨member, waits, unlisted⟩, rfl⟩
    exact ⟨unlisted, trigger, Dict.get?_of_mem copy.nodup member, waits⟩
  · rintro ⟨unlisted, trigger, found, waits⟩
    exact ⟨(id, trigger), ⟨Dict.mem_of_get? found, waits, unlisted⟩, rfl⟩

/-- Missing ids ascend. -/
theorem ascending_missing (copy : Dict.Ascending triggers) (stored : SourceEvents)
    (subject : String) : (missing triggers stored subject).Pairwise (· < ·) :=
  List.Pairwise.sublist (List.filter_sublist.map Prod.fst) copy

/-- A rebuilt index has the stored ids of the working copy under every subject, in their order, and
behind them those that were missing. -/
theorem waiting_rebuildIndex (copy : Dict.Ascending triggers)
    (own : ∀ id trigger, Dict.get? triggers id = some trigger → trigger.id = id)
    (ordered : Dict.Ascending stored) (subject : String) :
    waiting (rebuildIndex triggers stored) subject =
      (waiting stored subject).filter (Dict.contains triggers) ++
        missing triggers stored subject := by
  have keyed : ∀ entry ∈ triggers, entry.2.id = entry.1 := fun entry member =>
    own entry.1 entry.2 (Dict.get?_of_mem copy.nodup member)
  have ids : (triggers.map Prod.snd).map Trigger.id = Dict.keys triggers := by
    rw [List.map_map]
    exact List.map_congr_left keyed
  rw [rebuildIndex, waiting_addAll (ids ▸ copy.nodup), waiting_liveIndex ordered.nodup,
    List.filter_map, List.map_map, missing, Dict.keys]
  congr 1
  refine (congrArg _ (List.filter_congr fun entry member => ?_)).trans
    (List.map_congr_left fun entry kept => keyed entry (List.mem_filter.mp kept).1)
  have known : Dict.contains triggers entry.1 = true := by
    simp [Dict.contains, Dict.get?_of_mem copy.nodup member]
  simp [keyed entry member, known]

/-- A rebuilt index is compact. -/
theorem compact_rebuildIndex (triggers : Dict Trigger) (ordered : Dict.Ascending stored) :
    (rebuildIndex triggers stored).Compact :=
  (compact_liveIndex ordered).addAll _

/-- Who is listed more than once was listed as often before. -/
theorem count_rebuildIndex (copy : Dict.Ascending triggers)
    (own : ∀ id trigger, Dict.get? triggers id = some trigger → trigger.id = id)
    (ordered : Dict.Ascending stored)
    (repeated : 1 < (waiting (rebuildIndex triggers stored) subject).count id) :
    (waiting (rebuildIndex triggers stored) subject).count id =
      (waiting stored subject).count id := by
  rw [waiting_rebuildIndex copy own ordered, List.count_append] at repeated ⊢
  have once : (missing triggers stored subject).Nodup :=
    (ascending_missing copy stored subject).imp String.ne_of_lt
  by_cases listed : id ∈ waiting stored subject
  · have present : id ∉ missing triggers stored subject := fun member =>
      ((mem_missing_iff copy).mp member).1 listed
    rw [List.count_eq_zero_of_not_mem present, Nat.add_zero] at repeated ⊢
    have live := List.count_pos_iff.mp (Nat.lt_trans Nat.zero_lt_one repeated)
    exact List.count_filter (List.mem_filter.mp live).2
  · have gone : id ∉ (waiting stored subject).filter (Dict.contains triggers) := fun member =>
      listed (List.mem_filter.mp member).1
    rw [List.count_eq_zero_of_not_mem gone, Nat.zero_add] at repeated
    exact absurd (List.nodup_iff_count.mp once id) (Nat.not_le.mpr repeated)

/-- Rebuilding changes nothing of an index that lists the working copy and nobody else. -/
theorem rebuildIndex_eq_self (copy : Dict.Ascending triggers)
    (own : ∀ id trigger, Dict.get? triggers id = some trigger → trigger.id = id)
    (compact : index.Compact)
    (known : ∀ id subject, id ∈ waiting index subject → Dict.contains triggers id = true)
    (lists : Lists triggers index) : rebuildIndex triggers index = index := by
  refine (compact_rebuildIndex triggers compact.ascending).ext compact fun subject => ?_
  have nobody : missing triggers index subject = [] := by
    refine List.eq_nil_iff_forall_not_mem.mpr fun id member => ?_
    obtain ⟨unlisted, trigger, found, waits⟩ := (mem_missing_iff copy).mp member
    exact unlisted (lists id trigger found subject waits)
  rw [waiting_rebuildIndex copy own compact.ascending, nobody, List.append_nil,
    List.filter_eq_self.mpr fun id listed => known id subject listed]

/-- Whatever index was stored, the one that is rebuilt for a working copy lists every trigger of it
under all subjects that it depends on, and no other ids; no subject lists nobody, and none lists an
id more often than the stored index did, unless it lists it once. Under every subject the stored ids
of the working copy come first, in their order, and behind them in ascending order the ids that were
missing there. To rebuild the index once more changes nothing. -/
theorem rebuildIndex_repairs (copy : Dict.Ascending triggers)
    (own : ∀ id trigger, Dict.get? triggers id = some trigger → trigger.id = id)
    (ordered : Dict.Ascending stored) :
    let rebuilt := rebuildIndex triggers stored
    (∀ id trigger, Dict.get? triggers id = some trigger → ∀ key ∈ trigger.dependencies,
        id ∈ waiting rebuilt key.subject) ∧
      (∀ id subject, id ∈ waiting rebuilt subject →
        ∃ trigger, Dict.get? triggers id = some trigger) ∧
      (∀ subject, Dict.get? rebuilt subject ≠ some []) ∧
      (∀ id subject, 1 < (waiting rebuilt subject).count id →
        (waiting rebuilt subject).count id = (waiting stored subject).count id) ∧
      (∀ subject, ∃ added,
        waiting rebuilt subject =
            (waiting stored subject).filter (Dict.contains triggers) ++ added ∧
          added.Pairwise (· < ·) ∧
          ∀ id, id ∈ added ↔ id ∉ waiting stored subject ∧
            ∃ trigger, Dict.get? triggers id = some trigger ∧
              ∃ key ∈ trigger.dependencies, key.subject = subject) ∧
      rebuildIndex triggers rebuilt = rebuilt := by
  intro rebuilt
  have parts := fun subject => waiting_rebuildIndex copy own ordered subject
  have lists : Lists triggers rebuilt := lists_rebuildIndex stored own
  have known : ∀ id subject, id ∈ waiting rebuilt subject → Dict.contains triggers id = true := by
    intro id subject listed
    rcases List.mem_append.mp (parts subject ▸ listed) with live | added
    · exact (List.mem_filter.mp live).2
    · obtain ⟨-, trigger, found, -⟩ := (mem_missing_iff copy).mp added
      simp [Dict.contains, found]
  refine ⟨fun id trigger found key member => ?_, fun id subject listed => ?_,
    (compact_rebuildIndex triggers ordered).filled,
    fun id subject repeated => count_rebuildIndex copy own ordered repeated,
    fun subject => ⟨missing triggers stored subject, parts subject,
      ascending_missing copy stored subject, fun id => ?_⟩,
    rebuildIndex_eq_self copy own (compact_rebuildIndex triggers ordered) known lists⟩
  · exact lists id trigger found _ (Trigger.mem_subjects_iff.mpr ⟨key, member, rfl⟩)
  · exact Option.isSome_iff_exists.mp (known id subject listed)
  · simp only [mem_missing_iff copy, Trigger.mem_subjects_iff]

/-- A working copy of two triggers. -/
def sampleCopy : Dict Trigger := [("join", sampleJoin), ("single", sampleSingle)]

/-- An index that lists one of them twice, misses the other one and lists one that is gone. -/
def sampleStale : SourceEvents := [("left", ["single", "gone", "single"]), ("lost", ["gone"])]

/-- The one that was missing is listed under both its subjects, the one that is gone nowhere, and the
other one as often as before. -/
theorem sample_rebuildIndex_repairs :
    let rebuilt := rebuildIndex sampleCopy sampleStale
    "join" ∈ waiting rebuilt "left" ∧ "join" ∈ waiting rebuilt "right" ∧
      (∀ subject, "gone" ∉ waiting rebuilt subject) ∧
      (waiting rebuilt "left").count "single" = (waiting sampleStale "left").count "single" ∧
      rebuildIndex sampleCopy rebuilt = rebuilt := by
  have copy : (Dict.keys sampleCopy).Pairwise (· < ·) := by decide
  have own : ∀ id trigger, Dict.get? sampleCopy id = some trigger → trigger.id = id := by
    intro id trigger found
    have member := Dict.mem_of_get? found
    simp only [sampleCopy, List.mem_cons, Prod.mk.injEq, List.not_mem_nil, or_false] at member
    obtain ⟨rfl, rfl⟩ | ⟨rfl, rfl⟩ := member <;> rfl
  have ordered : (Dict.keys sampleStale).Pairwise (· < ·) := by decide
  obtain ⟨lists, known, -, repeats, -, again⟩ := rebuildIndex_repairs copy own ordered
  refine ⟨lists "join" sampleJoin rfl ⟨"left", "done"⟩ (by simp [sampleJoin]),
    lists "join" sampleJoin rfl ⟨"right", "done"⟩ (by simp [sampleJoin]), fun subject listed => ?_,
    repeats "single" "left" (by decide), again⟩
  obtain ⟨trigger, found⟩ := known "gone" subject listed
  cases found

example : rebuildIndex sampleCopy sampleStale =
    [("left", ["single", "single", "join"]), ("right", ["join"])] := by
  decide

end Worker

end EventFlow
