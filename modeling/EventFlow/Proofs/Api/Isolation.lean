import EventFlow.Proofs.Api.Modes

/-!
# Direct calls are isolated

A direct call that fails leaves the surroundings as they are, and one that succeeds keeps
to its own namespace. What is loaded after a batch was stored are the triggers that were
loaded before it, and the batch: nothing is lost by writing what was read, as everything
that was decoded is in order.
-/

namespace EventFlow

namespace Call

/-- Putting triggers into order leaves it open whether their ids are taken. -/
theorem firstTaken?_ordered (taken : List String) (triggers : List Trigger) :
    firstTaken? taken (triggers.map Trigger.ordered) = firstTaken? taken triggers := by
  induction triggers generalizing taken with
  | nil => rfl
  | cons first rest ih =>
    rw [List.map_cons, firstTaken?, firstTaken?, ih]
    rfl

end Call

/-- A direct call that fails changes nothing, whatever the documents are. One that succeeds
changes no document of another namespace. A batch that is stored had new and distinct ids,
and afterwards the triggers that are loaded are those that were loaded before, and those of
the batch with their contexts in order. -/
theorem Transport.direct_isolated (call : Call) (around : Surroundings) :
    let made := (direct.perform call).perform around
    (∀ cause, made.1 = .error cause → made.2 = around) ∧
      ∀ answer, made.1 = .ok answer →
        (∀ other name, other ≠ call.space →
          made.2.documents.get? other name = around.documents.get? other name) ∧
        ∀ space triggers, call = .storeTriggers space triggers →
          ∃ stored added, around.documents.loadTriggers space = .ok stored ∧
            made.2.documents.loadTriggers space = .ok added ∧
            (triggers.map Trigger.id).Nodup ∧
            (∀ posted ∈ triggers, Dict.get? stored posted.id = none) ∧
            ∀ id trigger, Dict.get? added id = some trigger ↔
              Dict.get? stored id = some trigger ∨
                ∃ posted ∈ triggers, posted.id = id ∧ trigger = posted.ordered := by
  intro made
  have performed : made = _ := perform_direct call around
  cases applied : call.apply around.documents with
  | error cause =>
    rw [applied] at performed
    rw [performed]
    exact ⟨fun _ _ => rfl, nofun⟩
  | ok both =>
    obtain ⟨answer, documents⟩ := both
    rw [applied] at performed
    rw [performed]
    refine ⟨nofun, fun _ _ => ⟨fun other name different => ?_, ?_⟩⟩
    · exact (Call.changes_of_apply applied).get?_of_ne different.symm name
    · rintro space triggers rfl
      obtain ⟨after, succeeded, equal⟩ := Failing.bind_eq_ok.mp applied
      cases equal
      obtain ⟨stored, index, loaded, -, free, added, -⟩ := Call.loads_of_store succeeded
      obtain ⟨distinct, new⟩ := Call.firstTaken?_eq_none_iff.mp free
      refine ⟨stored, _, loaded, added, distinct,
        fun posted member => Dict.get?_eq_none_iff.mpr (new posted member), fun id trigger => ?_⟩
      rw [Call.get?_filed_iff ((Call.firstTaken?_ordered _ _).trans free)]
      refine or_congr_right ⟨?_, ?_⟩
      · rintro ⟨member, same⟩
        obtain ⟨posted, listed, rfl⟩ := List.mem_map.mp member
        exact ⟨posted, listed, same, rfl⟩
      · rintro ⟨posted, listed, same, rfl⟩
        exact ⟨List.mem_map_of_mem listed, same⟩

/-- Of a batch with an id that is taken nothing is stored, though its first id is free. The
first trigger alone is stored beside the one that was there. -/
theorem Transport.furnished_isolated :
    let stop := (TriggerStore.waiting "Stop").trigger
    let ready := (TriggerStore.waiting "Ready").trigger
    let taken := (direct.perform (.storeTriggers "demo" [stop, ready])).perform
      TriggerStore.furnished
    let free := (direct.perform (.storeTriggers "demo" [stop])).perform TriggerStore.furnished
    taken.1.isOk = false ∧ taken.2 = TriggerStore.furnished ∧ free.1.isOk = true ∧
      ∃ stored added, TriggerStore.furnished.documents.loadTriggers "demo" = .ok stored ∧
        free.2.documents.loadTriggers "demo" = .ok added ∧
        Dict.get? added "Stop" = some stop.ordered ∧ Dict.get? stored "Stop" = none := by
  intro stop ready taken free
  have fails : taken.1.isOk = false := by decide +kernel
  have succeeds : free.1.isOk = true := by decide +kernel
  refine ⟨fails, ?_, succeeds, ?_⟩
  · cases result : taken.1 with
    | ok answer =>
      rw [result] at fails
      cases fails
    | error cause => exact (direct_isolated _ _).1 cause result
  · cases result : free.1 with
    | error cause =>
      rw [result] at succeeds
      cases succeeds
    | ok answer =>
      obtain ⟨stored, added, loaded, behind, -, new, found⟩ :=
        ((direct_isolated _ _).2 answer result).2 "demo" [stop] rfl
      exact ⟨stored, added, loaded, behind,
        (found _ _).mpr (.inr ⟨stop, List.mem_singleton_self _, rfl, rfl⟩),
        new stop (List.mem_singleton_self _)⟩

end EventFlow
