import Mathlib.Algebra.Order.BigOperators.Group.List
import Mathlib.Algebra.Order.Ring.Nat
import EventFlow.Engine.Worker

/-!
# Arrivals

How the number of times that the dependencies of a trigger have been complete grows
with the events that arrive: never downwards, and by at most one for an event.
-/

namespace EventFlow

/-- The key of a raw event is the only one that it matches. -/
theorem EventKey.isKeyOf_iff {event : Json} {key : EventKey}
    (keyed : ofRaw? event = some key) (other : EventKey) : other.isKeyOf event = true ↔ other = key := by
  obtain ⟨subject, kind⟩ := key
  obtain ⟨otherSubject, otherKind⟩ := other
  simp only [ofRaw?, bind, Option.bind_eq_some_iff, Option.some.injEq, mk.injEq] at keyed
  obtain ⟨subjectField, hasSubject, text, isText, kindField, hasKind, kindText, isKind, rfl, rfl⟩ :=
    keyed
  simp only [isKeyOf, rawField?, hasSubject, hasKind, isText, isKind, Option.bind_some,
    Bool.and_eq_true, beq_iff_eq, Option.some.injEq, mk.injEq]
  exact ⟨fun same => ⟨same.1.symm, same.2.symm⟩, fun same => ⟨same.1.symm, same.2.symm⟩⟩

namespace Worker

/-- A received event is one more arrival of its own key and of no other. -/
theorem arrivals_receive (worker : Worker) {event : Json} {key : EventKey}
    (keyed : EventKey.ofRaw? event = some key) (other : EventKey) :
    (worker.receive key event).arrivals other =
      worker.arrivals other + if other = key then 1 else 0 := by
  have matching := EventKey.isKeyOf_iff keyed other
  by_cases sameSubject : key.subject = other.subject
  · have found : Dict.get? (worker.receive key event).received other.subject =
        some (((Dict.get? worker.received other.subject).getD []) ++ [event]) := by
      rw [← sameSubject]
      exact Dict.get?_insert_self _ _ _
    rw [arrivals, found, Option.getD_some, List.filter_append, List.length_append]
    by_cases same : other = key
    · subst same
      simp [arrivals, matching]
    · simp [arrivals, same, mt matching.mp same]
  · have different : other ≠ key := by
      rintro rfl
      exact sameSubject rfl
    simp [arrivals, receive, Dict.get?_insert_of_ne _ _ sameSubject, different]

/-- How often dependencies have been complete, from the arrivals of each: all of
them together, or any of them. -/
def completions (any : Bool) (dependencies : List EventKey) (arrivals : EventKey → Nat) : Nat :=
  let counts := dependencies.map arrivals
  if any then counts.sum else counts.min?.getD 0

/-- The dependencies of a trigger have been complete as often as the worker says. -/
theorem available_eq (worker : Worker) (trigger : Trigger) :
    worker.available trigger =
      completions (joinsAny trigger) trigger.dependencies worker.arrivals := rfl

section Completions

variable {any : Bool} {dependencies : List EventKey} {arrivals later : EventKey → Nat}

/-- Dependencies have been complete together as often as the rarest of them has
arrived. -/
theorem le_completions_all_iff (some : dependencies ≠ []) {bound : Nat} :
    bound ≤ completions false dependencies arrivals ↔
      ∀ key ∈ dependencies, bound ≤ arrivals key := by
  simp only [completions, Bool.false_eq_true, if_false]
  cases least : (dependencies.map arrivals).min? with
  | none => simp [some] at least
  | some value => simp [List.le_min?_iff least]

/-- With more arrivals dependencies have not been complete less often. -/
theorem completions_mono (more : ∀ key ∈ dependencies, arrivals key ≤ later key) :
    completions any dependencies arrivals ≤ completions any dependencies later := by
  cases any with
  | true => exact List.sum_le_sum more
  | false =>
    by_cases none : dependencies = []
    · simp [none, completions]
    · rw [le_completions_all_iff none]
      intro key member
      exact ((le_completions_all_iff none).mp (Nat.le_refl _) key member).trans (more key member)

/-- Before anything has arrived nothing is complete. -/
theorem completions_zero : completions any dependencies (fun _ => 0) = 0 := by
  cases any with
  | true => simp [completions]
  | false =>
    cases dependencies with
    | nil => rfl
    | cons key rest =>
      have bound := (le_completions_all_iff (List.cons_ne_nil key rest)).mp
        (Nat.le_refl (completions false (key :: rest) fun _ => 0)) key List.mem_cons_self
      exact Nat.le_zero.mp bound

/-- One arrival completes dependencies at most once more, unless it counts several
times for any of them. -/
theorem completions_arrival {key : EventKey} (single : any = false ∨ dependencies.Nodup) :
    completions any dependencies (fun other => arrivals other + if other = key then 1 else 0) ≤
      completions any dependencies arrivals + 1 := by
  cases any with
  | true =>
    have distinct := single.resolve_left (by simp)
    have counted : (dependencies.map fun other => if other = key then 1 else 0).sum =
        dependencies.count key := by
      clear single distinct
      induction dependencies with
      | nil => rfl
      | cons first rest ih => simp [ih, List.count_cons, add_comm]
    have once := List.nodup_iff_count.mp distinct key
    simp only [completions, if_true, List.sum_map_add]
    omega
  | false =>
    by_cases none : dependencies = []
    · simp [none, completions]
    · by_contra more
      have every := (le_completions_all_iff none).mp (Nat.lt_of_not_le more)
      have again : completions false dependencies arrivals + 1 ≤
          completions false dependencies arrivals := by
        rw [le_completions_all_iff none]
        intro other member
        have bound := every other member
        split at bound <;> omega
      omega

end Completions

end Worker

end EventFlow
