import Mathlib.Data.List.Forall2

/-!
# Computations that may fail

A successful computation in `Except` is taken apart at its binds, and a
successful fold at its steps. The two fold lemmas carry an invariant that
speaks of the items consumed so far, one for folds that have succeeded and one
for folds that are to succeed.
-/

namespace EventFlow.Failing

variable {ε α β : Type}

/-- What follows a success goes on with its value. -/
@[simp] theorem ok_bind (value : α) (second : α → Except ε β) :
    (Except.ok value >>= second) = second value := rfl

/-- A bind succeeds exactly when both of its parts do. -/
theorem bind_eq_ok {first : Except ε α} {second : α → Except ε β} {result : β} :
    (first >>= second) = .ok result ↔ ∃ value, first = .ok value ∧ second value = .ok result := by
  cases first with
  | error cause => simp [bind, Except.bind]
  | ok value => simp [bind, Except.bind]

/-- A successful fold has kept whatever each of its successful steps keeps. -/
theorem foldlM_ok {step : β → α → Except ε β} {items : List α} {start result : β}
    (motive : List α → β → Prop) (initial : motive [] start)
    (preserved : ∀ before item behind state next, items = before ++ item :: behind →
      motive before state → step state item = .ok next → motive (before ++ [item]) next)
    (folded : items.foldlM step start = .ok result) : motive items result := by
  suffices general : ∀ behind before state, items = before ++ behind → motive before state →
      behind.foldlM step state = .ok result → motive items result from
    general items [] start rfl initial folded
  intro behind
  induction behind with
  | nil =>
      intro before state split holds folded
      cases folded
      simpa [split] using holds
  | cons item rest ih =>
      intro before state split holds folded
      rw [List.foldlM_cons, bind_eq_ok] at folded
      obtain ⟨next, stepped, folded⟩ := folded
      exact ih (before ++ [item]) next (by simp [split])
        (preserved before item rest state next split holds stepped) folded

/-- A fold that fails does so at one of its items. -/
theorem foldlM_error {step : β → α → Except ε β} {items : List α} {start : β} {cause : ε}
    (failed : items.foldlM step start = .error cause) :
    ∃ item ∈ items, ∃ state, step state item = .error cause := by
  induction items generalizing start with
  | nil => cases failed
  | cons item rest ih =>
      rw [List.foldlM_cons] at failed
      cases stepped : step start item with
      | error first =>
          rw [stepped] at failed
          cases failed
          exact ⟨item, List.mem_cons_self, start, stepped⟩
      | ok next =>
          rw [stepped] at failed
          obtain ⟨later, member, state, stepped⟩ := ih failed
          exact ⟨later, List.mem_cons_of_mem _ member, state, stepped⟩

/-- A fold succeeds when every step does under what the steps before it keep. -/
theorem foldlM_total (step : β → α → Except ε β) (items : List α) (start : β)
    (motive : List α → β → Prop) (initial : motive [] start)
    (progress : ∀ before item behind state, items = before ++ item :: behind →
      motive before state → ∃ next, step state item = .ok next ∧ motive (before ++ [item]) next) :
    ∃ result, items.foldlM step start = .ok result ∧ motive items result := by
  suffices general : ∀ behind before state, items = before ++ behind → motive before state →
      ∃ result, behind.foldlM step state = .ok result ∧ motive items result from
    general items [] start rfl initial
  intro behind
  induction behind with
  | nil =>
      intro before state split holds
      exact ⟨state, rfl, by simpa [split] using holds⟩
  | cons item rest ih =>
      intro before state split holds
      obtain ⟨next, stepped, holds⟩ := progress before item rest state split holds
      obtain ⟨result, folded, final⟩ := ih (before ++ [item]) next (by simp [split]) holds
      exact ⟨result, by rw [List.foldlM_cons, bind_eq_ok]; exact ⟨next, stepped, folded⟩, final⟩

/-- A function that may fail succeeds on a list exactly when it does on each of
its items. -/
theorem mapM_eq_ok_iff {act : α → Except ε β} {items : List α} {results : List β} :
    items.mapM act = .ok results ↔
      List.Forall₂ (fun item result => act item = .ok result) items results := by
  induction items generalizing results with
  | nil =>
      rw [List.mapM_nil, List.forall₂_nil_left_iff]
      exact ⟨fun equal => by cases equal; rfl, fun equal => by rw [equal]; rfl⟩
  | cons item rest ih =>
      rw [List.mapM_cons, List.forall₂_cons_left_iff]
      simp only [bind_eq_ok, ih]
      constructor
      · rintro ⟨first, made, others, later, equal⟩
        cases equal
        exact ⟨first, others, made, later, rfl⟩
      · rintro ⟨first, others, made, later, rfl⟩
        exact ⟨first, made, others, later, rfl⟩

/-- A function that may fail succeeds on a list of items on which it succeeds. -/
theorem mapM_total (act : α → Except ε β) (items : List α)
    (succeeds : ∀ item ∈ items, ∃ result, act item = .ok result) :
    ∃ results, items.mapM act = .ok results := by
  induction items with
  | nil => exact ⟨[], rfl⟩
  | cons item rest ih =>
      obtain ⟨first, made⟩ := succeeds item List.mem_cons_self
      obtain ⟨others, later⟩ := ih fun other member => succeeds other (List.mem_cons_of_mem _ member)
      exact ⟨first :: others, mapM_eq_ok_iff.mpr (.cons made (mapM_eq_ok_iff.mp later))⟩

end EventFlow.Failing
