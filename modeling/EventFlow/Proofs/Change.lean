import EventFlow.Change
import EventFlow.Proofs.Failing

/-!
# Changes taken apart

A change is taken apart at its binds. For those who stop at a failure it is a computation
that may fail. What it leaves where it fails is told of a part of the state: a change that
never touches the part leaves it, and one that touches it only where nothing can fail any
more spares it.
-/

namespace EventFlow.Change

variable {σ τ α β : Type} {state after : σ}

/-! ## Binds -/

/-- What follows goes on where the first part has ended, if that was a success. -/
theorem perform_bind (first : Change σ α) (second : α → Change σ β) :
    perform (first >>= second) state =
      match first.perform state with
      | (.ok value, middle) => (second value).perform middle
      | (.error cause, middle) => (.error cause, middle) := by
  change ExceptT.bindCont second (first.perform state).1 (first.perform state).2 = _
  rcases first.perform state with ⟨cause | value, middle⟩ <;> rfl

/-- What follows a success goes on with its value and its state. -/
theorem perform_bind_eq_ok {first : Change σ α} {second : α → Change σ β} {result : β} :
    perform (first >>= second) state = (.ok result, after) ↔
      ∃ value middle, first.perform state = (.ok value, middle) ∧
        (second value).perform middle = (.ok result, after) := by
  rw [perform_bind]
  rcases first.perform state with ⟨cause | value, middle⟩ <;> simp

/-- A change whose value is discarded comes to the same otherwise. -/
theorem perform_discard (change : Change σ α) :
    (discard change).perform state =
      ((change.perform state).1.map fun _ => (), (change.perform state).2) := by
  show (Function.const α () <$> change).run state = _
  rw [ExceptT.run_map]
  rfl

/-- A change succeeds without its value exactly if it succeeds with one. -/
theorem perform_discard_eq_ok_iff {change : Change σ α} :
    (discard change).perform state = (.ok (), after) ↔
      ∃ value, change.perform state = (.ok value, after) := by
  rw [perform_discard]
  rcases change.perform state with ⟨cause | value, behind⟩ <;> simp [Except.map]

/-- What is got is the state. -/
@[simp] theorem perform_get : perform (get : Change σ σ) state = (.ok state, state) :=
  rfl

/-- What is set is the state from then on. -/
@[simp] theorem perform_set : perform (set after : Change σ PUnit) state = (.ok ⟨⟩, after) :=
  rfl

/-- A value is there, and nothing else. -/
@[simp] theorem perform_pure (value : α) :
    perform (pure value : Change σ α) state = (.ok value, state) :=
  rfl

/-- What is thrown is the failure, and the state stays as it is by then. -/
@[simp] theorem perform_throw (cause : Failure) :
    perform (throw cause : Change σ α) state = (.error cause, state) :=
  rfl

/-- A result that was lifted is there, and nothing else. -/
theorem perform_lift (result : Except Failure α) :
    (lift result : Change σ α).perform state = (result, state) :=
  rfl

/-! ## Successes -/

/-- A success is one of the change, with the state after it. -/
theorem success_eq_ok_iff {change : Change σ α} {value : α} :
    change.success state = .ok (value, after) ↔ change.perform state = (.ok value, after) := by
  unfold success
  rcases change.perform state with ⟨cause | other, behind⟩ <;> simp

/-- What is no success has failed, wherever that has left the state. -/
theorem success_eq_error_iff {change : Change σ α} {cause : Failure} :
    change.success state = .error cause ↔ ∃ after, change.perform state = (.error cause, after) := by
  unfold success
  rcases change.perform state with ⟨reason | value, behind⟩ <;> simp

/-- A value is a success, and changes nothing. -/
@[simp] theorem success_pure (value : α) :
    (pure value : Change σ α).success state = .ok (value, state) :=
  rfl

/-- A failure is not a success. -/
@[simp] theorem success_throw (cause : Failure) :
    (throw cause : Change σ α).success state = .error cause :=
  rfl

/-- The success of a lifted result is its value beside the state. -/
theorem success_lift (result : Except Failure α) :
    (lift result : Change σ α).success state = result.map fun value => (value, state) := by
  cases result <;> rfl

/-- For those who stop at a failure a bind is one of computations that may fail. -/
theorem success_bind (first : Change σ α) (second : α → Change σ β) :
    success (first >>= second) state =
      first.success state >>= fun both => (second both.1).success both.2 := by
  unfold success
  rw [perform_bind]
  rcases first.perform state with ⟨cause | value, middle⟩ <;> rfl

/-- Whatever follows a lifted result goes on with its value. -/
theorem success_lift_bind (result : Except Failure α) (second : α → Change σ β) :
    success (lift result >>= second) state = result >>= fun value => (second value).success state := by
  rw [success_bind, success_lift]
  cases result <;> rfl

/-- A fold of changes is one over the value and the state. -/
theorem success_foldlM (step : β → α → Change σ β) (items : List α) (start : β) :
    success (items.foldlM step start) state =
      items.foldlM (fun both item => (step both.1 item).success both.2) (start, state) := by
  induction items generalizing start state with
  | nil => rfl
  | cons item rest ih =>
    rw [List.foldlM_cons, success_bind, List.foldlM_cons]
    exact congrArg (Except.bind _) (funext fun both => ih both.1)

/-! ## What is left at a failure -/

/-- A change that never touches a part of the state. -/
def Leaves (part : σ → τ) (change : Change σ α) : Prop :=
  ∀ state, part (change.perform state).2 = part state

/-- A change that has not touched a part of the state where it fails. -/
def Spares (part : σ → τ) (change : Change σ α) : Prop :=
  ∀ state cause, (change.perform state).1 = .error cause →
    part (change.perform state).2 = part state

variable {part : σ → τ} {change : Change σ α}

/-- What never touches a part leaves it, whatever it comes to. -/
theorem Leaves.same (leaves : change.Leaves part) {result : Except Failure α}
    (performed : change.perform state = (result, after)) : part after = part state := by
  have left := leaves state
  rwa [performed] at left

/-- What never touches a part spares it. -/
theorem Leaves.spares (leaves : change.Leaves part) : change.Spares part :=
  fun state _ _ => leaves state

/-- A lifted result touches nothing. -/
theorem leaves_lift (result : Except Failure α) : (lift result : Change σ α).Leaves part :=
  fun _ => rfl

/-- What cannot fail spares everything. -/
theorem spares_of_sure (sure : ∀ state, ∃ value, (change.perform state).1 = .ok value) :
    change.Spares part := by
  intro state cause failed
  obtain ⟨value, succeeded⟩ := sure state
  cases succeeded.symm.trans failed

/-- What is spared is spared without the value too. -/
theorem Spares.discard (spares : change.Spares part) : (discard change).Spares part := by
  intro state cause failed
  rw [perform_discard] at failed ⊢
  rcases came : change.perform state with ⟨reason | value, after⟩
  · have left := spares state reason
    rw [came] at left
    exact left rfl
  · rw [came] at failed
    cases failed

/-- Behind a part that is not touched it is for the rest to spare it. -/
theorem Leaves.bind {first : Change σ α} {second : α → Change σ β} (leaves : first.Leaves part)
    (spares : ∀ value, (second value).Spares part) : Spares part (first >>= second) := by
  intro state cause failed
  rw [perform_bind] at failed ⊢
  have same := leaves state
  rcases came : first.perform state with ⟨reason | value, middle⟩
  · rw [came] at same
    exact same
  · rw [came] at same failed
    exact (spares value middle cause failed).trans same

end EventFlow.Change
