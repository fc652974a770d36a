import EventFlow.Proofs.Engine.Turns

/-!
# What the built-in handlers leave alone

None of the built-in handlers touches its surroundings or the data of its evaluation, so
whatever holds for handlers of that kind holds for workers with the built-in
registry.
-/

namespace EventFlow

/-- A handler that leaves its surroundings and the data of the evaluation as they are. It may
emit events and ask that the worker stops. -/
structure Handler.LeavesData {α : Type} (handler : Handler α) : Prop where
  around : ∀ context event around, (handler context event around).around = around
  data : ∀ context event around, (handler context event around).context.data = context.data

/-- All handlers of a registry leave their surroundings and the data of the evaluation. -/
structure Registry.LeavesData (registry : Registry) : Prop where
  conditions : ∀ name condition, registry.condition name = .ok condition → condition.LeavesData
  actions : ∀ name action, registry.action name = .ok action → action.LeavesData

/-- A handler that leaves its surroundings and all data leaves the way of joining. -/
theorem Handler.LeavesData.keepsJoin {α : Type} {handler : Handler α}
    (leaves : handler.LeavesData) : handler.KeepsJoin where
  around := leaves.around
  distinct context event around distinct := by
    rw [leaves.data]
    exact distinct
  join context event around := by
    rw [leaves.data]

/-- Handlers that leave their surroundings and all data leave the way of joining. -/
theorem Registry.LeavesData.keepsJoin {registry : Registry} (leaves : registry.LeavesData) :
    registry.KeepsJoin where
  conditions name condition known := (leaves.conditions name condition known).keepsJoin
  actions name action known := (leaves.actions name action known).keepsJoin

/-- A handler that only looks changes nothing. -/
theorem Handler.LeavesData.judging {α : Type} (judge : Evaluation → Json → Except Failure α) :
    (Handler.judging judge).LeavesData :=
  ⟨fun _ _ _ => rfl, fun _ _ _ => rfl⟩

namespace Builtins

/-- Announcing a completion leaves the data of an evaluation. -/
theorem data_complete (context : Evaluation) (output : Json) :
    (complete context output).2.data = context.data := by
  unfold complete
  split <;> rfl

/-- Closing a level leaves the data of an evaluation. -/
theorem closeLevel_leavesData : Handler.LeavesData closeLevel := by
  refine ⟨fun _ _ _ => rfl, fun context event around => ?_⟩
  have announced := data_complete context (eventData event)
  simp only [closeLevel, Handler.confined]
  split
  · rename_i made
    rw [made] at announced
    exact announced
  · rename_i made
    rw [made] at announced
    dsimp only
    split <;> exact announced

/-- Passing a state leaves the data of an evaluation. -/
theorem statePass_leavesData : Handler.LeavesData statePass :=
  ⟨fun _ _ _ => rfl, fun context _ _ => data_complete context _⟩

/-- Running a task leaves the data of an evaluation, if the invoker leaves the
surroundings. -/
theorem task_leavesData {invoker : Invoker}
    (confined : ∀ context state input around, (invoker context state input around).2 = around) :
    Handler.LeavesData (task invoker) := by
  refine ⟨fun context event around => ?_, fun context event around => ?_⟩
  · have same := confined context ((context.get? "State").getD .null) (context.input event) around
    simp only [task]
    split <;> exact same
  · simp only [task]
    split
    · rfl
    · rfl
    · exact data_complete context _

/-- Stopping the worker leaves the data of an evaluation. -/
theorem terminate_leavesData : Handler.LeavesData terminate :=
  ⟨fun _ _ _ => rfl, fun _ _ _ => rfl⟩

end Builtins

/-- The built-in handlers leave all data, with an invoker that leaves the surroundings. -/
theorem Registry.leavesData_withInvoker {invoker : Invoker}
    (confined : ∀ context state input around, (invoker context state input around).2 = around) :
    (Registry.withInvoker invoker).LeavesData := by
  constructor
  · intro name condition known
    unfold Registry.condition at known
    split at known
    · rename_i found
      cases known
      have listed := Dict.mem_ofList (Dict.mem_of_get? found)
      simp only [List.mem_cons, Prod.mk.injEq, List.not_mem_nil, or_false] at listed
      rcases listed with ⟨_, rfl⟩ | ⟨_, rfl⟩
      · exact .judging _
      · exact .judging _
    · cases known
  · intro name action known
    unfold Registry.action at known
    split at known
    · rename_i found
      cases known
      have listed := Dict.mem_ofList (Dict.mem_of_get? found)
      simp only [List.mem_cons, Prod.mk.injEq, List.not_mem_nil, or_false] at listed
      rcases listed with ⟨_, rfl⟩ | ⟨_, rfl⟩ | ⟨_, rfl⟩ | ⟨_, rfl⟩ | ⟨_, rfl⟩
      · exact .judging _
      · exact Builtins.statePass_leavesData
      · exact Builtins.task_leavesData confined
      · exact Builtins.closeLevel_leavesData
      · exact Builtins.terminate_leavesData
    · cases known

/-- The built-in handlers leave all data. -/
theorem Registry.leavesData_builtin : Registry.builtin.LeavesData :=
  leavesData_withInvoker fun _ _ _ _ => rfl

/-- The built-in handlers leave the way of joining. -/
theorem Registry.keepsJoin_builtin : Registry.builtin.KeepsJoin :=
  leavesData_builtin.keepsJoin

end EventFlow
