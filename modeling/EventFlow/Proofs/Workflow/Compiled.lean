import EventFlow.Proofs.Engine.Nets
import EventFlow.Proofs.Workflow.Steps

/-!
# Planned triggers

What the triggers of a plan are once they are in a store: which names their contexts
have, which conditions and roles, and what their actions make of an input.
-/

namespace EventFlow

namespace Json

/-- Fields that are sorted in one after the other. -/
theorem sortedFields_append (front rest : List (String × Json)) (done : Dict Json) :
    sortedFields (front ++ rest) done = sortedFields rest (sortedFields front done) := by
  induction front generalizing done with
  | nil => rfl
  | cons field front ih => exact ih _

/-- Sorting fields of other names in leaves a name alone. -/
theorem get?_sortedFields_of_not_mem {fields : List (String × Json)} {name : String}
    (absent : ∀ field ∈ fields, field.1 ≠ name) (done : Dict Json) :
    Dict.get? (sortedFields fields done) name = Dict.get? done name := by
  induction fields generalizing done with
  | nil => rfl
  | cons field rest ih =>
      rw [sortedFields, ih fun other member => absent other (List.mem_cons_of_mem _ member),
        Dict.get?_insert_of_ne _ _ (absent field List.mem_cons_self)]

/-- A field in order is found where it was sorted in. -/
theorem get?_sortedFields {fields : Dict Json} (ascending : Dict.Ascending fields)
    (ordered : OrderedFields fields) (done : Dict Json) (name : String) :
    Dict.get? (sortedFields fields done) name =
      (Dict.get? fields name).or (Dict.get? done name) := by
  induction fields generalizing done with
  | nil => rfl
  | cons field rest ih =>
      obtain ⟨key, value⟩ := field
      obtain ⟨least, behind⟩ := List.pairwise_cons.mp ascending
      rw [sortedFields, ih behind ordered.2, Dict.get?_cons, sorted_of_ordered ordered.1]
      split
      · next same =>
        subst same
        have later : Dict.get? rest key = none := Dict.get?_eq_none_iff.mpr fun member =>
          String.lt_irrefl key (least key member)
        rw [later, Dict.get?_insert_self]
        rfl
      · next different => rw [Dict.get?_insert_of_ne _ _ different]

end Json

namespace State

/-- A name that no field of its own has is looked up in what a state carries. -/
theorem get?_toJson {state : State} (ordered : state.Ordered) (name : String)
    (foreign : name ∉ ["Type", "Next", "End", "Choices", "Default", "Branches", "Iterator"]) :
    state.toJson.get? name = Dict.get? state.extra name := by
  obtain ⟨kind, next, ends, choices, default, branches, iterator, extra⟩ := state
  simp only [List.mem_cons, List.not_mem_nil, or_false, not_or] at foreign
  simp only [toJson, encode, Json.sorted, Json.get?]
  rw [Json.sortedFields_append, Json.get?_sortedFields ordered.extra.1 ordered.extra.2,
    Json.get?_sortedFields_of_not_mem, Dict.get?_nil, Option.or_none]
  intro field member equal
  simp only [List.mem_append, List.mem_singleton, mem_optionalField_iff, mem_listField_iff,
    mem_encodeIterator_iff] at member
  obtain ⟨type, next, ends, choices, default, branches, iterator⟩ := foreign
  rcases member with
    (((((rfl | ⟨_, -, rfl⟩) | written) | ⟨-, rfl⟩) | ⟨_, -, rfl⟩) | ⟨-, rfl⟩) | ⟨_, -, rfl⟩
  · exact type equal.symm
  · exact next equal.symm
  · split at written
    · rw [List.mem_singleton.mp written] at equal
      exact ends equal.symm
    · exact absurd written List.not_mem_nil
  · exact choices equal.symm
  · exact default equal.symm
  · exact branches equal.symm
  · exact iterator equal.symm

/-- What the action of a pass state makes of an input, from the state as its trigger
carries it. -/
theorem passOutput_toJson {state : State} (ordered : state.Ordered) (input : Json) :
    Builtins.passOutput (some state.toJson) input = state.output input := by
  have result := get?_toJson ordered "Result" (by decide)
  have path := get?_toJson ordered "ResultPath" (by decide)
  unfold Builtins.passOutput output
  rw [Option.bind_some, result]
  cases Dict.get? state.extra "Result" with
  | none => rfl
  | some value =>
      simp only [Option.map_some]
      rw [path]

end State

/-- The trigger that a planned submission becomes in a store. -/
def Submission.trigger (submission : Submission) : Trigger :=
  submission.toTrigger (submission.id.getD "") submission.context.fields

namespace Plan

/-- The subjects of completions. -/
theorem subjects_completions (waits : List String) :
    (waits.map EventKey.completion).map EventKey.subject = waits := by
  simp [Function.comp_def, EventKey.completion]

/-! ## Triggers of states -/

section State

variable {name action : String} {state : State} {waits : List String} {gate : Option Json}

/-- The trigger of a state waits for what it was planned to wait for. -/
theorem waits_stateTrigger (context : Dict Json) :
    (stateTrigger name waits action context).trigger.waits = waits :=
  subjects_completions waits

/-- The context of a state's trigger has the state, its name and its condition. -/
theorem get?_gated (key : String) :
    Dict.get? (gated (stateContext name state) gate) key =
      if key = "Condition" then gate
      else if key = "subject" then some (.string name)
      else if key = "State" then some state.toJson
      else none := by
  have context : Dict.get? (stateContext name state) key =
      if key = "subject" then some (.string name)
      else if key = "State" then some state.toJson
      else none := by
    simp [stateContext, Dict.ofList, Dict.get?_insert, eq_comm (a := key)]
  by_cases condition : key = "Condition"
  · subst condition
    rw [if_pos rfl, get?_condition_gated]
  · rw [if_neg condition, ← context]
    cases gate with
    | none => rfl
    | some rule => exact Dict.get?_insert_of_ne _ _ (Ne.symm condition)

/-- The trigger of a state joins all that it waits for. -/
theorem joinsAny_stateTrigger :
    Worker.joinsAny (stateTrigger name waits action (gated (stateContext name state) gate)).trigger =
      false := by
  have none : Dict.get? (gated (stateContext name state) gate) Worker.joinKey = none :=
    get?_gated _
  unfold Worker.joinsAny
  rw [show (stateTrigger name waits action (gated (stateContext name state) gate)).trigger.context =
    gated (stateContext name state) gate from rfl, none]
  rfl

/-- The context of a state's trigger is in order if its condition is. -/
theorem ordered_gated (sound : Gate gate) :
    (Json.object (gated (stateContext name state) gate)).Ordered := by
  have context : (Json.object (stateContext name state)).Ordered := by
    refine ⟨Dict.Ascending.ofList _, Json.orderedFields_iff.mpr fun field member => ?_⟩
    have listed := Dict.mem_ofList member
    simp only [List.mem_cons, List.not_mem_nil, or_false] at listed
    rcases listed with rfl | rfl
    · exact Json.ordered_sorted _
    · trivial
  cases gate with
  | none => exact context
  | some rule => exact ⟨context.1.insert _ _, context.2.insert _ (sound.ordered rule rfl)⟩

/-- The context of a state's trigger has no other keys than those of compiled triggers. -/
theorem mem_contextKeys_of_gated {key : String}
    (member : key ∈ Dict.keys (gated (stateContext name state) gate)) :
    key ∈ Trigger.contextKeys := by
  obtain ⟨value, found⟩ := Dict.mem_keys_iff.mp member
  rw [get?_gated] at found
  split at found
  · next same => exact same ▸ by decide
  · split at found
    · next same => exact same ▸ by decide
    · split at found
      · next same => exact same ▸ by decide
      · cases found

/-- The trigger of a state is compiled, whatever role it has. -/
theorem compiled_stateTrigger (sound : Gate gate)
    (role : (stateTrigger name waits action (gated (stateContext name state) gate)).trigger.Role) :
    (stateTrigger name waits action (gated (stateContext name state) gate)).trigger.Compiled where
  condition := rfl
  persistent := rfl
  subject := get?_gated _
  rule := fun rule found => sound.rule rule ((get?_condition_gated name state gate).symm.trans found)
  ordered := ordered_gated sound
  keys := fun _ => mem_contextKeys_of_gated
  completions := by
    rw [waits_stateTrigger]
    rfl
  role := role

/-- What the trigger of a pass or parallel state makes of an input. -/
theorem output_statePass (ordered : state.Ordered) (input : Json) :
    (stateTrigger name waits Vocabulary.statePass
      (gated (stateContext name state) gate)).trigger.output input = state.output input := by
  have made : (stateTrigger name waits Vocabulary.statePass
      (gated (stateContext name state) gate)).trigger.output input =
        Builtins.passOutput (Dict.get? (gated (stateContext name state) gate) "State") input :=
    if_pos rfl
  rw [made, get?_state_gated, State.passOutput_toJson ordered]

/-- The trigger of a task, wait or map state passes its input on. -/
theorem output_task (input : Json) :
    (stateTrigger name waits Vocabulary.task
      (gated (stateContext name state) gate)).trigger.output input = input :=
  if_neg (show Vocabulary.task ≠ Vocabulary.statePass by decide)

end State

/-! ## Closing triggers -/

section Closing

variable {id : String} {completions : List String} {depth : Nat}

/-- A closing trigger waits for the completions of the last states. -/
theorem waits_closingTrigger : (closingTrigger id completions depth).trigger.waits = completions :=
  subjects_completions completions

/-- The context of a closing trigger has its id, the way of joining for several last
states, and a mark at the root. -/
theorem get?_closingContext (id : String) (terminals depth : Nat) (key : String) :
    Dict.get? (closingContext id terminals depth) key =
      if key = "root" ∧ depth = 0 then some (.bool true)
      else if key = "join" ∧ terminals > 1 then some (.string "any")
      else if key = "subject" then some (.string id)
      else none := by
  unfold closingContext
  dsimp only
  split <;> split <;> simp [Dict.get?_insert, *, eq_comm (a := key)]

/-- A closing trigger joins any of several last states. -/
theorem joinsAny_closingTrigger :
    Worker.joinsAny (closingTrigger id completions depth).trigger = decide (completions.length > 1) := by
  have join : Dict.get? (closingTrigger id completions depth).trigger.context Worker.joinKey =
      if completions.length > 1 then some (.string "any") else none := by
    have found := get?_closingContext id completions.length depth "join"
    simp only [String.reduceEq, false_and, if_false, true_and] at found
    exact found
  unfold Worker.joinsAny
  rw [join]
  split <;> simp [*, Json.asString?]

/-- A closing trigger passes on the output of a last state. -/
theorem output_closingTrigger (input : Json) :
    (closingTrigger id completions depth).trigger.output input = input :=
  if_neg (show Vocabulary.closeLevel ≠ Vocabulary.statePass by decide)

/-- The context of a closing trigger has its keys in order. -/
theorem ordered_closingContext {terminals : Nat} :
    (Json.object (closingContext id terminals depth)).Ordered := by
  have subject : (Json.object [("subject", .string id)]).Ordered :=
    ⟨List.pairwise_singleton _ _, trivial, trivial⟩
  have joined : (Json.object (if terminals > 1 then
      Dict.insert [("subject", .string id)] "join" (.string "any")
      else [("subject", .string id)])).Ordered := by
    split
    · exact ⟨subject.1.insert _ _, subject.2.insert _ trivial⟩
    · exact subject
  unfold closingContext
  dsimp only
  split
  · exact ⟨joined.1.insert _ _, joined.2.insert _ trivial⟩
  · exact joined

/-- The context of a closing trigger has no other keys than those of compiled triggers. -/
theorem mem_contextKeys_of_closingContext {terminals : Nat} {key : String}
    (member : key ∈ Dict.keys (closingContext id terminals depth)) :
    key ∈ Trigger.contextKeys := by
  obtain ⟨value, found⟩ := Dict.mem_keys_iff.mp member
  rw [get?_closingContext] at found
  split at found
  · next same => exact same.1 ▸ by decide
  · split at found
    · next same => exact same.1 ▸ by decide
    · split at found
      · next same => exact same ▸ by decide
      · cases found

/-- A closing trigger is compiled. -/
theorem compiled_closingTrigger (ends : completions ≠ []) :
    (closingTrigger id completions depth).trigger.Compiled where
  condition := rfl
  persistent := rfl
  subject := by
    have found := get?_closingContext id completions.length depth "subject"
    simp only [String.reduceEq, false_and, if_false, if_true] at found
    exact found
  rule := by
    intro rule found
    have none := get?_closingContext id completions.length depth "Condition"
    simp only [String.reduceEq, false_and, if_false] at none
    cases none.symm.trans found
  ordered := ordered_closingContext
  keys := fun _ => mem_contextKeys_of_closingContext
  completions := by
    rw [waits_closingTrigger]
    rfl
  role := by
    by_cases several : completions.length > 1
    · exact .any (by rw [joinsAny_closingTrigger]; simpa using several) rfl
    · obtain ⟨only, rfl⟩ : ∃ only, completions = [only] := by
        cases completions with
        | nil => exact absurd rfl ends
        | cons only rest =>
            cases rest with
            | nil => exact ⟨only, rfl⟩
            | cons second rest => simp at several
      exact .single (by rw [joinsAny_closingTrigger]; rfl) only waits_closingTrigger
        (.inr (.inr rfl))

end Closing

end Plan

end EventFlow
