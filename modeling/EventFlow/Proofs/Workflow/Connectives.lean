import EventFlow.Proofs.Workflow.Selection

/-!
# The algebra of connectives

A rule comes to true, to false or to a failure, and the rules of a list are tried from the first
to the last until one of them decides. The connectives obey the laws of Boolean algebra with the
failures counted in: both sides of a law come to the same result, and where one side fails, the
other fails with the same words about the same rule.
-/

namespace EventFlow.Predicate

/-- What a rule comes to. -/
abbrev Verdict := Except Failure Bool

namespace Verdict

/-- The second verdict counts only behind a true one. -/
def both (first second : Verdict) : Verdict :=
  match first with
  | .ok true => second
  | other => other

/-- The second verdict counts only behind a false one. -/
def either (first second : Verdict) : Verdict :=
  match first with
  | .ok false => second
  | other => other

/-- The opposite verdict. A failure has none and stays. -/
def turned (verdict : Verdict) : Verdict :=
  verdict.map fun result => !result

/-- The first verdict that is not true, if there is one. -/
def all (verdicts : List Verdict) : Verdict :=
  verdicts.foldr both (.ok true)

/-- The first verdict that is not false, if there is one. -/
def any (verdicts : List Verdict) : Verdict :=
  verdicts.foldr either (.ok false)

variable (first second third : Verdict)

@[simp] theorem both_true : both first (.ok true) = first := by
  rcases first with cause | _ | _ <;> rfl

@[simp] theorem either_false : either first (.ok false) = first := by
  rcases first with cause | _ | _ <;> rfl

theorem both_assoc : both (both first second) third = both first (both second third) := by
  rcases first with cause | _ | _ <;> rfl

theorem either_assoc : either (either first second) third = either first (either second third) := by
  rcases first with cause | _ | _ <;> rfl

@[simp] theorem turned_turned : turned (turned first) = first := by
  rcases first with cause | _ | _ <;> rfl

/-- The opposite of two verdicts is either opposite. -/
theorem turned_both : turned (both first second) = either (turned first) (turned second) := by
  rcases first with cause | _ | _ <;> rfl

/-- The opposite of either verdict is both opposites. -/
theorem turned_either : turned (either first second) = both (turned first) (turned second) := by
  rcases first with cause | _ | _ <;> rfl

@[simp] theorem all_cons (rest : List Verdict) : all (first :: rest) = both first (all rest) := rfl

@[simp] theorem any_cons (rest : List Verdict) : any (first :: rest) = either first (any rest) := rfl

/-- The verdicts of a list decide in two parts, one behind the other. -/
theorem all_append (front rest : List Verdict) :
    all (front ++ rest) = both (all front) (all rest) := by
  induction front with
  | nil => rfl
  | cons verdict front ih => rw [List.cons_append, all_cons, all_cons, ih, both_assoc]

/-- The verdicts of a list decide in two parts, one behind the other. -/
theorem any_append (front rest : List Verdict) :
    any (front ++ rest) = either (any front) (any rest) := by
  induction front with
  | nil => rfl
  | cons verdict front ih => rw [List.cons_append, any_cons, any_cons, ih, either_assoc]

/-- The opposite of all verdicts is any opposite. -/
theorem turned_all (verdicts : List Verdict) : turned (all verdicts) = any (verdicts.map turned) := by
  induction verdicts with
  | nil => rfl
  | cons verdict rest ih => rw [all_cons, turned_both, ih, List.map_cons, any_cons]

/-- The opposite of any verdict is all opposites. -/
theorem turned_any (verdicts : List Verdict) : turned (any verdicts) = all (verdicts.map turned) := by
  induction verdicts with
  | nil => rfl
  | cons verdict rest ih => rw [any_cons, turned_either, ih, List.map_cons, all_cons]

end Verdict

/-- The conjunction of rules. -/
def conjunction (rules : List (Dict Json)) : Dict Json :=
  [("And", .array (rules.map Json.object))]

/-- The disjunction of rules. -/
def disjunction (rules : List (Dict Json)) : Dict Json :=
  [("Or", .array (rules.map Json.object))]

/-- The negation of a rule. -/
def negation (rule : Dict Json) : Dict Json :=
  [("Not", .object rule)]

variable (input : Json) (rules : List (Dict Json)) (rule : Dict Json)

/-- The rules of a list hold by all their verdicts. -/
theorem allHold_objects :
    allHold input (rules.map Json.object) = Verdict.all (rules.map (evaluate · input)) := by
  induction rules with
  | nil => rfl
  | cons first rest ih =>
      rw [List.map_cons, List.map_cons, Verdict.all_cons, ← ih, allHold]
      rfl

/-- A rule of a list holds by any of their verdicts. -/
theorem anyHolds_objects :
    anyHolds input (rules.map Json.object) = Verdict.any (rules.map (evaluate · input)) := by
  induction rules with
  | nil => rfl
  | cons first rest ih =>
      rw [List.map_cons, List.map_cons, Verdict.any_cons, ← ih, anyHolds]
      rfl

theorem evaluate_conjunction :
    evaluate (conjunction rules) input = Verdict.all (rules.map (evaluate · input)) :=
  (holds_allOf input (rules.map Json.object)).trans (allHold_objects input rules)

theorem evaluate_disjunction :
    evaluate (disjunction rules) input = Verdict.any (rules.map (evaluate · input)) :=
  (holds_anyOf input (rules.map Json.object)).trans (anyHolds_objects input rules)

theorem evaluate_negation :
    evaluate (negation rule) input = Verdict.turned (evaluate rule input) :=
  holds_negation input (.object rule)

/-- The verdicts of negations are the opposite verdicts. -/
theorem map_evaluate_negation :
    (rules.map negation).map (evaluate · input) =
      (rules.map (evaluate · input)).map Verdict.turned := by
  rw [List.map_map, List.map_map]
  exact List.map_congr_left fun rule _ => evaluate_negation input rule

/-- Negation goes into conjunctions and disjunctions and undoes itself, and a conjunction or a
disjunction of two lists of rules is that of the two conjunctions or disjunctions: the same
verdict on both sides, and the same failure. -/
theorem connectives_obey_boolean_laws (rules more : List (Dict Json)) (rule : Dict Json)
    (input : Json) :
    evaluate (negation (conjunction rules)) input =
        evaluate (disjunction (rules.map negation)) input ∧
      evaluate (negation (disjunction rules)) input =
        evaluate (conjunction (rules.map negation)) input ∧
      evaluate (negation (negation rule)) input = evaluate rule input ∧
      evaluate (conjunction (rules ++ more)) input =
        evaluate (conjunction [conjunction rules, conjunction more]) input ∧
      evaluate (disjunction (rules ++ more)) input =
        evaluate (disjunction [disjunction rules, disjunction more]) input := by
  refine ⟨?_, ?_, ?_, ?_, ?_⟩
  · rw [evaluate_negation, evaluate_conjunction, Verdict.turned_all, evaluate_disjunction,
      map_evaluate_negation]
  · rw [evaluate_negation, evaluate_disjunction, Verdict.turned_any, evaluate_conjunction,
      map_evaluate_negation]
  · rw [evaluate_negation, evaluate_negation, Verdict.turned_turned]
  · rw [evaluate_conjunction, evaluate_conjunction, List.map_append, Verdict.all_append]
    simp [Verdict.all, evaluate_conjunction]
  · rw [evaluate_disjunction, evaluate_disjunction, List.map_append, Verdict.any_append]
    simp [Verdict.any, evaluate_disjunction]

end EventFlow.Predicate
