import EventFlow.Proofs.Dict
import EventFlow.Workflow.Predicate

/-!
# The operators of a rule

A rule has one operator: it combines other rules, or it compares a variable. Where a rule has
several, one of them decides, and the rest are not even looked at. It is the first connective
that there is, and without connectives the first comparison in the order of the names.
-/

namespace EventFlow.Predicate

/-- The operators that combine rules, in the order in which they are looked for. -/
def connectives : List String := ["And", "Or", "Not"]

/-- Whether a name in a rule is an operator. The variable and the target are none. -/
def isOperator (name : String) : Bool :=
  name ≠ "Variable" && name ≠ "Next"

/-- The operators of a rule, in the order of its fields. -/
def operators (rule : Dict Json) : List String :=
  (Dict.keys rule).filter isOperator

/-- The operator that decides a rule. -/
def decider? (rule : Dict Json) : Option String :=
  (connectives.find? (Dict.contains rule)).or (operators rule).head?

/-- Whether an operator needs a name in its rule: its own, and for a comparison the variable. -/
def needs (operator name : String) : Bool :=
  name = operator || (name = "Variable" && !connectives.contains operator)

/-- The rule that has only this operator. -/
def only (rule : Dict Json) (operator : String) : Dict Json :=
  rule.filter fun entry => needs operator entry.1

/-- Whether there is such an operator. -/
def supports (operator : String) : Bool :=
  connectives.contains operator || (comparison? operator).isSome

variable {rule : Dict Json} {input : Json} {operator : String} {result : Bool}

/-! ## Connectives -/

/-- What a connective makes of its value. -/
def connect (input : Json) (connective : String) (value : Json) : Except Failure Bool :=
  if connective = "Not" then (holds input value).map fun result => !result
  else
    match value with
    | .array rules => if connective = "And" then allHold input rules else anyHolds input rules
    | other => .error (.definition (.notRuleList other))

/-- The conjunction of a rule is what stands under its name. -/
theorem conjunction?_eq (input : Json) (rule : Dict Json) :
    conjunction? input rule = (Dict.get? rule "And").map (connect input "And") := by
  induction rule with
  | nil => rfl
  | cons entry rest ih =>
    obtain ⟨name, value⟩ := entry
    by_cases same : name = "And"
    · cases value <;> simp [conjunction?, connect, same]
    · cases value <;> simp [conjunction?, same, ih]

/-- The disjunction of a rule is what stands under its name. -/
theorem disjunction?_eq (input : Json) (rule : Dict Json) :
    disjunction? input rule = (Dict.get? rule "Or").map (connect input "Or") := by
  induction rule with
  | nil => rfl
  | cons entry rest ih =>
    obtain ⟨name, value⟩ := entry
    by_cases same : name = "Or"
    · cases value <;> simp [disjunction?, connect, same]
    · cases value <;> simp [disjunction?, same, ih]

/-- The negation of a rule is what stands under its name. -/
theorem negation?_eq (input : Json) (rule : Dict Json) :
    negation? input rule = (Dict.get? rule "Not").map (connect input "Not") := by
  induction rule with
  | nil => rfl
  | cons entry rest ih =>
    obtain ⟨name, value⟩ := entry
    by_cases same : name = "Not"
    · simp [negation?, connect, same]
    · simp [negation?, same, ih]

/-- The first connective of a rule decides it. -/
theorem evaluate_of_connective (decides : connectives.find? (Dict.contains rule) = some operator)
    (input : Json) :
    some (evaluate rule input) = (Dict.get? rule operator).map (connect input operator) := by
  simp only [evaluate, holds, conjunction?_eq, disjunction?_eq, negation?_eq]
  simp only [connectives, List.find?_cons, List.find?_nil, Dict.contains] at decides
  -- both sides look for the connectives one after the other, so the cases follow their order
  cases conjunction : Dict.get? rule "And" with
  | some value =>
    rw [conjunction] at decides
    cases decides
    rw [conjunction]
    rfl
  | none =>
    cases disjunction : Dict.get? rule "Or" with
    | some value =>
      rw [conjunction, disjunction] at decides
      cases decides
      rw [disjunction]
      rfl
    | none =>
      cases negation : Dict.get? rule "Not" with
      | some value =>
        rw [conjunction, disjunction, negation] at decides
        cases decides
        rw [negation]
        rfl
      | none =>
        rw [conjunction, disjunction, negation] at decides
        cases decides

/-- A rule without connectives compares. -/
theorem evaluate_of_comparison (plain : connectives.find? (Dict.contains rule) = none)
    (input : Json) : evaluate rule input = compare rule input := by
  have absent : ∀ name ∈ connectives, Dict.get? rule name = none := by
    intro name member
    simpa [Dict.contains] using List.find?_eq_none.mp plain name member
  simp only [evaluate, holds, conjunction?_eq, disjunction?_eq, negation?_eq,
    absent _ (by decide : "And" ∈ connectives), absent _ (by decide : "Or" ∈ connectives),
    absent _ (by decide : "Not" ∈ connectives), Option.map_none]

/-- A rule with only one operator has what this operator needs. -/
theorem get?_only (rule : Dict Json) (operator name : String) :
    Dict.get? (only rule operator) name =
      if needs operator name then Dict.get? rule name else none :=
  Dict.get?_filter (needs operator) rule name

/-- The rule with only the deciding connective comes to the same. -/
theorem evaluate_only_of_connective
    (decides : connectives.find? (Dict.contains rule) = some operator) :
    evaluate (only rule operator) input = evaluate rule input := by
  have member : operator ∈ connectives := List.mem_of_find?_eq_some decides
  have held : Dict.contains rule operator = true := List.find?_some decides
  have alone : ∀ name, Dict.contains (only rule operator) name =
      (decide (name = operator) && Dict.contains rule name) := by
    intro name
    rw [Dict.contains, get?_only, needs, List.contains_iff_mem.mpr member]
    by_cases same : name = operator <;> simp [same, Dict.contains]
  have still : connectives.find? (Dict.contains (only rule operator)) = some operator := by
    simp only [connectives, List.mem_cons, List.not_mem_nil, or_false] at member
    rcases member with rfl | rfl | rfl <;> simp [connectives, alone, held]
  have value : Dict.get? (only rule operator) operator = Dict.get? rule operator := by
    rw [get?_only, needs, decide_eq_true rfl, Bool.true_or, if_pos rfl]
  have same := evaluate_of_connective still input
  rw [value, ← evaluate_of_connective decides] at same
  exact Option.some.inj same

/-! ## Comparisons -/

/-- A comparison of fields is what the first operator among them says. -/
theorem compareFirst_eq_ok_iff {actual : Option Json} {fields : Dict Json} :
    compareFirst rule actual fields = .ok result ↔
      ∃ entry test, fields.find? (fun entry => isOperator entry.1) = some entry ∧
        comparison? entry.1 = some test ∧ test actual entry.2 = result := by
  induction fields with
  | nil => simp [compareFirst]
  | cons entry rest ih =>
    obtain ⟨name, expected⟩ := entry
    rw [compareFirst, List.find?_cons]
    by_cases passed : name = "Variable" ∨ name = "Next"
    · have none : isOperator name = false := by
        rcases passed with rfl | rfl <;> rfl
      rw [if_pos passed, ih]
      simp only [none]
    · have some : isOperator name = true := by
        simpa [isOperator, not_or] using passed
      rw [if_neg passed]
      cases compared : comparison? name <;> simp [some, compared]

/-- The first operator of a rule stands in its first field that is an operator. -/
theorem head?_operators (rule : Dict Json) :
    (operators rule).head? = (rule.find? fun entry => isOperator entry.1).map Prod.fst := by
  rw [operators, Dict.keys, List.head?_filter, List.find?_map]
  rfl

/-- A rule without connectives is decided by its first operator, if that is a comparison. -/
theorem compare_eq_ok_iff (plain : connectives.find? (Dict.contains rule) = none) :
    evaluate rule input = .ok result ↔
      ∃ path entry test, (Dict.get? rule "Variable").bind Json.asString? = some path ∧
        rule.find? (fun entry => isOperator entry.1) = some entry ∧
        comparison? entry.1 = some test ∧ test (input.lookup path) entry.2 = result := by
  rw [evaluate_of_comparison plain, compare]
  cases (Dict.get? rule "Variable").bind Json.asString? with
  | none => simp
  | some path => simp [compareFirst_eq_ok_iff]

/-- A rule with one of its operators alone has no connectives that the rule has not. -/
theorem plain_only (plain : connectives.find? (Dict.contains rule) = none) (operator : String) :
    connectives.find? (Dict.contains (only rule operator)) = none := by
  rw [List.find?_eq_none] at plain ⊢
  intro name member held
  refine plain name member ?_
  rw [Dict.contains, get?_only] at held
  split at held
  · exact held
  · cases held

/-- The rule with only the deciding comparison comes to the same if it comes to anything. -/
theorem evaluate_only_of_comparison (plain : connectives.find? (Dict.contains rule) = none)
    (decides : (operators rule).head? = some operator) :
    evaluate (only rule operator) input = .ok result ↔ evaluate rule input = .ok result := by
  rw [head?_operators, Option.map_eq_some_iff] at decides
  obtain ⟨entry, first, rfl⟩ := decides
  have comparison : entry.1 ∉ connectives := by
    intro member
    have held : Dict.contains rule entry.1 = true := by
      rw [Dict.contains, Option.isSome_iff_exists, ← Dict.mem_keys_iff]
      exact List.mem_map_of_mem (List.mem_of_find?_eq_some first)
    exact List.find?_eq_none.mp plain entry.1 member held
  have compared : needs entry.1 "Variable" = true := by
    simp [needs, comparison]
  have same : (only rule entry.1).find? (fun entry => isOperator entry.1) = some entry := by
    obtain ⟨own, front, rest, split, none⟩ := List.find?_eq_some_iff_append.mp first
    have needed : needs entry.1 entry.1 = true := by simp [needs]
    refine List.find?_eq_some_iff_append.mpr ⟨own, front.filter fun field => needs entry.1 field.1,
      rest.filter fun field => needs entry.1 field.1, ?_, fun field member =>
        none field (List.mem_filter.mp member).1⟩
    simp only [only, split, List.filter_append, List.filter_cons, needed, if_true]
  rw [compare_eq_ok_iff plain, compare_eq_ok_iff (plain_only plain entry.1), get?_only, compared,
    if_pos rfl, same, first]

/-! ## The deciding operator -/

/-- The deciding connective is the operator that decides a rule, and it is one of those that
there are. -/
theorem decider?_of_connective (decides : connectives.find? (Dict.contains rule) = some operator) :
    decider? rule = some operator ∧ operator ∈ operators rule ∧ supports operator = true := by
  have member : operator ∈ connectives := List.mem_of_find?_eq_some decides
  have held : Dict.contains rule operator = true := List.find?_some decides
  refine ⟨?_, List.mem_filter.mpr ⟨?_, ?_⟩, ?_⟩
  · rw [decider?, decides, Option.some_or]
  · rwa [Dict.contains, Option.isSome_iff_exists, ← Dict.mem_keys_iff] at held
  · exact (by decide : ∀ name ∈ connectives, isOperator name = true) operator member
  · rw [supports, List.contains_iff_mem.mpr member, Bool.true_or]

/-- A rule without connectives that comes to something is decided by its first operator, and this
is one of those that there are. -/
theorem decider?_of_comparison (plain : connectives.find? (Dict.contains rule) = none)
    (evaluated : evaluate rule input = .ok result) :
    ∃ operator, (operators rule).head? = some operator ∧ decider? rule = some operator ∧
      operator ∈ operators rule ∧ supports operator = true := by
  obtain ⟨path, entry, test, -, first, compared, -⟩ := (compare_eq_ok_iff plain).mp evaluated
  have head : (operators rule).head? = some entry.1 := by
    rw [head?_operators, first, Option.map_some]
  refine ⟨entry.1, head, ?_, List.mem_of_mem_head? head, ?_⟩
  · rw [decider?, plain, Option.none_or, head]
  · rw [supports, compared, Option.isSome_some, Bool.or_true]

/-- One operator decides a rule, and it is one of those that there are. The rule comes to a
result exactly when it does so with this operator alone, so all others of the rule are passed
over. A rule with a single operator, as rules are meant to be, comes to nothing unless there is
such an operator. -/
theorem decided_by_one_operator (rule : Dict Json) (input : Json) (result : Bool) :
    (evaluate rule input = .ok result ↔ ∃ operator, decider? rule = some operator ∧
        evaluate (only rule operator) input = .ok result) ∧
      (evaluate rule input = .ok result → ∃ operator ∈ operators rule,
        decider? rule = some operator ∧ supports operator = true) ∧
      ∀ operator, operators rule = [operator] → evaluate rule input = .ok result →
        supports operator = true ∧ evaluate (only rule operator) input = .ok result := by
  have decided : evaluate rule input = .ok result ↔ ∃ operator, decider? rule = some operator ∧
      evaluate (only rule operator) input = .ok result := by
    cases decides : connectives.find? (Dict.contains rule) with
    | some connective =>
      rw [(decider?_of_connective decides).1, ← evaluate_only_of_connective decides]
      simp
    | none =>
      constructor
      · intro evaluated
        obtain ⟨operator, head, decider, -⟩ := decider?_of_comparison decides evaluated
        exact ⟨operator, decider, (evaluate_only_of_comparison decides head).mpr evaluated⟩
      · rintro ⟨operator, decider, evaluated⟩
        rw [decider?, decides, Option.none_or] at decider
        exact (evaluate_only_of_comparison decides decider).mp evaluated
  have supported : evaluate rule input = .ok result → ∃ operator ∈ operators rule,
      decider? rule = some operator ∧ supports operator = true := by
    intro evaluated
    cases decides : connectives.find? (Dict.contains rule) with
    | some connective =>
      obtain ⟨decider, listed, there⟩ := decider?_of_connective decides
      exact ⟨connective, listed, decider, there⟩
    | none =>
      obtain ⟨operator, -, decider, listed, there⟩ := decider?_of_comparison decides evaluated
      exact ⟨operator, listed, decider, there⟩
  refine ⟨decided, supported, fun operator single evaluated => ?_⟩
  obtain ⟨first, listed, decider, there⟩ := supported evaluated
  obtain ⟨_, same, alone⟩ := decided.mp evaluated
  cases decider.symm.trans same
  rw [single, List.mem_singleton] at listed
  exact listed ▸ ⟨there, alone⟩

/-- A rule with a target and one comparison. -/
def sampleRule : Dict Json :=
  [("BooleanEquals", .bool true), ("Next", .string "A"), ("Variable", .string "$.x")]

/-- An input for which the comparison holds. -/
def sampleInput : Json :=
  .object [("x", .bool true)]

/-- The sample rule holds by its comparison alone. -/
theorem sample_decided : evaluate (only sampleRule "BooleanEquals") sampleInput = .ok true := by
  have evaluated : evaluate sampleRule sampleInput = .ok true := rfl
  exact ((decided_by_one_operator sampleRule sampleInput true).2.2 "BooleanEquals" (by decide)
    evaluated).2

/-- A rule with another comparison behind this one. -/
def doubledRule (operator : String) : Dict Json :=
  [("BooleanEquals", .bool true), (operator, .string "no"), ("Variable", .string "$.x")]

/-- A rule with two comparisons holds although one of them does not hold, or does not exist. -/
theorem second_comparison_passed_over :
    (evaluate (doubledRule "StringEquals") sampleInput = .ok true ∧
      "StringEquals" ∈ operators (doubledRule "StringEquals") ∧
      evaluate (only (doubledRule "StringEquals") "StringEquals") sampleInput = .ok false) ∧
      evaluate (doubledRule "TimestampEquals") sampleInput = .ok true ∧
      "TimestampEquals" ∈ operators (doubledRule "TimestampEquals") ∧
      supports "TimestampEquals" = false := by
  exact ⟨⟨rfl, by decide, rfl⟩, rfl, by decide, rfl⟩

end EventFlow.Predicate
