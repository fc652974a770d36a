import EventFlow.Proofs.Workflow.Transitions

/-!
# What a choice selects

A choice tries its rules in order and goes to the first one that holds; a rule
that fails ends the search. The condition that a level attaches to the targets
of a choice is shown to hold on exactly the inputs for which the choice selects
the target.
-/

namespace EventFlow

namespace State

/-- The target of the first rule that holds, and the fallback if none does. A rule
that fails selects nothing. -/
def selectRule (input : Json) (fallback : Option String) : List ChoiceRule → Option String
  | [] => fallback
  | rule :: rest =>
    match rule.evaluate input with
    | .ok true => some rule.next
    | .ok false => selectRule input fallback rest
    | .error _ => none

/-- The state that a choice selects on an input. -/
def selected (state : State) (input : Json) : Option String :=
  selectRule input state.default state.choices

end State

namespace Predicate

/-- A rule object; nothing else is evaluated inside a list of rules. -/
def IsRule : Json → Prop
  | .object _ => True
  | _ => False

/-- Evaluating a rule object is evaluating its predicate. -/
theorem holds_object (input : Json) (predicate : Dict Json) :
    holds input (.object predicate) = evaluate predicate input := rfl

/-- A conjunction is evaluated rule by rule. -/
@[simp] theorem holds_allOf (input : Json) (rules : List Json) :
    holds input (Route.allOf rules) = allHold input rules := by
  simp [Route.allOf, holds, conjunction?]

/-- A disjunction is evaluated rule by rule. -/
@[simp] theorem holds_anyOf (input : Json) (rules : List Json) :
    holds input (Route.anyOf rules) = anyHolds input rules := by
  simp [Route.anyOf, holds, conjunction?, disjunction?]

/-- A negation turns the result of its rule. -/
@[simp] theorem holds_negation (input rule : Json) :
    holds input (Route.negation rule) = (holds input rule).map fun result => !result := by
  simp [Route.negation, holds, conjunction?, disjunction?, negation?]

/-- The rule for none of the rules turns their disjunction. -/
@[simp] theorem holds_noneOf (input : Json) (rules : List Json) :
    holds input (Route.noneOf rules) = (anyHolds input rules).map fun result => !result :=
  (holds_negation input (Route.anyOf rules)).trans (by rw [holds_anyOf])

/-- A result is turned to true exactly from false. -/
theorem map_not_eq_ok_iff {result : Except Failure Bool} {value : Bool} :
    (result.map fun value => !value) = .ok value ↔ result = .ok (!value) := by
  cases result with
  | error cause => simp [Except.map]
  | ok inner => cases inner <;> cases value <;> simp [Except.map]

/-- A list of rules holds with its first rule and with the rest. -/
theorem allHold_cons_eq_true_iff {input rule : Json} {rest : List Json} (isRule : IsRule rule) :
    allHold input (rule :: rest) = .ok true ↔
      holds input rule = .ok true ∧ allHold input rest = .ok true := by
  cases rule with
  | object fields =>
      rw [allHold]
      split
      · next held => simp [held]
      · next other =>
        constructor
        · intro held
          exact absurd held other
        · rintro ⟨held, _⟩
          exact absurd held other
  | _ => exact isRule.elim

/-- All rules of a list hold exactly when each of them does. -/
theorem allHold_eq_true_iff {input : Json} {rules : List Json} (areRules : ∀ rule ∈ rules, IsRule rule) :
    allHold input rules = .ok true ↔ ∀ rule ∈ rules, holds input rule = .ok true := by
  induction rules with
  | nil => simp [allHold]
  | cons rule rest ih =>
      rw [allHold_cons_eq_true_iff (areRules rule List.mem_cons_self),
        ih fun other member => areRules other (List.mem_cons_of_mem _ member)]
      simp

/-- Rules that hold do not decide what the rules behind them come to. -/
theorem allHold_append {input : Json} {front rest : List Json} (areRules : ∀ rule ∈ front, IsRule rule)
    (held : ∀ rule ∈ front, holds input rule = .ok true) :
    allHold input (front ++ rest) = allHold input rest := by
  induction front with
  | nil => rfl
  | cons rule front ih =>
      have later := ih (fun other member => areRules other (List.mem_cons_of_mem _ member))
        fun other member => held other (List.mem_cons_of_mem _ member)
      cases rule with
      | object fields => simp [allHold, held (.object fields) List.mem_cons_self, later]
      | _ => exact (areRules _ List.mem_cons_self).elim

/-- No rule of a list holds exactly when each of them is false. -/
theorem anyHolds_eq_false_iff {input : Json} {rules : List Json} (areRules : ∀ rule ∈ rules, IsRule rule) :
    anyHolds input rules = .ok false ↔ ∀ rule ∈ rules, holds input rule = .ok false := by
  induction rules with
  | nil => simp [anyHolds]
  | cons rule rest ih =>
      have later := ih fun other member => areRules other (List.mem_cons_of_mem _ member)
      cases rule with
      | object fields =>
          rw [anyHolds]
          split
          · next held => simp [held, later]
          · next other =>
            simp only [List.mem_cons, forall_eq_or_imp]
            constructor
            · intro held
              exact absurd held other
            · rintro ⟨held, _⟩
              exact absurd held other
      | _ => exact (areRules _ List.mem_cons_self).elim

/-- One of two rules holds: the first, or the second where the first is false. -/
theorem anyHolds_pair_eq_true_iff {input first second : Json} (firstRule : IsRule first)
    (secondRule : IsRule second) :
    anyHolds input [first, second] = .ok true ↔
      holds input first = .ok true ∨
        (holds input first = .ok false ∧ holds input second = .ok true) := by
  cases first with
  | object firstFields =>
      cases second with
      | object secondFields =>
          rw [anyHolds]
          split
          · next failed =>
            rw [anyHolds]
            split
            · next alsoFailed => simp [failed, alsoFailed, anyHolds]
            · next other => simp [failed]
          · next other =>
            constructor
            · intro held
              exact .inl held
            · rintro (held | ⟨failed, _⟩)
              · exact held
              · exact absurd failed other
      | _ => exact secondRule.elim
  | _ => exact firstRule.elim

end Predicate

namespace Route

open Predicate

/-- The first matching rule of some rules holds when all earlier ones are false and
it holds itself. -/
theorem holds_firstMatch_eq_true_iff {input rule : Json} {earlier : List Json}
    (earlierRules : ∀ other ∈ earlier, IsRule other) (isRule : IsRule rule) :
    holds input (firstMatch earlier rule) = .ok true ↔
      (∀ other ∈ earlier, holds input other = .ok false) ∧ holds input rule = .ok true := by
  cases earlier with
  | nil => simp [firstMatch]
  | cons first rest =>
      rw [firstMatch, holds_allOf, allHold_eq_true_iff]
      · simp only [List.mem_append, List.mem_map, List.mem_singleton, or_imp, forall_and,
          forall_exists_index, and_imp, forall_apply_eq_imp_iff₂, forall_eq, holds_negation,
          map_not_eq_ok_iff, Bool.not_true]
      · intro other member
        rcases List.mem_append.mp member with negated | last
        · obtain ⟨_, _, rfl⟩ := List.mem_map.mp negated
          trivial
        · cases List.mem_singleton.mp last
          exact isRule

/-- The first matching rule is false, and does not fail, where all rules up to it
are false. -/
theorem holds_firstMatch_eq_false {input rule : Json} {earlier : List Json}
    (isRule : IsRule rule) (passed : ∀ other ∈ earlier, holds input other = .ok false)
    (failed : holds input rule = .ok false) : holds input (firstMatch earlier rule) = .ok false := by
  cases earlier with
  | nil => simpa [firstMatch] using failed
  | cons first rest =>
      rw [firstMatch, holds_allOf, allHold_append]
      · cases rule with
        | object fields => simp [allHold, failed]
        | _ => exact isRule.elim
      · intro other member
        obtain ⟨_, _, rfl⟩ := List.mem_map.mp member
        trivial
      · intro other member
        obtain ⟨earlier, inside, rfl⟩ := List.mem_map.mp member
        rw [holds_negation, map_not_eq_ok_iff]
        exact passed earlier inside

/-- Two conditions on one way hold together, and are one rule again. -/
theorem holds_both_eq_true_iff {input outer inner : Json} (outerRule : IsRule outer)
    (innerRule : IsRule inner) :
    holds input (allOf [outer, inner]) = .ok true ↔
      holds input outer = .ok true ∧ holds input inner = .ok true := by
  rw [holds_allOf, allHold_eq_true_iff (by simp [outerRule, innerRule])]
  simp

end Route

namespace State

open Predicate Route

/-- A condition that may be absent holds on an input. -/
def Admits (input : Json) (condition : Option Json) : Prop :=
  ∃ rule, condition = some rule ∧ holds input rule = .ok true

/-- A condition that may be absent is a rule, and false on every input on which
all rules so far are false. -/
structure Dormant (earlier : List Json) (condition : Option Json) : Prop where
  isRule : ∀ rule, condition = some rule → IsRule rule
  isFalse : ∀ rule, condition = some rule → ∀ input,
    (∀ other ∈ earlier, holds input other = .ok false) → holds input rule = .ok false

/-- A further way to enter a target, open only where what leads there already is
false, adds its inputs to those admitted before. -/
theorem admits_alternative {earlier : List Json} {existing : Option Json} {rule input : Json}
    (dormant : Dormant earlier existing) (isRule : IsRule rule)
    (later : holds input rule = .ok true → ∀ other ∈ earlier, holds input other = .ok false) :
    Admits input (some (alternative existing rule)) ↔
      Admits input existing ∨ holds input rule = .ok true := by
  cases existing with
  | none => simp [Admits, alternative]
  | some before =>
      simp only [Admits, alternative, Option.some.injEq, exists_eq_left', holds_anyOf,
        anyHolds_pair_eq_true_iff (dormant.isRule before rfl) isRule]
      constructor
      · rintro (held | ⟨_, held⟩)
        · exact .inl held
        · exact .inr held
      · rintro (held | held)
        · exact .inl held
        · exact .inr ⟨dormant.isFalse before rfl input (later held), held⟩

/-- A further way to enter a target stays dormant if its rule does. -/
theorem dormant_alternative {earlier more : List Json} {existing : Option Json} {rule : Json}
    (dormant : Dormant earlier existing) (isRule : IsRule rule) (grown : ∀ other ∈ earlier, other ∈ more)
    (isFalse : ∀ input, (∀ other ∈ more, holds input other = .ok false) →
      holds input rule = .ok false) : Dormant more (some (alternative existing rule)) := by
  cases existing with
  | none =>
      exact {
        isRule := by simpa [alternative] using isRule
        isFalse := by simpa [alternative] using isFalse }
  | some before =>
      refine ⟨by simp [alternative, Route.anyOf, IsRule], ?_⟩
      simp only [alternative, Option.some.injEq, forall_eq', holds_anyOf]
      intro input passed
      rw [anyHolds_eq_false_iff (by simp [dormant.isRule before rfl, isRule])]
      simp only [List.mem_cons, List.not_mem_nil, or_false, forall_eq_or_imp, forall_eq]
      exact ⟨dormant.isFalse before rfl input fun other member => passed other (grown other member),
        isFalse input passed⟩

/-- The predicates of rules, as rules. -/
def ruleObjects (rules : List ChoiceRule) : List Json :=
  rules.map fun rule => .object rule.predicate

theorem isRule_of_mem_ruleObjects {rules : List ChoiceRule} :
    ∀ rule ∈ ruleObjects rules, IsRule rule := by
  intro rule member
  obtain ⟨_, _, rfl⟩ := List.mem_map.mp member
  trivial

/-- A condition stays dormant when more rules have to be false. -/
theorem Dormant.mono {earlier more : List Json} {condition : Option Json}
    (dormant : Dormant earlier condition) (grown : ∀ other ∈ earlier, other ∈ more) :
    Dormant more condition where
  isRule := dormant.isRule
  isFalse := fun rule present input passed =>
    dormant.isFalse rule present input fun other member => passed other (grown other member)

/-- What a rule selects, by what it comes to. -/
theorem selectRule_cons_eq_some_iff {input : Json} {fallback : Option String} {rule : ChoiceRule}
    {rest : List ChoiceRule} {target : String} :
    selectRule input fallback (rule :: rest) = some target ↔
      (holds input (.object rule.predicate) = .ok true ∧ rule.next = target) ∨
        (holds input (.object rule.predicate) = .ok false ∧
          selectRule input fallback rest = some target) := by
  rw [selectRule, ChoiceRule.evaluate, ← holds_object]
  split
  · next held => simp [held]
  · next failed => simp [failed]
  · next cause broken => simp [broken]

/-- The step from the condition in front of a rule to the one behind it. -/
theorem dormant_step (target : String) (rule : ChoiceRule) {existing : Option Json}
    {earlier : List Json} (areRules : ∀ rule ∈ earlier, IsRule rule) (dormant : Dormant earlier existing) :
    Dormant (earlier ++ [.object rule.predicate])
      (if rule.next = target then
        some (alternative existing (firstMatch earlier (.object rule.predicate)))
      else existing) := by
  have isRule : IsRule (.object rule.predicate) := trivial
  have grown : ∀ other ∈ earlier, other ∈ earlier ++ [.object rule.predicate] :=
    fun other member => List.mem_append_left _ member
  split
  · refine dormant_alternative dormant ?_ grown fun input passed => ?_
    · cases earlier with
      | nil => exact isRule
      | cons => trivial
    · exact holds_firstMatch_eq_false isRule (fun other member => passed other (grown other member))
        (passed _ (by simp))
  · exact dormant.mono grown

/-- The condition behind some rules is false where all of them are. -/
theorem dormant_ruleRoute (target : String) (rules : List ChoiceRule) {existing : Option Json}
    {earlier : List Json} (areRules : ∀ rule ∈ earlier, IsRule rule)
    (dormant : Dormant earlier existing) :
    Dormant (earlier ++ ruleObjects rules) (ruleRoute target existing earlier rules) := by
  induction rules generalizing existing earlier with
  | nil => simpa [ruleObjects, ruleRoute] using dormant
  | cons rule rest ih =>
      have grownRules : ∀ other ∈ earlier ++ [.object rule.predicate], IsRule other := by
        intro other member
        rcases List.mem_append.mp member with before | now
        · exact areRules other before
        · cases List.mem_singleton.mp now
          trivial
      have later := ih grownRules (dormant_step target rule areRules dormant)
      simpa [ruleObjects, ruleRoute] using later

/-- The condition by which rules lead to a target admits, beside what leads there
already, exactly the inputs on which the rules before are all false and these
select the target. -/
theorem admits_ruleRoute_iff {target : String} {existing : Option Json} {earlier : List Json}
    {rules : List ChoiceRule} {input : Json} (areRules : ∀ rule ∈ earlier, IsRule rule)
    (dormant : Dormant earlier existing) :
    Admits input (ruleRoute target existing earlier rules) ↔
      Admits input existing ∨ ((∀ other ∈ earlier, holds input other = .ok false) ∧
        selectRule input none rules = some target) := by
  induction rules generalizing existing earlier with
  | nil => simp [ruleRoute, selectRule]
  | cons rule rest ih =>
      have isRule : IsRule (.object rule.predicate) := trivial
      have here : Admits input (if rule.next = target then
            some (alternative existing (firstMatch earlier (.object rule.predicate)))
          else existing) ↔
          Admits input existing ∨ (rule.next = target ∧
            (∀ other ∈ earlier, holds input other = .ok false) ∧
            holds input (.object rule.predicate) = .ok true) := by
        have matched : holds input (firstMatch earlier (.object rule.predicate)) = .ok true ↔ _ :=
          holds_firstMatch_eq_true_iff areRules isRule
        split
        · next same =>
          rw [admits_alternative dormant _ fun held => (matched.mp held).1, matched]
          · simp [same]
          · cases earlier with
            | nil => exact isRule
            | cons => trivial
        · next different => simp [different]
      rw [ruleRoute, ih (fun other member => by
          rcases List.mem_append.mp member with before | now
          · exact areRules other before
          · cases List.mem_singleton.mp now
            trivial)
        (dormant_step target rule areRules dormant), here, selectRule_cons_eq_some_iff]
      simp only [List.mem_append, List.mem_singleton, or_imp, forall_and, forall_eq]
      grind

/-- Whether a fallback is what rules select. -/
theorem selectRule_eq_some_iff {input : Json} {fallback : Option String} {rules : List ChoiceRule}
    {target : String} :
    selectRule input fallback rules = some target ↔
      selectRule input none rules = some target ∨
        ((∀ rule ∈ ruleObjects rules, holds input rule = .ok false) ∧ fallback = some target) := by
  induction rules with
  | nil => simp [selectRule, ruleObjects]
  | cons rule rest ih =>
      simp only [selectRule_cons_eq_some_iff, ih, ruleObjects, List.map_cons, List.mem_cons,
        forall_eq_or_imp]
      grind

/-- The condition by which a choice leads to a target admits exactly the inputs on
which the choice selects the target. -/
theorem admits_choiceRoute_iff {state : State} {target : String} {input : Json} :
    Admits input (state.choiceRoute target none) ↔ state.selected input = some target := by
  have unconditional : Dormant [] none := ⟨by simp, by simp⟩
  have byRules : Admits input (ruleRoute target none [] state.choices) ↔ _ :=
    admits_ruleRoute_iff (by simp) unconditional
  have dormant := dormant_ruleRoute target state.choices (by simp) unconditional
  have absent : ¬ Admits input none := by simp [Admits]
  rw [selected, selectRule_eq_some_iff, choiceRoute]
  split
  · next same =>
    have matched : holds input (noneOf (ruleObjects state.choices)) = .ok true ↔
        ∀ rule ∈ ruleObjects state.choices, holds input rule = .ok false := by
      rw [holds_noneOf, map_not_eq_ok_iff, Bool.not_true,
        anyHolds_eq_false_iff isRule_of_mem_ruleObjects]
    have isRule : IsRule (noneOf (ruleObjects state.choices)) := True.intro
    rw [← ruleObjects, admits_alternative dormant isRule (fun held => by simpa using matched.mp held),
      matched, byRules]
    simp [same, absent]
  · next different =>
    rw [byRules]
    simp [different, absent]

/-- What leads to a target already is kept as long as no rule leads there. -/
theorem ruleRoute_of_not_mem {target : String} {existing : Option Json} {earlier : List Json}
    {rules : List ChoiceRule} (absent : target ∉ rules.map ChoiceRule.next) :
    ruleRoute target existing earlier rules = existing := by
  induction rules generalizing earlier with
  | nil => rfl
  | cons rule rest ih =>
      rw [List.map_cons, List.mem_cons, not_or] at absent
      rw [ruleRoute, if_neg (Ne.symm absent.1), ih absent.2]

/-- What leads to a target already is kept by a state that does not lead there. -/
theorem routeOnto_of_not_mem {state : State} {target : String} {existing : Option Json}
    (absent : target ∉ state.targets) : state.routeOnto target existing = existing := by
  unfold targets routeOnto choiceTargets at *
  by_cases choice : state.kind = .choice
  · simp only [choice, if_true, List.mem_append, not_or, Option.mem_toList] at absent ⊢
    rw [choiceRoute, if_neg absent.2.2, ruleRoute_of_not_mem absent.2.1]
  · rw [if_neg choice]

/-- Rules lead to each of their targets on some condition, unless one is there
already. -/
theorem ruleRoute_isSome {target : String} {existing : Option Json} {earlier : List Json}
    {rules : List ChoiceRule}
    (present : existing.isSome = true ∨ target ∈ rules.map ChoiceRule.next) :
    (ruleRoute target existing earlier rules).isSome = true := by
  induction rules generalizing existing earlier with
  | nil => simpa [ruleRoute] using present
  | cons rule rest ih =>
      rw [ruleRoute]
      apply ih
      rcases present with before | member
      · split <;> simp [before]
      · rcases List.mem_cons.mp member with here | later
        · simp [here]
        · exact .inr later

/-- What a choice selects is one of its targets. -/
theorem mem_choiceTargets_of_selected {state : State} {input : Json} {target : String}
    (selected : state.selected input = some target) : target ∈ state.choiceTargets := by
  have selects : ∀ rules, selectRule input state.default rules = some target →
      target ∈ rules.map ChoiceRule.next ∨ state.default = some target := by
    intro rules
    induction rules with
    | nil => exact .inr
    | cons rule rest ih =>
        intro found
        rcases selectRule_cons_eq_some_iff.mp found with ⟨_, rfl⟩ | ⟨_, later⟩
        · exact .inl List.mem_cons_self
        · exact (ih later).imp_left (List.mem_cons_of_mem _)
  rcases selects state.choices selected with rule | fallback
  · exact List.mem_append_left _ rule
  · exact List.mem_append_right _ (Option.mem_toList.mpr fallback)

/-- A choice leads to each of its targets on some condition, which is a rule. -/
theorem exists_choiceRoute {state : State} {target : String} (member : target ∈ state.choiceTargets) :
    ∃ predicate, state.choiceRoute target none = some (.object predicate) := by
  have unconditional : Dormant [] none := ⟨by simp, by simp⟩
  have dormant := dormant_ruleRoute target state.choices (by simp) unconditional
  unfold choiceRoute
  split
  · cases ruleRoute target none [] state.choices with
    | none => exact ⟨_, rfl⟩
    | some before => exact ⟨_, rfl⟩
  · next different =>
    have byRule : target ∈ state.choices.map ChoiceRule.next := by
      rcases List.mem_append.mp member with rule | fallback
      · exact rule
      · exact absurd (Option.mem_toList.mp fallback) different
    have leads : (ruleRoute target none [] state.choices).isSome = true :=
      ruleRoute_isSome (.inr byRule)
    obtain ⟨rule, found⟩ := Option.isSome_iff_exists.mp leads
    have isRule := dormant.isRule rule found
    cases rule with
    | object predicate => exact ⟨predicate, found⟩
    | _ => exact isRule.elim

end State

end EventFlow
