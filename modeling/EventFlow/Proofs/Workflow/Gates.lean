import EventFlow.Proofs.Workflow.Decoded
import EventFlow.Proofs.Workflow.Selection
import EventFlow.Proofs.Workflow.Steps

/-!
# Conditions on the way to a state

The conditions that choices put in front of the states behind them: which inputs they
let through, and that they are rules in order if the rules of the choices are.
-/

namespace EventFlow

/-- A condition that may be absent lets an input through. -/
def Opens (condition : Option Json) (input : Json) : Prop :=
  ∀ rule, condition = some rule → Predicate.holds input rule = .ok true

/-- A condition that may be absent is a rule in order. -/
structure Gate (condition : Option Json) : Prop where
  rule : ∀ rule, condition = some rule → Predicate.IsRule rule
  ordered : ∀ rule, condition = some rule → rule.Ordered

/-- Without a condition every input gets through. -/
theorem opens_none (input : Json) : Opens none input :=
  nofun

/-- Without a condition there is nothing to be in order. -/
theorem Gate.none : Gate none :=
  ⟨nofun, nofun⟩

namespace Route

/-- Two conditions on one way both have to let an input through. -/
theorem opens_both_iff {outer inner : Option Json} {input : Json} (outerGate : Gate outer)
    (innerGate : Gate inner) :
    Opens (both outer inner) input ↔ Opens outer input ∧ Opens inner input := by
  cases outer with
  | none => simp [both, Opens]
  | some first =>
      cases inner with
      | none => simp [both, Opens]
      | some second =>
          simpa [both, Opens] using
            holds_both_eq_true_iff (outerGate.rule first rfl) (innerGate.rule second rfl)

/-- Rules in a list under one name are in order if each of them is. -/
theorem ordered_connective {name : String} {rules : List Json}
    (ordered : ∀ rule ∈ rules, rule.Ordered) : (Json.object [(name, .array rules)]).Ordered :=
  ⟨List.pairwise_singleton _ _, Json.orderedItems_iff.mpr ordered, trivial⟩

/-- The negation of a rule in order is in order. -/
theorem ordered_negation {rule : Json} (ordered : rule.Ordered) : (negation rule).Ordered :=
  ⟨List.pairwise_singleton _ _, ordered, trivial⟩

/-- The first matching rule is in order if all rules up to it are. -/
theorem ordered_firstMatch {earlier : List Json} {rule : Json}
    (earlierOrdered : ∀ other ∈ earlier, other.Ordered) (ordered : rule.Ordered) :
    (firstMatch earlier rule).Ordered := by
  cases earlier with
  | nil => exact ordered
  | cons first rest =>
      refine ordered_connective fun other member => ?_
      rcases List.mem_append.mp member with negated | last
      · obtain ⟨inner, inside, rfl⟩ := List.mem_map.mp negated
        exact ordered_negation (earlierOrdered inner inside)
      · exact List.mem_singleton.mp last ▸ ordered

end Route

/-- Two conditions on one way are a rule in order. -/
theorem Gate.both {outer inner : Option Json} (outerGate : Gate outer) (innerGate : Gate inner) :
    Gate (Route.both outer inner) := by
  cases outer with
  | none => simpa [Route.both] using innerGate
  | some first =>
      cases inner with
      | none => simpa [Route.both] using outerGate
      | some second =>
          constructor
          · rintro _ ⟨⟩
            trivial
          · rintro _ ⟨⟩
            refine Route.ordered_connective fun rule member => ?_
            simp only [List.mem_cons, List.not_mem_nil, or_false] at member
            rcases member with rfl | rfl
            · exact outerGate.ordered _ rfl
            · exact innerGate.ordered _ rfl

namespace State

/-- One more way to enter a state keeps the condition in order. -/
theorem ordered_alternative {existing : Option Json} {rule : Json}
    (existingOrdered : ∀ other, existing = some other → other.Ordered) (ordered : rule.Ordered) :
    (alternative existing rule).Ordered := by
  cases existing with
  | none => exact ordered
  | some first =>
      refine Route.ordered_connective fun other member => ?_
      simp only [List.mem_cons, List.not_mem_nil, or_false] at member
      rcases member with rfl | rfl
      · exact existingOrdered _ rfl
      · exact ordered

/-- The condition under which rules lead to a target is in order. -/
theorem ordered_ruleRoute {target : String} {existing : Option Json} {earlier : List Json}
    {rules : List ChoiceRule} (existingOrdered : ∀ other, existing = some other → other.Ordered)
    (earlierOrdered : ∀ other ∈ earlier, other.Ordered)
    (ordered : ∀ rule ∈ rules, (Json.object rule.predicate).Ordered) :
    ∀ other, ruleRoute target existing earlier rules = some other → other.Ordered := by
  induction rules generalizing existing earlier with
  | nil => exact existingOrdered
  | cons rule rest ih =>
      have here := ordered rule List.mem_cons_self
      refine ih ?_ ?_ fun other member => ordered other (List.mem_cons_of_mem _ member)
      · intro other found
        split at found
        · cases found
          exact ordered_alternative existingOrdered
            (Route.ordered_firstMatch earlierOrdered here)
        · exact existingOrdered other found
      · intro other member
        rcases List.mem_append.mp member with before | now
        · exact earlierOrdered other before
        · exact List.mem_singleton.mp now ▸ here

/-- The condition under which a choice leads to one of its targets is a rule in
order. -/
theorem gate_choiceRoute {state : State} (ordered : state.Ordered) {target : String}
    (targeted : target ∈ state.choiceTargets) : Gate (state.choiceRoute target none) := by
  obtain ⟨predicate, found⟩ := exists_choiceRoute targeted
  have byRule : ∀ rule, ruleRoute target none [] state.choices = some rule → rule.Ordered :=
    ordered_ruleRoute nofun nofun ordered.predicates
  constructor
  · rintro rule present
    cases found.symm.trans present
    trivial
  · unfold choiceRoute
    split
    · rintro rule ⟨⟩
      refine ordered_alternative byRule (Route.ordered_negation ?_)
      refine Route.ordered_connective fun rule member => ?_
      obtain ⟨choice, inside, rfl⟩ := List.mem_map.mp member
      exact ordered.predicates choice inside
    · exact byRule

/-- The condition under which a choice leads to one of its targets lets exactly the
inputs through on which the choice selects it. -/
theorem opens_choiceRoute_iff {state : State} {target : String} {input : Json}
    (targeted : target ∈ state.choiceTargets) :
    Opens (state.choiceRoute target none) input ↔ state.selected input = some target := by
  obtain ⟨predicate, found⟩ := exists_choiceRoute targeted
  rw [← admits_choiceRoute_iff, found]
  simp [Opens, Admits]

end State

namespace Links

variable {level : Level} {links : Links}

/-- States that do not lead to a target leave the condition of the target as it
is. -/
theorem foldl_routeOnto_of_not_mem {states : List (String × State)} {target : String}
    {existing : Option Json} (absent : ∀ entry ∈ states, target ∉ entry.2.targets) :
    states.foldl (fun existing entry => entry.2.routeOnto target existing) existing = existing := by
  induction states generalizing existing with
  | nil => rfl
  | cons entry rest ih =>
      rw [List.foldl_cons, State.routeOnto_of_not_mem (absent entry List.mem_cons_self)]
      exact ih fun other member => absent other (List.mem_cons_of_mem _ member)

/-- A state that no transition enters has no condition. -/
theorem Describes.routes_of_not_entered (described : Describes level links level.states)
    {target : String} (notEntered : ∀ source, ¬ level.Transition source target) :
    Dict.get? links.routes target = none := by
  rw [described.routes target]
  exact foldl_routeOnto_of_not_mem fun entry declared targeted =>
    notEntered entry.1 ⟨entry.2, declared, targeted⟩

/-- The condition of a state is the one that its only predecessor gives it. -/
theorem Describes.routes_of_transition (described : Describes level links level.states)
    (distinct : level.names.Nodup) {source target : String} {state : State}
    (declared : (source, state) ∈ level.states) (targeted : target ∈ state.targets) :
    Dict.get? links.routes target = state.routeOnto target none := by
  obtain ⟨before, behind, split⟩ := List.append_of_mem declared
  -- A second state that leads to the target would bear the name of the first.
  have onlyHere : ∀ entry, entry ∈ before ++ behind → target ∉ entry.2.targets := by
    intro entry member leads
    have inside : entry ∈ level.states := by
      rw [split]
      rcases List.mem_append.mp member with earlier | later
      · exact List.mem_append_left _ earlier
      · exact List.mem_append_right _ (List.mem_cons_of_mem _ later)
    have entered := described.entered ⟨state, declared, targeted⟩
    rw [described.entered ⟨entry.2, inside, leads⟩, Option.some.injEq, Entrance.state.injEq] at entered
    have names : (before.map Prod.fst ++ source :: behind.map Prod.fst).Nodup := by
      simpa [Level.names, split] using distinct
    rw [List.nodup_middle, List.nodup_cons] at names
    exact names.1 (by
      rw [← List.map_append, ← entered]
      exact List.mem_map_of_mem member)
  rw [described.routes target, split, List.foldl_append, List.foldl_cons,
    foldl_routeOnto_of_not_mem fun entry member => onlyHere entry (List.mem_append_left _ member),
    foldl_routeOnto_of_not_mem fun entry member => onlyHere entry (List.mem_append_right _ member)]

end Links

end EventFlow
