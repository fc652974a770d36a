import EventFlow.Proofs.Dict
import EventFlow.Proofs.Failing
import EventFlow.Proofs.Workflow.Nesting
import Mathlib.Logic.Relation

/-!
# Transitions of a level

What it takes for a level to be well-formed is said here by its transitions
alone. The links of a level are then shown to exist exactly when the conditions
on single transitions are met, and to say of each state where it is entered from
and on which condition.
-/

namespace EventFlow

namespace State

/-- The states that a state may lead to: its successor, and for a choice the
targets of its rules and its default. -/
def targets (state : State) : List String :=
  state.next.toList ++ if state.kind = .choice then state.choiceTargets else []

/-- A condition under which a state is entered, with one more way to enter it. -/
def alternative (existing : Option Json) (rule : Json) : Json :=
  match existing with
  | some existing => Route.anyOf [existing, rule]
  | none => rule

/-- The condition under which rules lead to a target, given the rules before them
and what leads there already. -/
def ruleRoute (target : String) : Option Json → List Json → List ChoiceRule → Option Json
  | existing, _, [] => existing
  | existing, earlier, rule :: rest =>
    let predicate := Json.object rule.predicate
    let existing :=
      if rule.next = target then
        some (alternative existing (Route.firstMatch earlier predicate))
      else existing
    ruleRoute target existing (earlier ++ [predicate]) rest

/-- The condition under which a choice leads to a target, beside what leads there
already. -/
def choiceRoute (state : State) (target : String) (existing : Option Json) : Option Json :=
  let byRule := ruleRoute target existing [] state.choices
  if state.default = some target then
    some (alternative byRule (Route.noneOf (state.choices.map fun rule => .object rule.predicate)))
  else byRule

/-- The condition under which a state leads to a target, beside what leads there
already. Only choices have conditions. -/
def routeOnto (state : State) (target : String) (existing : Option Json) : Option Json :=
  if state.kind = .choice then state.choiceRoute target existing else existing

end State

namespace Level

/-- A transition from a declared state. -/
def Transition (level : Level) (source target : String) : Prop :=
  ∃ state, (source, state) ∈ level.states ∧ target ∈ state.targets

/-- The states that are reached from the start. -/
def Reached (level : Level) : String → Prop :=
  Relation.ReflTransGen level.Transition level.startAt

/-- What a level has to be to have a plan, as far as its own states are
concerned. -/
structure WellFormed (level : Level) : Prop where
  startDeclared : level.startAt ∈ level.names
  supported : ∀ name state, (name, state) ∈ level.states →
    state.kind ≠ .succeed ∧ state.kind ≠ .fail
  endsOrContinues : ∀ name state, (name, state) ∈ level.states →
    state.ends = true → state.next = none
  hasEnd : ∃ name state, (name, state) ∈ level.states ∧ state.ends = true
  targetsDeclared : ∀ source target, level.Transition source target → target ∈ level.names
  startNotEntered : ∀ source, ¬ level.Transition source level.startAt
  enteredOnce : ∀ first second target, level.Transition first target →
    level.Transition second target → first = second
  reached : ∀ name ∈ level.names, level.Reached name
  hasBranches : ∀ name state, (name, state) ∈ level.states →
    state.kind = .parallel → state.branches ≠ []
  hasIterator : ∀ name state, (name, state) ∈ level.states →
    state.kind = .map → state.iterator.isSome = true

/-- A name is declared exactly when there is a state of that name. -/
theorem mem_names_iff {level : Level} {name : String} :
    name ∈ level.names ↔ ∃ state, level.state? name = some state :=
  Dict.mem_keys_iff

/-- What is found under a name is declared under it. -/
theorem mem_states_of_state? {level : Level} {name : String} {state : State}
    (found : level.state? name = some state) : (name, state) ∈ level.states :=
  Dict.mem_of_get? found

/-- With distinct names a state is found wherever it is declared. -/
theorem state?_of_mem_states {level : Level} {name : String} {state : State}
    (distinct : level.names.Nodup) (declared : (name, state) ∈ level.states) :
    level.state? name = some state :=
  Dict.get?_of_mem distinct declared

end Level

namespace Links

/-- The transitions of some states of a level. -/
def transitionsOf (states : List (String × State)) : List (String × String) :=
  states.flatMap fun entry => entry.2.targets.map fun target => (entry.1, target)

/-- The transitions of all states are those of the level. -/
theorem mem_transitionsOf_iff {level : Level} {source target : String} :
    (source, target) ∈ transitionsOf level.states ↔ level.Transition source target := by
  constructor
  · intro member
    obtain ⟨⟨name, state⟩, declared, member⟩ := List.mem_flatMap.mp member
    obtain ⟨_, targeted, equal⟩ := List.mem_map.mp member
    cases equal
    exact ⟨state, declared, targeted⟩
  · rintro ⟨state, declared, targeted⟩
    exact List.mem_flatMap.mpr ⟨(source, state), declared, List.mem_map.mpr ⟨target, targeted, rfl⟩⟩

/-- The entrances are what the transitions seen so far make them. In particular
no target has been seen from two sources, and none is the start. -/
def Records (level : Level) (links : Links) (seen : List (String × String)) : Prop :=
  ∀ target entrance, Dict.get? links.entrances target = some entrance ↔
    (target = level.startAt ∧ entrance = .entry) ∨
      ∃ source, (source, target) ∈ seen ∧ entrance = .state source

/-- Before any transition is looked at, only the start is entered. -/
theorem records_start (level : Level) : Records level (start level) [] := by
  intro target entrance
  simp only [start, Dict.get?_cons, Dict.get?_nil, List.not_mem_nil, false_and, exists_false,
    or_false]
  constructor
  · intro found
    split at found
    · next same => exact ⟨same.symm, (Option.some.inj found).symm⟩
    · cases found
  · rintro ⟨rfl, rfl⟩
    simp

/-- What a part of a state adds to the links: transitions from the state to
declared targets, and conditions for them. The terminals stay. -/
structure Adds (level : Level) (source : String) (targets : List String)
    (route : String → Option Json → Option Json) (links next : Links) : Prop where
  records : ∀ seen, Records level links seen →
    Records level next (seen ++ targets.map fun target => (source, target))
  declared : ∀ target ∈ targets, target ∈ level.names
  routes : ∀ target, Dict.get? next.routes target = route target (Dict.get? links.routes target)
  terminals : next.terminals = links.terminals

/-- Nothing is added to unchanged links. -/
theorem Adds.refl (level : Level) (source : String) (links : Links) :
    Adds level source [] (fun _ existing => existing) links links where
  records := fun seen records => by simpa using records
  declared := by simp
  routes := fun _ => rfl
  terminals := rfl

/-- Two parts of a state add up. -/
theorem Adds.trans {level : Level} {source : String} {firstTargets secondTargets : List String}
    {firstRoute secondRoute : String → Option Json → Option Json} {links middle next : Links}
    (first : Adds level source firstTargets firstRoute links middle)
    (second : Adds level source secondTargets secondRoute middle next) :
    Adds level source (firstTargets ++ secondTargets)
      (fun target existing => secondRoute target (firstRoute target existing)) links next where
  records := fun seen records => by
    simpa using second.records _ (first.records seen records)
  declared := fun target member =>
    (List.mem_append.mp member).elim (first.declared target) (second.declared target)
  routes := fun target => by rw [second.routes, first.routes]
  terminals := second.terminals.trans first.terminals

/-- A condition adds no transition. -/
theorem Adds.route (level : Level) (source : String) (links : Links) (target : String)
    (rule : Json) :
    Adds level source []
      (fun other existing =>
        if target = other then some (State.alternative existing rule) else existing)
      links (links.route target rule) where
  records := fun seen records => by simpa [Links.route, Records] using records
  declared := by simp
  routes := fun other => by
    by_cases same : target = other
    · subst same
      cases existing : Dict.get? links.routes target <;>
        simp [Links.route, State.alternative, existing]
    · simp [Links.route, Dict.get?_insert_of_ne _ _ same, same]
  terminals := rfl

/-- The first transition to a target is recorded with its source. -/
theorem Records.insert {level : Level} {source target : String} {links : Links}
    {seen : List (String × String)} (records : Records level links seen)
    (absent : Dict.get? links.entrances target = none) (other : String) (entrance : Entrance) :
    Dict.get? (Dict.insert links.entrances target (.state source)) other = some entrance ↔
      (other = level.startAt ∧ entrance = .entry) ∨
        ∃ earlier, (earlier, other) ∈ seen ++ [(source, target)] ∧ entrance = .state earlier := by
  by_cases same : target = other
  · subst same
    have unseen : ∀ entrance, ¬ ((target = level.startAt ∧ entrance = Entrance.entry) ∨
        ∃ earlier, (earlier, target) ∈ seen ∧ entrance = .state earlier) := by
      intro entrance seenBefore
      have found := (records target entrance).mpr seenBefore
      rw [absent] at found
      cases found
    simp only [Dict.get?_insert_self, Option.some.injEq]
    constructor
    · rintro rfl
      exact .inr ⟨source, by simp, rfl⟩
    · rintro (⟨atStart, rfl⟩ | ⟨earlier, member, rfl⟩)
      · exact absurd (.inl ⟨atStart, rfl⟩) (unseen .entry)
      · rcases List.mem_append.mp member with before | now
        · exact absurd (.inr ⟨earlier, before, rfl⟩) (unseen (.state earlier))
        · cases List.mem_singleton.mp now
          rfl
  · rw [Dict.get?_insert_of_ne _ _ same, records other entrance]
    simp [Ne.symm same]

/-- A further transition from the source that is recorded for its target adds nothing. -/
theorem Records.again {level : Level} {source target : String} {links : Links}
    {seen : List (String × String)} (records : Records level links seen)
    (found : Dict.get? links.entrances target = some (.state source)) :
    Records level links (seen ++ [(source, target)]) := by
  have known : (source, target) ∈ seen := by
    rcases (records target _).mp found with ⟨_, equal⟩ | ⟨earlier, member, equal⟩
    · cases equal
    · cases equal
      exact member
  intro other entrance
  have notNew : ∀ earlier, (earlier, other) ∈ seen ++ [(source, target)] ↔
      (earlier, other) ∈ seen := by
    intro earlier
    simp only [List.mem_append, List.mem_singleton, Prod.mk.injEq, or_iff_left_iff_imp]
    rintro ⟨rfl, rfl⟩
    exact known
  rw [records other entrance]
  simp only [notNew]

/-- A recorded transition is added, and no condition. -/
theorem Adds.link {level : Level} {source target : String} {links next : Links}
    (linked : Links.link level source links target = .ok next) :
    Adds level source [target] (fun _ existing => existing) links next := by
  unfold Links.link at linked
  split at linked
  · cases linked
  next state declared =>
  have named : target ∈ level.names := Level.mem_names_iff.mpr ⟨state, declared⟩
  split at linked
  · next absent =>
    cases linked
    exact ⟨fun seen records => records.insert absent, by simpa using named, fun _ => rfl, rfl⟩
  · cases linked
  · next existing found =>
    split at linked
    · next same =>
      cases linked
      subst same
      exact ⟨fun seen records => records.again found, by simpa using named, fun _ => rfl, rfl⟩
    · cases linked

/-- Rules add a transition each, with the condition that an earlier rule does not
hold. -/
theorem Adds.ofRules {level : Level} {source : String} {rules : List ChoiceRule} {links next : Links}
    {earlier : List Json} (linked : Links.ofRules level source links earlier rules = .ok next) :
    Adds level source (rules.map ChoiceRule.next)
      (fun target existing => State.ruleRoute target existing earlier rules) links next := by
  induction rules generalizing links earlier with
  | nil =>
      cases linked
      exact Adds.refl level source _
  | cons rule rest ih =>
      simp only [Links.ofRules, Failing.bind_eq_ok] at linked
      obtain ⟨middle, first, later⟩ := linked
      have here := (Adds.link first).trans
        (Adds.route level source middle rule.next (Route.firstMatch earlier (.object rule.predicate)))
      exact here.trans (ih later)

/-- A choice adds the transitions of its rules and of its default. -/
theorem Adds.ofChoice {level : Level} {source : String} {state : State} {links next : Links}
    (linked : Links.ofChoice level source state links = .ok next) :
    Adds level source state.choiceTargets state.choiceRoute links next := by
  simp only [Links.ofChoice, Failing.bind_eq_ok] at linked
  obtain ⟨middle, byRules, later⟩ := linked
  have rules := Adds.ofRules byRules
  unfold State.choiceTargets State.choiceRoute
  split at later
  · next absent =>
    cases later
    simpa [absent] using rules
  · next target present =>
    rw [Failing.bind_eq_ok] at later
    obtain ⟨last, linked, later⟩ := later
    cases later
    have default := (Adds.link linked).trans (Adds.route level source last target
      (Route.noneOf (state.choices.map fun rule => .object rule.predicate)))
    simpa [present] using rules.trans default

/-- What a state has to be on its own for its transitions to be recorded. -/
structure Admissible (level : Level) (state : State) : Prop where
  supported : state.kind ≠ .succeed ∧ state.kind ≠ .fail
  endsOrContinues : state.ends = true → state.next = none
  declared : ∀ target ∈ state.targets, target ∈ level.names

/-- The links say of the states looked at so far what their transitions say. -/
structure Describes (level : Level) (links : Links) (done : List (String × State)) : Prop where
  records : Records level links (transitionsOf done)
  routes : ∀ target, Dict.get? links.routes target =
    done.foldl (fun existing entry => entry.2.routeOnto target existing) none
  terminals : links.terminals = (done.filter fun entry => entry.2.ends).map Prod.fst

/-- Before any state is looked at there is nothing to describe. -/
theorem describes_start (level : Level) : Describes level (start level) [] where
  records := records_start level
  routes := fun _ => rfl
  terminals := rfl

/-- The links with one more terminal, if there is one. -/
def withTerminal (links : Links) (name : String) (ends : Bool) : Links :=
  { links with terminals := links.terminals ++ if ends then [name] else [] }

/-- The links of a state are made in three steps: it is looked at on its own, its
successor is linked, and then its choices are. -/
theorem ofState_eq_ok_iff {level : Level} {name : String} {state : State} {links next : Links} :
    ofState level links (name, state) = .ok next ↔
      (state.kind ≠ .succeed ∧ state.kind ≠ .fail) ∧
      (state.ends = true → state.next = none) ∧
      ∃ middle,
        (match state.next with
          | some target => link level name (links.withTerminal name state.ends) target
          | none => .ok (links.withTerminal name state.ends)) = .ok middle ∧
        (if state.kind = .choice then ofChoice level name state middle else .ok middle) =
          .ok next := by
  unfold ofState withTerminal
  by_cases unsupported : state.kind = .succeed ∨ state.kind = .fail
  · have refused : ¬ (state.kind ≠ .succeed ∧ state.kind ≠ .fail) := by
      rintro ⟨noSuccess, noFailure⟩
      exact unsupported.elim noSuccess noFailure
    simp [unsupported, refused]
  · have supported : state.kind ≠ .succeed ∧ state.kind ≠ .fail := not_or.mp unsupported
    cases ends : state.ends <;> cases successor : state.next <;>
      simp [supported, ends, successor, Failing.bind_eq_ok]

/-- What looking at a state adds to the links. -/
theorem ofState_adds {level : Level} {name : String} {state : State} {links next : Links}
    (made : ofState level links (name, state) = .ok next) :
    Adds level name state.targets state.routeOnto (links.withTerminal name state.ends) next := by
  obtain ⟨_, _, middle, linked, chosen⟩ := ofState_eq_ok_iff.mp made
  have successor : Adds level name state.next.toList (fun _ existing => existing)
      (links.withTerminal name state.ends) middle := by
    cases following : state.next with
    | none =>
        rw [following] at linked
        cases linked
        exact Adds.refl level name _
    | some target =>
        rw [following] at linked
        exact Adds.link linked
  unfold State.targets State.routeOnto
  by_cases choice : state.kind = .choice
  · simp only [choice, if_true] at chosen ⊢
    exact successor.trans (Adds.ofChoice chosen)
  · simp only [choice, if_false] at chosen ⊢
    cases chosen
    simpa using successor

/-- Looking at one more state keeps the description. -/
theorem ofState_ok {level : Level} {name : String} {state : State} {links next : Links}
    {done : List (String × State)} (described : Describes level links done)
    (made : ofState level links (name, state) = .ok next) :
    Describes level next (done ++ [(name, state)]) ∧ Admissible level state := by
  have adds := ofState_adds made
  obtain ⟨supported, endsOrContinues, _⟩ := ofState_eq_ok_iff.mp made
  refine ⟨⟨?_, ?_, ?_⟩, supported, endsOrContinues, adds.declared⟩
  · simpa [transitionsOf] using adds.records (transitionsOf done) described.records
  · intro target
    rw [adds.routes target, List.foldl_append, ← described.routes target]
    rfl
  · rw [adds.terminals, withTerminal, described.terminals]
    cases ends : state.ends <;> simp [ends]

/-- A target that may be entered from a source after the transitions seen so
far. -/
structure Enterable (level : Level) (seen : List (String × String)) (source target : String) :
    Prop where
  declared : target ∈ level.names
  notStart : target ≠ level.startAt
  once : ∀ earlier, (earlier, target) ∈ seen → earlier = source

/-- A target stays enterable when further transitions from the source are
seen. -/
theorem Enterable.append {level : Level} {seen : List (String × String)} {source target : String}
    (enterable : Enterable level seen source target) (targets : List String) :
    Enterable level (seen ++ targets.map fun other => (source, other)) source target where
  declared := enterable.declared
  notStart := enterable.notStart
  once := fun earlier member => by
    rcases List.mem_append.mp member with before | now
    · exact enterable.once earlier before
    · obtain ⟨_, _, equal⟩ := List.mem_map.mp now
      cases equal
      rfl

/-- A transition to an enterable target is recorded. -/
theorem link_total {level : Level} {source target : String} {links : Links}
    {seen : List (String × String)} (records : Records level links seen)
    (enterable : Enterable level seen source target) :
    ∃ next, link level source links target = .ok next := by
  obtain ⟨state, found⟩ := Level.mem_names_iff.mp enterable.declared
  unfold link
  rw [found]
  cases entered : Dict.get? links.entrances target with
  | none => exact ⟨_, rfl⟩
  | some entrance =>
      rcases (records target entrance).mp entered with ⟨atStart, _⟩ | ⟨earlier, member, rfl⟩
      · exact absurd atStart enterable.notStart
      · simp [enterable.once earlier member]

/-- Rules with enterable targets are all recorded. -/
theorem ofRules_total {level : Level} {source : String} {rules : List ChoiceRule} {links : Links}
    {seen : List (String × String)} {earlier : List Json} (records : Records level links seen)
    (enterable : ∀ rule ∈ rules, Enterable level seen source rule.next) :
    ∃ next, ofRules level source links earlier rules = .ok next := by
  induction rules generalizing links seen earlier with
  | nil => exact ⟨links, rfl⟩
  | cons rule rest ih =>
      obtain ⟨middle, linked⟩ := link_total records (enterable rule List.mem_cons_self)
      have here := (Adds.link linked).trans
        (Adds.route level source middle rule.next (Route.firstMatch earlier (.object rule.predicate)))
      obtain ⟨next, later⟩ := ih (here.records seen records) fun other member =>
        (enterable other (List.mem_cons_of_mem _ member)).append _
      exact ⟨next, Failing.bind_eq_ok.mpr ⟨middle, linked, later⟩⟩

/-- A choice with enterable targets is recorded. -/
theorem ofChoice_total {level : Level} {source : String} {state : State} {links : Links}
    {seen : List (String × String)} (records : Records level links seen)
    (enterable : ∀ target ∈ state.choiceTargets, Enterable level seen source target) :
    ∃ next, ofChoice level source state links = .ok next := by
  obtain ⟨middle, byRules⟩ : ∃ middle, ofRules level source links [] state.choices = .ok middle :=
    ofRules_total records fun rule member =>
      enterable rule.next (List.mem_append_left _ (List.mem_map_of_mem member))
  simp only [ofChoice, Failing.bind_eq_ok]
  cases fallback : state.default with
  | none => exact ⟨middle, middle, byRules, rfl⟩
  | some target =>
      have fine := (enterable target (List.mem_append_right _ (by simp [fallback]))).append
        (state.choices.map ChoiceRule.next)
      obtain ⟨last, linked⟩ := link_total ((Adds.ofRules byRules).records seen records) fine
      exact ⟨_, middle, byRules, Failing.bind_eq_ok.mpr ⟨last, linked, rfl⟩⟩

/-- An admissible state with enterable targets is looked at with success. -/
theorem ofState_total {level : Level} {name : String} {state : State} {links : Links}
    {done : List (String × State)} (described : Describes level links done)
    (admissible : Admissible level state)
    (enterable : ∀ target ∈ state.targets, Enterable level (transitionsOf done) name target) :
    ∃ next, ofState level links (name, state) = .ok next := by
  have records : Records level (links.withTerminal name state.ends) (transitionsOf done) :=
    described.records
  have successor : ∃ middle,
      (match state.next with
        | some target => link level name (links.withTerminal name state.ends) target
        | none => .ok (links.withTerminal name state.ends)) = .ok middle ∧
      Records level middle (transitionsOf done ++ state.next.toList.map fun target => (name, target)) := by
    cases following : state.next with
    | none => exact ⟨_, rfl, by simpa using records⟩
    | some target =>
        obtain ⟨middle, linked⟩ := link_total records
          (enterable target (List.mem_append_left _ (by simp [following])))
        exact ⟨middle, linked, by simpa using (Adds.link linked).records _ records⟩
  obtain ⟨middle, linked, records⟩ := successor
  have chosen : ∃ next,
      (if state.kind = .choice then ofChoice level name state middle else .ok middle) = .ok next := by
    by_cases choice : state.kind = .choice
    · simp only [choice, if_true]
      exact ofChoice_total records fun target member =>
        (enterable target (List.mem_append_right _ (by simpa [choice] using member))).append _
    · simp only [choice, if_false]
      exact ⟨middle, rfl⟩
  obtain ⟨next, chosen⟩ := chosen
  exact ⟨next, ofState_eq_ok_iff.mpr
    ⟨admissible.supported, admissible.endsOrContinues, middle, linked, chosen⟩⟩

/-- The links of a level describe all its states, each of which is admissible. -/
theorem ofLevel_ok {level : Level} {links : Links} (made : ofLevel level = .ok links) :
    level.startAt ∈ level.names ∧ Describes level links level.states ∧
      (∀ entry ∈ level.states, Admissible level entry.2) ∧ links.terminals ≠ [] := by
  unfold ofLevel at made
  split at made
  · cases made
  next state found =>
  rw [Failing.bind_eq_ok] at made
  obtain ⟨all, folded, made⟩ := made
  split at made
  · cases made
  next ended =>
  cases made
  have kept := Failing.foldlM_ok
    (motive := fun before links =>
      Describes level links before ∧ ∀ entry ∈ before, Admissible level entry.2)
    ⟨describes_start level, by simp⟩
    (fun before entry behind middle next _ holds stepped => by
      obtain ⟨described, admissible⟩ := ofState_ok holds.1 stepped
      refine ⟨described, fun other member => ?_⟩
      rcases List.mem_append.mp member with earlier | now
      · exact holds.2 other earlier
      · cases List.mem_singleton.mp now
        exact admissible)
    folded
  exact ⟨Level.mem_names_iff.mpr ⟨state, found⟩, kept.1, kept.2, by simpa using ended⟩

/-- A level whose states are admissible, whose transitions enter no state twice
and never the start, and which ends somewhere, has links. -/
theorem ofLevel_total {level : Level} (start : level.startAt ∈ level.names)
    (admissible : ∀ entry ∈ level.states, Admissible level entry.2)
    (notStart : ∀ source, ¬ level.Transition source level.startAt)
    (once : ∀ first second target, level.Transition first target →
      level.Transition second target → first = second)
    (ends : ∃ entry ∈ level.states, entry.2.ends = true) :
    ∃ links, ofLevel level = .ok links := by
  obtain ⟨state, found⟩ := Level.mem_names_iff.mp start
  obtain ⟨links, folded, described⟩ := Failing.foldlM_total
    (ofState level) level.states (Links.start level)
    (fun before links => Describes level links before) (describes_start level)
    (fun before entry behind middle split described => by
      have declared : entry ∈ level.states := by simp [split]
      obtain ⟨next, made⟩ : ∃ next, ofState level middle entry = .ok next :=
        ofState_total described (admissible entry declared) fun target targeted => {
          declared := (admissible entry declared).declared target targeted
          notStart := by
            rintro rfl
            exact notStart entry.1 ⟨entry.2, declared, targeted⟩
          once := fun earlier seen => by
            refine once earlier entry.1 target ?_ ⟨entry.2, declared, targeted⟩
            rw [← mem_transitionsOf_iff, split]
            simp only [transitionsOf, List.flatMap_append, List.mem_append]
            exact .inl seen }
      exact ⟨next, made, (ofState_ok described made).1⟩)
  have nonempty : links.terminals.isEmpty = false := by
    obtain ⟨entry, declared, ended⟩ := ends
    rw [described.terminals, List.isEmpty_eq_false_iff]
    exact List.ne_nil_of_mem (List.mem_map.mpr ⟨entry, List.mem_filter.mpr ⟨declared, ended⟩, rfl⟩)
  exact ⟨links, by simp [ofLevel, found, folded, bind, Except.bind, nonempty]⟩

end Links

end EventFlow
