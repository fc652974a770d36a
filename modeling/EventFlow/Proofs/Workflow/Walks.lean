import EventFlow.Proofs.Workflow.Order
import EventFlow.Workflow.Level
import Mathlib.Logic.Relation

/-!
# The walks behind an order

A level is ordered by walking back from each of its states. `Walks` says what a walk comes to,
with no bound on its length: it ends at a state that is already placed, at the entry, at a state
that it has met before, or at one that is entered from nowhere. Whatever the links of a level are,
every walk ends within the number of its states, so the bound of the computed walk is never met.
An order is found if every walk leads to the start of the level, and else there is a cycle, or a
state that nothing leads to.
-/

namespace EventFlow.Links

variable {entrances : Dict Entrance} {names placed chain found : List String}
  {current previous start : String}

/-- A state is entered from another one. -/
def EnteredFrom (entrances : Dict Entrance) (name previous : String) : Prop :=
  Dict.get? entrances name = some (.state previous)

/-- What the walk back from a state comes to, where `chain` holds the states met so far. -/
inductive Walks (entrances : Dict Entrance) (placed : List String) :
    List String → String → Except Failure (List String) → Prop where
  | placed {chain : List String} {current : String} (there : current ∈ placed) :
      Walks entrances placed chain current (.ok chain)
  | again {chain : List String} {current : String} (unplaced : current ∉ placed)
      (met : current ∈ chain) :
      Walks entrances placed chain current (.error (.definition (.cycle current)))
  | entry {chain : List String} {current : String} (unplaced : current ∉ placed)
      (unmet : current ∉ chain) (entered : Dict.get? entrances current = some .entry) :
      Walks entrances placed chain current (.ok (current :: chain))
  | onward {chain : List String} {current previous : String}
      {result : Except Failure (List String)} (unplaced : current ∉ placed)
      (unmet : current ∉ chain) (entered : EnteredFrom entrances current previous)
      (rest : Walks entrances placed (current :: chain) previous result) :
      Walks entrances placed chain current result
  | nowhere {chain : List String} {current : String} (unplaced : current ∉ placed)
      (unmet : current ∉ chain) (absent : Dict.get? entrances current = none) :
      Walks entrances placed chain current (.error (.definition (.unreachable current)))

/-- A walk comes to one result. -/
theorem Walks.unique {first second : Except Failure (List String)}
    (left : Walks entrances placed chain current first)
    (right : Walks entrances placed chain current second) : first = second := by
  induction left with
  | placed there =>
      cases right with
      | placed => rfl
      | _ => contradiction
  | again unplaced met =>
      cases right with
      | again => rfl
      | _ => contradiction
  | entry unplaced unmet entered =>
      cases right with
      | entry => rfl
      | onward _ _ other => rw [EnteredFrom, entered] at other; cases other
      | nowhere _ _ absent => rw [entered] at absent; cases absent
      | _ => contradiction
  | onward unplaced unmet entered rest ih =>
      cases right with
      | entry _ _ other => rw [entered] at other; cases other
      | onward _ _ other rest =>
          rw [EnteredFrom, entered] at other
          cases other
          exact ih rest
      | nowhere _ _ absent => rw [entered] at absent; cases absent
      | _ => contradiction
  | nowhere unplaced unmet absent =>
      cases right with
      | entry _ _ entered => rw [absent] at entered; cases entered
      | onward _ _ entered => rw [EnteredFrom, absent] at entered; cases entered
      | nowhere => rfl
      | _ => contradiction

/-- The computed walk is the walk: as no state is met twice, its bound outlasts the states that
are left. -/
theorem walks_chainTo {fuel : Nat} (closed : Closed entrances names) (member : current ∈ names)
    (inside : ∀ name ∈ chain, name ∈ names) (distinct : chain.Nodup)
    (enough : names.length < fuel + chain.length) :
    Walks entrances placed chain current (chainTo entrances placed fuel chain current) := by
  induction fuel generalizing chain current with
  | zero =>
      have bounded := (List.subperm_of_subset distinct inside).length_le
      omega
  | succ fuel ih =>
      by_cases there : current ∈ placed
      · simpa [chainTo, there] using Walks.placed there
      by_cases met : current ∈ chain
      · simpa [chainTo, there, met] using Walks.again there met
      cases entered : Dict.get? entrances current with
      | none => simpa [chainTo, there, met, entered] using Walks.nowhere there met entered
      | some entrance =>
          cases entrance with
          | entry => simpa [chainTo, there, met, entered] using Walks.entry there met entered
          | state previous =>
              have rest : Walks entrances placed (current :: chain) previous
                  (chainTo entrances placed fuel (current :: chain) previous) :=
                ih (closed current member previous entered)
                  (List.forall_mem_cons.mpr ⟨member, inside⟩)
                  (List.nodup_cons.mpr ⟨met, distinct⟩)
                  (by rw [List.length_cons]; omega)
              simpa [chainTo, there, met, entered] using Walks.onward there met entered rest

/-- A walk from a state of the level ends, at what is computed for it. -/
theorem walks_iff (closed : Closed entrances names) (member : current ∈ names)
    {result : Except Failure (List String)} :
    Walks entrances placed [] current result ↔
      chainTo entrances placed (names.length + 1) [] current = result := by
  have walked : Walks entrances placed [] current
      (chainTo entrances placed (names.length + 1) [] current) :=
    walks_chainTo closed member (by simp) List.nodup_nil (by simp)
  exact ⟨walked.unique, fun equal => equal ▸ walked⟩

/-! ## Where walks lead -/

/-- The way back from a state comes to the entry exactly if it comes to the start, which is the one
state that is entered from outside. -/
theorem exists_depth_iff (closed : Closed entrances names)
    (entry : ∀ name ∈ names, Dict.get? entrances name = some .entry ↔ name = start)
    (member : current ∈ names) :
    (∃ depth, Depth entrances depth current) ↔
      Relation.ReflTransGen (EnteredFrom entrances) current start := by
  constructor
  · rintro ⟨depth, deep⟩
    induction deep with
    | entry entered =>
        rw [(entry _ member).mp entered]
    | state entered _ ih => exact (ih (closed _ member _ entered)).head entered
  · intro leads
    induction leads using Relation.ReflTransGen.head_induction_on with
    | refl => exact ⟨0, .entry ((entry start member).mpr rfl)⟩
    | head entered _ ih =>
        obtain ⟨depth, deep⟩ := ih (closed _ member _ entered)
        exact ⟨depth + 1, .state entered deep⟩

/-- The states below a state on a line lead back to it. -/
theorem Line.leads {above name : String} (line : Line entrances above chain)
    (member : name ∈ chain) : Relation.TransGen (EnteredFrom entrances) name above := by
  induction chain generalizing above with
  | nil => cases member
  | cons first rest ih =>
      obtain ⟨entered, below⟩ := line
      rcases List.mem_cons.mp member with rfl | later
      · exact .single entered
      · exact (ih below later).tail entered

/-- Why an order of these states is not found: one of them leads back to itself, or it is entered
from nowhere. -/
def Justified (entrances : Dict Entrance) (names : List String) (cause : Failure) : Prop :=
  ∃ name ∈ names,
    (cause = .definition (.cycle name) ∧ Relation.TransGen (EnteredFrom entrances) name name) ∨
      (cause = .definition (.unreachable name) ∧ Dict.get? entrances name = none)

/-- A walk that fails has come back to a state on its way, or to one that is entered from
nowhere. -/
theorem Walks.justified {result : Except Failure (List String)} {cause : Failure}
    (walks : Walks entrances placed chain current result) (failed : result = .error cause)
    (closed : Closed entrances names) (member : current ∈ names)
    (line : Line entrances current chain) : Justified entrances names cause := by
  induction walks with
  | placed => cases failed
  | entry => cases failed
  | again _ met =>
      cases failed
      exact ⟨_, member, .inl ⟨rfl, line.leads met⟩⟩
  | nowhere _ _ absent =>
      cases failed
      exact ⟨_, member, .inr ⟨rfl, absent⟩⟩
  | onward _ _ entered _ ih => exact ih failed (closed _ member _ entered) ⟨entered, line⟩

/-- The states of a level have distinct names, the start is the one that is entered from outside,
and all others are entered from declared states, or from nowhere. Then every walk ends, at the
result that is computed for it. The order is found exactly if following the predecessors leads from
every state to the start; it has every state once, and behind its predecessor. If it is not found,
the error names a state on a cycle, or one that has no predecessor. -/
theorem order_complete_or_justified {level : Level} {entrances : Dict Entrance}
    (distinct : level.names.Nodup)
    (entry : ∀ name ∈ level.names,
      Dict.get? entrances name = some .entry ↔ name = level.startAt)
    (closed : ∀ name ∈ level.names, ∀ previous, EnteredFrom entrances name previous →
      previous ∈ level.names) :
    (∀ placed, ∀ name ∈ level.names, ∀ result, Walks entrances placed [] name result ↔
        chainTo entrances placed (level.names.length + 1) [] name = result) ∧
      ((∃ order, Links.order level.names entrances = .ok order) ↔
        ∀ name ∈ level.names,
          Relation.ReflTransGen (EnteredFrom entrances) name level.startAt) ∧
      (∀ order, Links.order level.names entrances = .ok order →
        order.Perm level.names ∧
          ∀ before name behind, order = before ++ name :: behind →
            ∀ previous, EnteredFrom entrances name previous → previous ∈ before) ∧
      ∀ cause, Links.order level.names entrances = .error cause →
        Justified entrances level.names cause := by
  have walked : ∀ placed, ∀ name ∈ level.names, ∀ result, Walks entrances placed [] name result ↔
      chainTo entrances placed (level.names.length + 1) [] name = result :=
    fun placed name member result => walks_iff closed member
  refine ⟨walked, ⟨?_, fun leads => ?_⟩, fun order made => ?_, fun cause failed => ?_⟩
  · rintro ⟨order, made⟩ name member
    obtain ⟨ordered, complete⟩ := order_ok closed made
    exact (exists_depth_iff closed entry member).mp
      (ordered.depth name ((complete name).mpr member))
  · exact order_total closed fun name member =>
      (exists_depth_iff closed entry member).mpr (leads name member)
  · obtain ⟨ordered, complete⟩ := order_ok closed made
    refine ⟨(List.perm_ext_iff_of_nodup ordered.nodup distinct).mpr complete, ?_⟩
    intro before name behind split previous entered
    rcases ordered.settled split with outside | ⟨other, earlier, same⟩
    · rw [EnteredFrom, outside] at entered
      cases entered
    · rw [EnteredFrom, same] at entered
      cases entered
      exact earlier
  · obtain ⟨name, member, placed, stepped⟩ := Failing.foldlM_error failed
    have unwalked : chainTo entrances placed (level.names.length + 1) [] name = .error cause := by
      cases made : chainTo entrances placed (level.names.length + 1) [] name with
      | ok found => rw [made] at stepped; cases stepped
      | error first => rw [made] at stepped; cases stepped; rfl
    exact ((walked placed name member _).mpr unwalked).justified rfl closed member trivial

/-- A level whose states are declared from the last one to the first. -/
def sampleBackwards : Level where
  comment := none
  startAt := "a"
  states := ["c", "b", "a"].map fun name => (name, .ofKind .pass)

/-- One way through these states. -/
def sampleEntrances : Dict Entrance :=
  [("a", .entry), ("b", .state "a"), ("c", .state "b")]

/-- Two of these states lead to each other. -/
def sampleRing : Dict Entrance :=
  [("a", .entry), ("b", .state "c"), ("c", .state "b")]

/-- On the one way the states are put into the order in which they come, and all of them lead back
to the start; of the ring there is no order, and a state of it leads back to itself. -/
theorem sample_complete_or_justified :
    (Links.order sampleBackwards.names sampleEntrances = .ok ["a", "b", "c"] ∧
        ["a", "b", "c"].Perm sampleBackwards.names ∧
        Relation.ReflTransGen (EnteredFrom sampleEntrances) "c" "a") ∧
      Links.order sampleBackwards.names sampleRing = .error (.definition (.cycle "c")) ∧
      Justified sampleRing sampleBackwards.names (.definition (.cycle "c")) := by
  have distinct : sampleBackwards.names.Nodup := by decide
  have lined : Links.order sampleBackwards.names sampleEntrances = .ok ["a", "b", "c"] := rfl
  have ringed : Links.order sampleBackwards.names sampleRing =
      .error (.definition (.cycle "c")) := rfl
  have closedLine : ∀ name ∈ sampleBackwards.names, ∀ previous,
      EnteredFrom sampleEntrances name previous → previous ∈ sampleBackwards.names := by
    simp [sampleBackwards, Level.names, EnteredFrom, sampleEntrances]
  have closedRing : ∀ name ∈ sampleBackwards.names, ∀ previous,
      EnteredFrom sampleRing name previous → previous ∈ sampleBackwards.names := by
    simp [sampleBackwards, Level.names, EnteredFrom, sampleRing]
  obtain ⟨-, leads, complete, -⟩ := order_complete_or_justified distinct (by decide) closedLine
  obtain ⟨-, -, -, justified⟩ := order_complete_or_justified distinct (by decide) closedRing
  exact ⟨⟨lined, (complete _ lined).1, leads.mp ⟨_, lined⟩ "c" (by decide)⟩, ringed,
    justified _ ringed⟩

end EventFlow.Links
