import EventFlow.Proofs.Failing
import EventFlow.Workflow.Links
import Mathlib.Data.List.Nodup
import Mathlib.Data.List.Perm.Subperm

/-!
# The order of a level

The states of a level are ordered by walking from each of them to where it is
entered from. `Ordered` says what such an order is, `Depth` how long the walk
from a state is. The walk succeeds exactly when it comes to the entry of the
level, and no walk is longer than the list of states.
-/

namespace EventFlow.Links

variable {entrances : Dict Entrance}

/-- A state can follow what is placed before it: it is entered from outside, or
from one of the states there. -/
def Settled (entrances : Dict Entrance) (before : List String) (name : String) : Prop :=
  Dict.get? entrances name = some .entry ∨
    ∃ previous ∈ before, Dict.get? entrances name = some (.state previous)

/-- Every state stands once, and behind the one that it is entered from. -/
inductive Ordered (entrances : Dict Entrance) : List String → Prop where
  | nil : Ordered entrances []
  | snoc {before : List String} {name : String} (ordered : Ordered entrances before)
      (settled : Settled entrances before name) (fresh : name ∉ before) :
      Ordered entrances (before ++ [name])

/-- The number of states that are passed on the way to the entry of the level. -/
inductive Depth (entrances : Dict Entrance) : Nat → String → Prop where
  | entry {name : String} (entered : Dict.get? entrances name = some .entry) :
      Depth entrances 0 name
  | state {depth : Nat} {name previous : String}
      (entered : Dict.get? entrances name = some (.state previous))
      (rest : Depth entrances depth previous) : Depth entrances (depth + 1) name

/-- A state has one depth. -/
theorem Depth.unique {first second : Nat} {name : String} (left : Depth entrances first name)
    (right : Depth entrances second name) : first = second := by
  induction left generalizing second with
  | entry entered =>
      cases right with
      | entry _ => rfl
      | state other _ => rw [entered] at other; cases other
  | state entered _ ih =>
      cases right with
      | entry other => rw [entered] at other; cases other
      | state other rest =>
          rw [entered] at other
          cases other
          rw [ih rest]

/-- An order has no state twice. -/
theorem Ordered.nodup {order : List String} (ordered : Ordered entrances order) :
    order.Nodup := by
  induction ordered with
  | nil => exact List.nodup_nil
  | snoc _ _ fresh ih =>
      rw [List.nodup_append]
      refine ⟨ih, List.nodup_singleton _, ?_⟩
      rintro name member _ now rfl
      cases List.mem_singleton.mp now
      exact fresh member

/-- The part in front of a state in an order has settled it. -/
theorem Ordered.settled {order before behind : List String} {name : String}
    (ordered : Ordered entrances order) (split : order = before ++ name :: behind) :
    Settled entrances before name := by
  induction ordered generalizing behind with
  | nil => simp at split
  | @snoc front last _ settled _ ih =>
      rcases List.eq_nil_or_concat behind with rfl | ⟨rest, final, rfl⟩
      · obtain ⟨rfl, equal⟩ := List.append_inj' split rfl
        cases equal
        exact settled
      · have regrouped : front ++ [last] = (before ++ name :: rest) ++ [final] := by
          simpa using split
        exact ih (List.append_inj' regrouped rfl).1

/-- Every state in an order has a depth. -/
theorem Ordered.depth {order : List String} (ordered : Ordered entrances order) :
    ∀ name ∈ order, ∃ depth, Depth entrances depth name := by
  induction ordered with
  | nil => simp
  | snoc _ settled _ ih =>
      intro name member
      rcases List.mem_append.mp member with earlier | now
      · exact ih name earlier
      · cases List.mem_singleton.mp now
        rcases settled with entered | ⟨previous, placed, entered⟩
        · exact ⟨0, .entry entered⟩
        · obtain ⟨depth, rest⟩ := ih previous placed
          exact ⟨depth + 1, .state entered rest⟩

/-- A line of states below a placed one: each is entered from the one before
it. -/
def Line (entrances : Dict Entrance) : String → List String → Prop
  | _, [] => True
  | above, name :: rest => Dict.get? entrances name = some (.state above) ∧ Line entrances name rest

/-- An order is continued by a line below one of its states. -/
theorem Ordered.append_line {before line : List String} {above : String}
    (ordered : Ordered entrances before) (placed : above ∈ before)
    (below : Line entrances above line) (fresh : ∀ name ∈ line, name ∉ before)
    (distinct : line.Nodup) : Ordered entrances (before ++ line) := by
  induction line generalizing before above with
  | nil => simpa using ordered
  | cons name rest ih =>
      obtain ⟨entered, below⟩ := below
      rw [List.nodup_cons] at distinct
      have extended : Ordered entrances (before ++ [name]) :=
        .snoc ordered (.inr ⟨above, placed, entered⟩) (fresh name List.mem_cons_self)
      have later := ih extended (show name ∈ before ++ [name] by simp) below
        (fun other member placed => by
          rcases List.mem_append.mp placed with earlier | now
          · exact fresh other (List.mem_cons_of_mem _ member) earlier
          · cases List.mem_singleton.mp now
            exact distinct.1 member)
        distinct.2
      simpa using later

/-- Every state that is entered from another is entered from one of the list. -/
def Closed (entrances : Dict Entrance) (names : List String) : Prop :=
  ∀ name ∈ names, ∀ previous, Dict.get? entrances name = some (.state previous) → previous ∈ names

/-- A walk finds states of the list only. -/
theorem chainTo_subset {names placed chain found : List String} {fuel : Nat} {current : String}
    (closed : Closed entrances names) (member : current ∈ names)
    (inside : ∀ name ∈ chain, name ∈ names)
    (walked : chainTo entrances placed fuel chain current = .ok found) :
    ∀ name ∈ found, name ∈ names := by
  induction fuel generalizing chain current with
  | zero => cases walked
  | succ fuel ih =>
      have insideHere : ∀ name ∈ current :: chain, name ∈ names := by
        rintro name (_ | ⟨_, later⟩)
        · exact member
        · exact inside name later
      unfold chainTo at walked
      split at walked
      · cases walked
        exact inside
      split at walked
      · cases walked
      split at walked
      · cases walked
        exact insideHere
      · next previous entered =>
        exact ih (closed current member previous entered) insideHere walked
      · cases walked

/-- A successful walk continues the order by the states it has found, among them
the one where it began. -/
theorem chainTo_ok {placed chain found : List String} {fuel : Nat} {current : String}
    (ordered : Ordered entrances placed) (below : Line entrances current chain)
    (fresh : ∀ name ∈ chain, name ∉ placed) (distinct : chain.Nodup)
    (walked : chainTo entrances placed fuel chain current = .ok found) :
    Ordered entrances (placed ++ found) ∧ current ∈ placed ++ found ∧
      ∀ name ∈ chain, name ∈ found := by
  induction fuel generalizing chain current with
  | zero => cases walked
  | succ fuel ih =>
      unfold chainTo at walked
      split at walked
      · next there =>
        cases walked
        have member : current ∈ placed := by simpa using there
        exact ⟨ordered.append_line member below fresh distinct,
          List.mem_append_left _ member, fun _ member => member⟩
      next absent =>
      have unplaced : current ∉ placed := by simpa using absent
      split at walked
      · cases walked
      next unmet =>
      have unseen : current ∉ chain := by simpa using unmet
      have freshHere : ∀ name ∈ current :: chain, name ∉ placed := by
        rintro name member
        rcases List.mem_cons.mp member with rfl | later
        · exact unplaced
        · exact fresh name later
      split at walked
      · next entered =>
        cases walked
        have extended : Ordered entrances (placed ++ [current]) :=
          .snoc ordered (.inl entered) unplaced
        have continued := extended.append_line (by simp) below
          (fun name member placed => by
            rcases List.mem_append.mp placed with earlier | now
            · exact fresh name member earlier
            · cases List.mem_singleton.mp now
              exact unseen member)
          distinct
        exact ⟨by simpa using continued, by simp, fun name member => by simp [member]⟩
      · next previous entered =>
        obtain ⟨continued, _, kept⟩ := ih
          (show Line entrances previous (current :: chain) from ⟨entered, below⟩) freshHere
          (List.nodup_cons.mpr ⟨unseen, distinct⟩) walked
        exact ⟨continued, List.mem_append_right _ (kept current List.mem_cons_self),
          fun name member => kept name (List.mem_cons_of_mem _ member)⟩
      · cases walked

/-- The walk from a state of some depth succeeds with more fuel than that, as long
as the states met before lie deeper. -/
theorem chainTo_total {placed chain : List String} {fuel depth : Nat} {current : String}
    (deep : Depth entrances depth current) (enough : depth < fuel)
    (deeper : ∀ name ∈ chain, ∃ other, depth < other ∧ Depth entrances other name) :
    ∃ found, chainTo entrances placed fuel chain current = .ok found := by
  induction fuel generalizing chain current depth with
  | zero => omega
  | succ fuel ih =>
      have unmet : current ∉ chain := by
        intro member
        obtain ⟨other, below, otherDeep⟩ := deeper current member
        have := deep.unique otherDeep
        omega
      by_cases there : current ∈ placed
      · exact ⟨chain, by simp [chainTo, there]⟩
      cases deep with
      | entry entered => exact ⟨current :: chain, by simp [chainTo, there, unmet, entered]⟩
      | @state above _ previous entered rest =>
          obtain ⟨found, walked⟩ : ∃ found,
              chainTo entrances placed fuel (current :: chain) previous = .ok found :=
            ih rest (by omega) (fun name member => by
              rcases List.mem_cons.mp member with rfl | later
              · exact ⟨above + 1, by omega, .state entered rest⟩
              · obtain ⟨other, below, otherDeep⟩ := deeper name later
                exact ⟨other, by omega, otherDeep⟩)
          exact ⟨found, by simp [chainTo, there, unmet, entered, walked]⟩

/-- The states on the way from a state to the entry: as many as its depth says,
and none of them twice. -/
theorem Depth.path {names : List String} (closed : Closed entrances names) {depth : Nat}
    {name : String} (deep : Depth entrances depth name) (member : name ∈ names) :
    ∃ path : List String, path.length = depth + 1 ∧ path.Nodup ∧
      ∀ other ∈ path, other ∈ names ∧ ∃ above ≤ depth, Depth entrances above other := by
  induction deep with
  | @entry name entered =>
      refine ⟨[name], rfl, List.nodup_singleton _, fun other found => ?_⟩
      cases List.mem_singleton.mp found
      exact ⟨member, 0, Nat.le_refl 0, .entry entered⟩
  | @state depth name previous entered rest ih =>
      obtain ⟨path, length, distinct, inside⟩ := ih (closed name member previous entered)
      refine ⟨name :: path, by simp [length], List.nodup_cons.mpr ⟨?_, distinct⟩, ?_⟩
      · intro again
        obtain ⟨_, above, bounded, deep⟩ := inside name again
        have := deep.unique (.state entered rest)
        omega
      · intro other found
        rcases List.mem_cons.mp found with rfl | later
        · exact ⟨member, depth + 1, Nat.le_refl _, .state entered rest⟩
        · obtain ⟨known, above, bounded, deep⟩ := inside other later
          exact ⟨known, above, by omega, deep⟩

/-- No state lies deeper than there are states. -/
theorem Depth.lt_length {names : List String} (closed : Closed entrances names) {depth : Nat}
    {name : String} (deep : Depth entrances depth name) (member : name ∈ names) :
    depth < names.length := by
  obtain ⟨path, length, distinct, inside⟩ := deep.path closed member
  have bounded := (List.subperm_of_subset distinct fun other found => (inside other found).1).length_le
  omega

/-- A successful order lists the names, each of them once and behind its
predecessor. -/
theorem order_ok {names order : List String} (closed : Closed entrances names)
    (made : Links.order names entrances = .ok order) :
    Ordered entrances order ∧ ∀ name, name ∈ order ↔ name ∈ names := by
  have kept := Failing.foldlM_ok
    (motive := fun before placed => Ordered entrances placed ∧ (∀ name ∈ before, name ∈ placed) ∧
      ∀ name ∈ placed, name ∈ names)
    ⟨.nil, by simp, by simp⟩
    (fun before name behind placed next split holds stepped => by
      obtain ⟨ordered, complete, inside⟩ := holds
      obtain ⟨found, walked, equal⟩ := Failing.bind_eq_ok.mp stepped
      cases equal
      have known : name ∈ names := by simp [split]
      obtain ⟨continued, here, _⟩ := chainTo_ok ordered
        (show Line entrances name [] from True.intro) (by simp) List.nodup_nil walked
      have foundInside := chainTo_subset closed known (by simp) walked
      refine ⟨continued, fun other member => ?_, fun other member => ?_⟩
      · rcases List.mem_append.mp member with earlier | now
        · exact List.mem_append_left _ (complete other earlier)
        · cases List.mem_singleton.mp now
          exact here
      · exact (List.mem_append.mp member).elim (inside other) (foundInside other))
    made
  exact ⟨kept.1, fun name => ⟨kept.2.2 name, kept.2.1 name⟩⟩

/-- Names that all have a depth are ordered with success. -/
theorem order_total {names : List String} (closed : Closed entrances names)
    (deep : ∀ name ∈ names, ∃ depth, Depth entrances depth name) :
    ∃ order, Links.order names entrances = .ok order := by
  obtain ⟨order, made, _⟩ := Failing.foldlM_total
    (fun placed name => do
      let chain ← chainTo entrances placed (names.length + 1) [] name
      .ok (placed ++ chain))
    names [] (fun _ _ => True) trivial
    (fun before name behind placed split _ => by
      have member : name ∈ names := by simp [split]
      obtain ⟨depth, deepHere⟩ := deep name member
      have bounded := deepHere.lt_length closed member
      obtain ⟨found, walked⟩ : ∃ found,
          chainTo entrances placed (names.length + 1) [] name = .ok found :=
        chainTo_total deepHere (Nat.lt_succ_of_lt bounded) (by simp)
      exact ⟨placed ++ found, Failing.bind_eq_ok.mpr ⟨found, walked, rfl⟩, trivial⟩)
  exact ⟨order, made⟩

end EventFlow.Links
