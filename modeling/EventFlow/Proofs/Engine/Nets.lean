import EventFlow.Engine.Worker
import EventFlow.Proofs.Workflow.Gates
import EventFlow.Proofs.Workflow.Interpretation

/-!
# Nets of triggers

What a set of compiled triggers comes to when one event is published for it, told
without a worker: which completions are announced, and with which outputs. A trigger
that joins all its dependencies waits for an output of each; one that joins any of
them goes by every single one.
-/

namespace EventFlow

namespace Trigger

/-- The subjects that a trigger waits for, in the order of its dependencies. -/
def waits (trigger : Trigger) : List String :=
  trigger.dependencies.map EventKey.subject

/-- The condition in the context of a trigger. -/
def condition? (trigger : Trigger) : Option Json :=
  Dict.get? trigger.context "Condition"

/-- What the action of a compiled trigger makes of its input. -/
def output (trigger : Trigger) (input : Json) : Json :=
  if trigger.action = Vocabulary.statePass then
    Builtins.passOutput (Dict.get? trigger.context "State") input
  else input

/-- A trigger that closes the root level and stops the worker. -/
def IsRoot (trigger : Trigger) : Prop :=
  trigger.action = Vocabulary.closeLevel ∧ Dict.get? trigger.context "root" = some (.bool true)

/-- The names that the context of a compiled trigger may have. -/
def contextKeys : List String :=
  ["Condition", "State", "join", "root", "subject"]

/-- What a trigger does once it is ready. The states of a workflow pass on one input
under a condition, or join branches without one; levels are closed by one of their
last states. -/
inductive Role (trigger : Trigger) : Prop where
  | single (joins : Worker.joinsAny trigger = false) (subject : String)
      (waits : trigger.waits = [subject])
      (action : trigger.action = Vocabulary.statePass ∨ trigger.action = Vocabulary.task ∨
        trigger.action = Vocabulary.closeLevel)
  | join (joins : Worker.joinsAny trigger = false) (waits : trigger.waits ≠ [])
      (action : trigger.action = Vocabulary.statePass) (free : trigger.condition? = none)
  | any (joins : Worker.joinsAny trigger = true) (action : trigger.action = Vocabulary.closeLevel)

/-- A trigger as it is planned for a workflow. -/
structure Compiled (trigger : Trigger) : Prop where
  condition : trigger.condition = Vocabulary.stateCondition
  persistent : trigger.transient = false
  subject : Dict.get? trigger.context "subject" = some (.string trigger.id)
  rule : ∀ rule, trigger.condition? = some rule → Predicate.IsRule rule
  ordered : (Json.object trigger.context).Ordered
  keys : ∀ key ∈ Dict.keys trigger.context, key ∈ contextKeys
  completions : trigger.dependencies = trigger.waits.map EventKey.completion
  role : Role trigger

/-- A compiled trigger that joins all its dependencies waits for something. -/
theorem Compiled.waits_ne_nil {trigger : Trigger} (compiled : trigger.Compiled)
    (joins : Worker.joinsAny trigger = false) : trigger.waits ≠ [] := by
  cases compiled.role with
  | single _ _ waits => simp [waits]
  | join _ waits => exact waits
  | any other => cases joins.symm.trans other

end Trigger

/-- Triggers, and the one event that is published for them. -/
structure Net where
  triggers : List Trigger
  initial : String
  data : Json
  relay : Relay

/-- Each of some items that are related one by one has a partner. -/
theorem exists_of_forall₂ {α β : Type} {related : α → β → Prop} {items : List α} {others : List β}
    (pairs : List.Forall₂ related items others) :
    ∀ item ∈ items, ∃ other ∈ others, related item other := by
  induction pairs with
  | nil => simp
  | cons pair _ ih =>
      intro item member
      rcases List.mem_cons.mp member with rfl | later
      · exact ⟨_, List.mem_cons_self, pair⟩
      · obtain ⟨other, listed, paired⟩ := ih item later
        exact ⟨other, List.mem_cons_of_mem _ listed, paired⟩

namespace Net

mutual

/-- A completion is announced with some output. -/
inductive Carries (net : Net) : String → Json → Prop where
  | initial : Carries net net.initial net.data
  | all {trigger : Trigger} {inputs : List Json} (member : trigger ∈ net.triggers)
      (joins : Worker.joinsAny trigger = false) (waits : trigger.waits ≠ [])
      (collects : Collects net trigger trigger.waits inputs) :
      Carries net trigger.id (trigger.output (joined inputs))
  | any {trigger : Trigger} {subject : String} {output input : Json}
      (member : trigger ∈ net.triggers) (joins : Worker.joinsAny trigger = true)
      (waits : subject ∈ trigger.waits) (carries : Carries net subject output)
      (relayed : net.relay output = some input) (opens : Opens trigger.condition? input) :
      Carries net trigger.id (trigger.output input)

/-- The outputs of some subjects get through to a trigger. -/
inductive Collects (net : Net) : Trigger → List String → List Json → Prop where
  | nil {trigger : Trigger} : Collects net trigger [] []
  | cons {trigger : Trigger} {subject : String} {rest : List String} {output input : Json}
      {inputs : List Json} (carries : Carries net subject output)
      (relayed : net.relay output = some input) (opens : Opens trigger.condition? input)
      (behind : Collects net trigger rest inputs) :
      Collects net trigger (subject :: rest) (input :: inputs)

end

/-- The output of a subject gets through as an input. -/
def Arrives (net : Net) (subject : String) (input : Json) : Prop :=
  ∃ output, net.Carries subject output ∧ net.relay output = some input

/-- A completion is announced with one output. -/
def Single (net : Net) (subject : String) : Prop :=
  ∀ first second, net.Carries subject first → net.Carries subject second → first = second

/-- At most one of the subjects that a trigger waits for is ever announced. -/
structure Exclusive (net : Net) (trigger : Trigger) : Prop where
  distinct : trigger.waits.Nodup
  once : ∀ first ∈ trigger.waits, ∀ second ∈ trigger.waits, ∀ firstOutput secondOutput,
    net.Carries first firstOutput → net.Carries second secondOutput → first = second

/-- An announced completion is waited for by a trigger that announces another. -/
def Feeds (net : Net) (subject id : String) : Prop :=
  ∃ trigger ∈ net.triggers, trigger.id = id ∧ subject ∈ trigger.waits ∧
    ∃ output, net.Carries id output

/-- A chain of announced completions. -/
abbrev Leads (net : Net) : String → String → Prop :=
  Relation.ReflTransGen net.Feeds

/-- The triggers of a net have distinct ids, none of which is the initial subject. -/
structure Keyed (net : Net) : Prop where
  distinct : (net.triggers.map Trigger.id).Nodup
  fresh : net.initial ∉ net.triggers.map Trigger.id

variable {net : Net}

/-- Inputs are collected one by one. -/
theorem collects_iff {trigger : Trigger} {subjects : List String} {inputs : List Json} :
    net.Collects trigger subjects inputs ↔
      List.Forall₂ (fun subject input => net.Arrives subject input ∧
        Opens trigger.condition? input) subjects inputs := by
  induction subjects generalizing inputs with
  | nil =>
      rw [List.forall₂_nil_left_iff]
      constructor
      · rintro ⟨⟩
        rfl
      · rintro rfl
        exact .nil
  | cons subject rest ih =>
      rw [List.forall₂_cons_left_iff]
      constructor
      · intro collects
        cases collects with
        | cons carries relayed opens behind =>
            exact ⟨_, _, ⟨⟨_, carries, relayed⟩, opens⟩, ih.mp behind, rfl⟩
      · rintro ⟨input, others, ⟨⟨output, carries, relayed⟩, opens⟩, behind, rfl⟩
        exact .cons carries relayed opens (ih.mpr behind)

namespace Keyed

/-- A trigger of a net is known by its id. -/
theorem eq_of_id_eq (keyed : net.Keyed) {first second : Trigger} (left : first ∈ net.triggers)
    (right : second ∈ net.triggers) (same : first.id = second.id) : first = second :=
  List.inj_on_of_nodup_map keyed.distinct left right same

/-- The initial event is the only one of its subject. -/
theorem carries_initial_iff (keyed : net.Keyed) {output : Json} :
    net.Carries net.initial output ↔ output = net.data := by
  constructor
  · intro carries
    generalize subject : net.initial = name at carries
    cases carries with
    | initial => rfl
    | all member => exact absurd (subject ▸ List.mem_map_of_mem member) keyed.fresh
    | any member => exact absurd (subject ▸ List.mem_map_of_mem member) keyed.fresh
  · rintro rfl
    exact .initial

variable {trigger : Trigger} {output : Json}

/-- A trigger that joins all its dependencies announces what it makes of their
outputs together. -/
theorem carries_all_iff (keyed : net.Keyed) (member : trigger ∈ net.triggers)
    (joins : Worker.joinsAny trigger = false) (waits : trigger.waits ≠ []) :
    net.Carries trigger.id output ↔ ∃ inputs,
      List.Forall₂ (fun subject input => net.Arrives subject input ∧
        Opens trigger.condition? input) trigger.waits inputs ∧
      output = trigger.output (joined inputs) := by
  constructor
  · intro carries
    generalize same : trigger.id = name at carries
    cases carries with
    | initial => exact absurd (same ▸ List.mem_map_of_mem member) keyed.fresh
    | all other _ _ collects =>
        cases keyed.eq_of_id_eq member other same
        exact ⟨_, collects_iff.mp collects, rfl⟩
    | any other joinsAny =>
        cases keyed.eq_of_id_eq member other same
        rw [joins] at joinsAny
        cases joinsAny
  · rintro ⟨inputs, collects, rfl⟩
    exact .all member joins waits (collects_iff.mpr collects)

/-- A trigger that waits for one subject announces what it makes of its output. -/
theorem carries_single_iff (keyed : net.Keyed) (member : trigger ∈ net.triggers)
    (joins : Worker.joinsAny trigger = false) {subject : String} (waits : trigger.waits = [subject]) :
    net.Carries trigger.id output ↔ ∃ input, net.Arrives subject input ∧
      Opens trigger.condition? input ∧ output = trigger.output input := by
  rw [carries_all_iff keyed member joins (by simp [waits]), waits]
  constructor
  · rintro ⟨inputs, collects, rfl⟩
    cases collects with
    | cons first behind =>
        cases behind
        exact ⟨_, first.1, first.2, rfl⟩
  · rintro ⟨input, arrives, opens, rfl⟩
    exact ⟨[input], .cons ⟨arrives, opens⟩ .nil, rfl⟩

/-- A trigger that joins any of its dependencies announces what it makes of the
output of one. -/
theorem carries_any_iff (keyed : net.Keyed) (member : trigger ∈ net.triggers)
    (joins : Worker.joinsAny trigger = true) :
    net.Carries trigger.id output ↔ ∃ subject ∈ trigger.waits, ∃ input,
      net.Arrives subject input ∧ Opens trigger.condition? input ∧
      output = trigger.output input := by
  constructor
  · intro carries
    generalize same : trigger.id = name at carries
    cases carries with
    | initial => exact absurd (same ▸ List.mem_map_of_mem member) keyed.fresh
    | all other joinsAll =>
        cases keyed.eq_of_id_eq member other same
        rw [joins] at joinsAll
        cases joinsAll
    | any other _ waits carries relayed opens =>
        cases keyed.eq_of_id_eq member other same
        exact ⟨_, waits, _, ⟨_, carries, relayed⟩, opens, rfl⟩
  · rintro ⟨subject, waits, input, ⟨_, carries, relayed⟩, opens, rfl⟩
    exact .any member joins waits carries relayed opens

end Keyed

/-- The output of a subject that is announced with one output gets through as one
input. -/
theorem Single.arrives {subject : String} (single : net.Single subject) {first second : Json}
    (left : net.Arrives subject first) (right : net.Arrives subject second) : first = second := by
  obtain ⟨_, carries, relayed⟩ := left
  obtain ⟨_, otherCarries, otherRelayed⟩ := right
  cases single _ _ carries otherCarries
  exact Option.some.inj (relayed.symm.trans otherRelayed)

/-- Subjects that are announced with one output each get through as one list of
inputs. -/
theorem arrive_unique {subjects : List String} {first second : List Json}
    (single : ∀ subject ∈ subjects, net.Single subject)
    (left : List.Forall₂ net.Arrives subjects first)
    (right : List.Forall₂ net.Arrives subjects second) : first = second := by
  induction left generalizing second with
  | nil =>
      cases right
      rfl
  | cons arrives _ ih =>
      cases right with
      | cons other behind =>
          rw [(single _ List.mem_cons_self).arrives arrives other,
            ih (fun subject member => single subject (List.mem_cons_of_mem _ member)) behind]

/-- One of some triggers announces a completion. -/
def Spreads (net : Net) (added : List Trigger) (id : String) (output : Json) : Prop :=
  id ∈ added.map Trigger.id ∧ net.Carries id output

/-- Compiled triggers that announce one output each, and of which those that join any
of their dependencies are never joined twice. -/
structure Sound (net : Net) (added : List Trigger) : Prop where
  compiled : ∀ trigger ∈ added, trigger.Compiled
  single : ∀ trigger ∈ added, net.Single trigger.id
  exclusive : ∀ trigger ∈ added, Worker.joinsAny trigger = true → net.Exclusive trigger

namespace Sound

variable {first second : List Trigger}

theorem nil : net.Sound [] :=
  ⟨by simp, by simp, by simp⟩

theorem append (left : net.Sound first) (right : net.Sound second) :
    net.Sound (first ++ second) where
  compiled trigger member :=
    (List.mem_append.mp member).elim (left.compiled trigger) (right.compiled trigger)
  single trigger member :=
    (List.mem_append.mp member).elim (left.single trigger) (right.single trigger)
  exclusive trigger member :=
    (List.mem_append.mp member).elim (left.exclusive trigger) (right.exclusive trigger)

theorem of_single {id : String} (sound : net.Sound first) (member : id ∈ first.map Trigger.id) :
    net.Single id := by
  obtain ⟨trigger, added, rfl⟩ := List.mem_map.mp member
  exact sound.single trigger added

/-- A net of sound triggers announces one output for every subject. -/
theorem single_subject (sound : net.Sound net.triggers) (keyed : net.Keyed) (subject : String) :
    net.Single subject := by
  intro first second left right
  by_cases initial : subject = net.initial
  · subst initial
    rw [keyed.carries_initial_iff.mp left, keyed.carries_initial_iff.mp right]
  · have named : subject ∈ net.triggers.map Trigger.id := by
      cases left with
      | initial => exact absurd rfl initial
      | all member => exact List.mem_map_of_mem member
      | any member => exact List.mem_map_of_mem member
    exact sound.of_single named first second left right

end Sound

theorem spreads_append_iff {first second : List Trigger} {id : String} {output : Json} :
    net.Spreads (first ++ second) id output ↔
      net.Spreads first id output ∨ net.Spreads second id output := by
  simp [Spreads, or_and_right]

theorem spreads_singleton_iff {trigger : Trigger} {id : String} {output : Json} :
    net.Spreads [trigger] id output ↔ id = trigger.id ∧ net.Carries trigger.id output := by
  rw [Spreads, List.map_singleton, List.mem_singleton]
  constructor
  · rintro ⟨rfl, carries⟩
    exact ⟨rfl, carries⟩
  · rintro ⟨rfl, carries⟩
    exact ⟨rfl, carries⟩

end Net

end EventFlow
