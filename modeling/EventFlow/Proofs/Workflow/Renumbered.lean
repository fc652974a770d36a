import EventFlow.Proofs.Workflow.Reordered
import Mathlib.Data.Set.Function

/-!
# Plans of reordered workflows

The order in which states are declared decides in which order they are planned, and so which
numbers the closing triggers get. This module follows two plannings of a workflow side by
side, one of them in another order of declaration and from another number on. Whatever is
planned in one of them is planned in the other, at a site that differs at most in the number
of the closing trigger it waits for. So the triggers of both plans are the same ones when
the closing triggers of one plan are renamed to those of the other.
-/

namespace EventFlow

namespace Plan

/-! ## Renamed triggers -/

/-- A trigger, and the same one when closing triggers are renamed. Only the triggers that
wait for the last states of a level may list them in some other order. -/
inductive Renamed (rename : String → String) : Submission → Submission → Prop where
  | state {name action : String} {waits : List String} {context : Dict Json}
      (acts : action ≠ Vocabulary.closeLevel) :
      Renamed rename (stateTrigger name waits action context)
        (stateTrigger name (waits.map rename) action context)
  | closing {id : String} {completions others : List String} {depth : Nat}
      (permuted : (completions.map rename).Perm others) :
      Renamed rename (closingTrigger id completions depth)
        (closingTrigger (rename id) others depth)

/-- A closing trigger is renamed to a closing trigger, and no other trigger is. -/
theorem Renamed.closingIds_eq {rename : String → String} {submission other : Submission}
    (renamed : Renamed rename submission other) :
    (closingIds [submission]).map rename = closingIds [other] := by
  cases renamed with
  | @state name action waits context acts =>
      have none : ∀ waits, closingIds [stateTrigger name waits action context] = [] := by
        intro waits
        have other : (stateTrigger name waits action context).action ≠ Vocabulary.closeLevel := acts
        rw [closingIds, List.filter_cons_of_neg (by simpa using other)]
        rfl
      rw [none, none]
      rfl
  | closing => rfl

/-- The same triggers in some order when closing triggers are renamed. -/
def SameTriggers (rename : String → String) (triggers others : List Submission) : Prop :=
  ∃ aligned, List.Forall₂ (Renamed rename) triggers aligned ∧ aligned.Perm others

namespace SameTriggers

variable {rename : String → String} {first second later others : List Submission}

theorem nil : SameTriggers rename [] [] :=
  ⟨[], .nil, .nil⟩

theorem single {submission other : Submission} (renamed : Renamed rename submission other) :
    SameTriggers rename [submission] [other] :=
  ⟨[other], .cons renamed .nil, .refl _⟩

theorem append (front : SameTriggers rename first second)
    (behind : SameTriggers rename later others) :
    SameTriggers rename (first ++ later) (second ++ others) := by
  obtain ⟨firstAligned, firstSame, firstPermuted⟩ := front
  obtain ⟨laterAligned, laterSame, laterPermuted⟩ := behind
  exact ⟨firstAligned ++ laterAligned, List.rel_append firstSame laterSame,
    firstPermuted.append laterPermuted⟩

theorem perm (same : SameTriggers rename first second) (permuted : second.Perm others) :
    SameTriggers rename first others := by
  obtain ⟨aligned, alike, along⟩ := same
  exact ⟨aligned, alike, along.trans permuted⟩

/-- The closing triggers are renamed one by one. -/
theorem closingIds_perm (same : SameTriggers rename first second) :
    ((closingIds first).map rename).Perm (closingIds second) := by
  obtain ⟨aligned, alike, permuted⟩ := same
  have renamed : (closingIds first).map rename = closingIds aligned := by
    clear permuted
    induction alike with
    | nil => rfl
    | @cons submission other rest others renamed _ ih =>
        have split : ∀ (submission : Submission) (rest : List Submission),
            closingIds (submission :: rest) = closingIds [submission] ++ closingIds rest :=
          fun submission rest => closingIds_append [submission] rest
        rw [split submission rest, split other others, List.map_append, renamed.closingIds_eq, ih]
  rw [renamed]
  exact (permuted.filter _).filterMap _

/-- They correspond to each other if none of them has the id of another. -/
theorem bijOn_closingIds (same : SameTriggers rename first second)
    (distinct : (closingIds second).Nodup) :
    Set.BijOn rename {id | id ∈ closingIds first} {id | id ∈ closingIds second} := by
  have ids := same.closingIds_perm
  refine ⟨fun id member => ?_, fun id left other right equal => ?_, fun id member => ?_⟩
  · exact ids.subset (List.mem_map_of_mem member)
  · exact List.inj_on_of_nodup_map (ids.nodup_iff.mpr distinct) left right equal
  · exact List.mem_map.mp (ids.symm.subset member)

end SameTriggers

/-! ## Two plannings side by side -/

/-- A renaming takes the numbers of closing triggers to those that they are paired with. -/
def Takes (rename : String → String) (pairs : List (Nat × Nat)) : Prop :=
  ∀ pair ∈ pairs, rename (closingId pair.1) = closingId pair.2

theorem Takes.front {rename : String → String} {first second : List (Nat × Nat)}
    (takes : Takes rename (first ++ second)) : Takes rename first :=
  fun pair member => takes pair (List.mem_append_left _ member)

theorem Takes.behind {rename : String → String} {first second : List (Nat × Nat)}
    (takes : Takes rename (first ++ second)) : Takes rename second :=
  fun pair member => takes pair (List.mem_append_right _ member)

/-- A renaming leaves the states of a level alone, and those of all levels planned inside. -/
def Spares (rename : String → String) (level : Level) : Prop :=
  level.Throughout fun level => ∀ name ∈ level.names, rename name = name

/-- The site that differs in the name of what it waits for. -/
def Site.renamed (rename : String → String) (site : Site) : Site :=
  { site with input := rename site.input }

/-- The outcome that differs in the name of the completion. -/
def Outcome.renamed (rename : String → String) (outcome : Outcome) : Outcome :=
  { outcome with completion := rename outcome.completion }

/-- A part of a plan has given out the first numbers of these pairs, one after the other. -/
structure Numbered (pairs : List (Nat × Nat)) (progress next : Progress) : Prop where
  numbers : pairs.map Prod.fst = List.range' progress.sequence pairs.length
  sequence : next.sequence = progress.sequence + pairs.length

/-- What a part of one plan has added is what a part of another plan has, up to a renaming. -/
def Twinned (rename : String → String) (progress next start behind : Progress) : Prop :=
  ∃ added others, next.triggers = progress.triggers ++ added ∧
    behind.triggers = start.triggers ++ others ∧ SameTriggers rename added others

variable {rename : String → String} {progress middle next start between behind : Progress}

namespace Numbered

variable {first second : List (Nat × Nat)}

theorem refl : Numbered [] progress progress :=
  ⟨rfl, rfl⟩

theorem trans (left : Numbered first progress middle) (right : Numbered second middle next) :
    Numbered (first ++ second) progress next where
  numbers := by
    rw [List.map_append, left.numbers, right.numbers, left.sequence, List.length_append,
      List.range'_append_1]
  sequence := by rw [right.sequence, left.sequence, List.length_append, Nat.add_assoc]

theorem push (numbered : Numbered first progress next) (submission : Submission) :
    Numbered first progress (next.push submission) :=
  ⟨numbered.numbers, numbered.sequence⟩

end Numbered

namespace Twinned

theorem refl : Twinned rename progress progress start start :=
  ⟨[], [], (List.append_nil _).symm, (List.append_nil _).symm, .nil⟩

theorem trans (left : Twinned rename progress middle start between)
    (right : Twinned rename middle next between behind) :
    Twinned rename progress next start behind := by
  obtain ⟨first, second, added, otherAdded, same⟩ := left
  obtain ⟨later, others, laterAdded, othersAdded, laterSame⟩ := right
  refine ⟨first ++ later, second ++ others, ?_, ?_, same.append laterSame⟩
  · rw [laterAdded, added, List.append_assoc]
  · rw [othersAdded, otherAdded, List.append_assoc]

theorem push (twinned : Twinned rename progress next start behind) {submission other : Submission}
    (renamed : Renamed rename submission other) :
    Twinned rename progress (next.push submission) start (behind.push other) :=
  twinned.trans ⟨[submission], [other], rfl, rfl, .single renamed⟩

end Twinned

/-- Two levels are planned side by side wherever they are planned: for some pairs of numbers,
the first of which the one level is given, both add the same triggers under any renaming
that takes numbers as they are paired, spares names, and takes one entry to the other. -/
def Parallel (level other : Level) : Prop :=
  ∀ {entry site : Site} {progress next start behind : Progress} {id twin : String},
    (levelStep level entry).success progress = .ok (id, next) →
    (levelStep other site).success start = .ok (twin, behind) →
    ∃ pairs, Numbered pairs progress next ∧ ∀ rename, Takes rename pairs → Spares rename level →
      site = entry.renamed rename → twin = rename id ∧ Twinned rename progress next start behind

/-! ## Branches and states -/

/-- Branches are planned side by side if each of them is. -/
theorem planBranches_parallel {branches others : List Level} {site other : Site}
    {ids twins : List String} (parallel : List.Forall₂ Parallel branches others)
    (planned : (planBranches (branches.map levelStep) site).success progress = .ok (ids, next))
    (replanned : (planBranches (others.map levelStep) other).success start = .ok (twins, behind)) :
    ∃ pairs, Numbered pairs progress next ∧ ∀ rename, Takes rename pairs →
      (∀ branch ∈ branches, Spares rename branch) → other = site.renamed rename →
      twins = ids.map rename ∧ Twinned rename progress next start behind := by
  induction parallel generalizing progress start ids twins with
  | nil =>
      cases planned
      cases replanned
      exact ⟨[], .refl, fun _ _ _ _ => ⟨rfl, .refl⟩⟩
  | @cons branch twin rest others here _ ih =>
      obtain ⟨id, middle, _, first, later, rfl⟩ := planBranches_cons_eq_ok_iff.mp planned
      obtain ⟨_, between, _, second, others, rfl⟩ := planBranches_cons_eq_ok_iff.mp replanned
      obtain ⟨pairs, numbered, twinned⟩ := here first second
      obtain ⟨more, moreNumbered, moreTwinned⟩ := ih later others
      refine ⟨pairs ++ more, numbered.trans moreNumbered, fun rename takes spares sited => ?_⟩
      obtain ⟨rfl, same⟩ := twinned rename takes.front (spares branch List.mem_cons_self) sited
      obtain ⟨rfl, sameToo⟩ := moreTwinned rename takes.behind
        (fun other member => spares other (List.mem_cons_of_mem _ member)) sited
      exact ⟨rfl, same.trans sameToo⟩

/-- A trigger of its own is renamed as its site is. -/
theorem renamed_ownTrigger {name action : String} {context : Dict Json} {site : Site}
    (acts : action ≠ Vocabulary.closeLevel) :
    Renamed rename (stateTrigger name [site.input] action (gated context site.gate))
      (stateTrigger name [(site.renamed rename).input] action
        (gated context (site.renamed rename).gate)) :=
  .state acts

/-- States that are alike are planned side by side if the levels inside them are. -/
theorem stateStep_parallel {name : String} {state mate : State} {site other : Site}
    {outcome twin : Outcome} (alike : state.Alike Parallel mate) (value : state.toJson = mate.toJson)
    (planned : (stateStep name state site).success progress = .ok (outcome, next))
    (replanned : (stateStep name mate other).success start = .ok (twin, behind)) :
    ∃ pairs, Numbered pairs progress next ∧ ∀ rename, Takes rename pairs → rename name = name →
      (∀ sub ∈ state.sublevels, Spares rename sub) → other = site.renamed rename →
      twin = outcome.renamed rename ∧ Twinned rename progress next start behind := by
  have context : stateContext name mate = stateContext name state := by
    rw [stateContext, stateContext, value]
  rw [stateStep_eq, planKind] at planned replanned
  rw [alike.kind_eq] at replanned
  unfold State.sublevels
  cases kind : state.kind with
  | pass | task | wait =>
      simp only [kind, planSingle, context] at planned replanned
      cases planned
      cases replanned
      refine ⟨[], ⟨rfl, rfl⟩, fun rename _ kept _ sited => ?_⟩
      subst sited
      exact ⟨by rw [Outcome.renamed, kept], Twinned.refl.push (renamed_ownTrigger (by decide))⟩
  | choice =>
      simp only [kind] at planned replanned
      cases planned
      cases replanned
      refine ⟨[], .refl, fun rename _ _ _ sited => ?_⟩
      subst sited
      exact ⟨rfl, .refl⟩
  | parallel =>
      simp only [kind] at planned replanned ⊢
      obtain ⟨_, ids, middle, branched, rfl, rfl⟩ := planParallel_eq_ok_iff.mp planned
      obtain ⟨_, twins, between, rebranched, rfl, rfl⟩ := planParallel_eq_ok_iff.mp replanned
      obtain ⟨pairs, numbered, twinned⟩ := planBranches_parallel alike.branching branched rebranched
      refine ⟨pairs, numbered.push _, fun rename takes kept spares sited => ?_⟩
      obtain ⟨rfl, same⟩ := twinned rename takes spares (by rw [sited]; rfl)
      rw [context]
      exact ⟨by rw [Outcome.renamed, kept], same.push (.state (by decide))⟩
  | map =>
      simp only [kind] at planned replanned ⊢
      obtain ⟨_, id, present, iterated, rfl⟩ := planMap_eq_ok_iff.mp planned
      obtain ⟨_, twin, again, reiterated, rfl⟩ := planMap_eq_ok_iff.mp replanned
      obtain ⟨sub, iterator, rfl⟩ := Option.map_eq_some_iff.mp present
      obtain ⟨other, another, rfl⟩ := Option.map_eq_some_iff.mp again
      have iterating := alike.iterating
      rw [iterator, another] at iterating
      cases iterating with
      | some parallel =>
      obtain ⟨pairs, numbered, twinned⟩ := parallel iterated reiterated
      refine ⟨pairs, ⟨numbered.numbers, numbered.sequence⟩, fun rename takes kept spares sited => ?_⟩
      subst sited
      obtain ⟨rfl, same⟩ := twinned rename takes (spares sub (by simp [iterator]))
        (by rw [Site.renamed, Site.renamed, kept])
      refine ⟨rfl, Twinned.trans (Twinned.refl.push ?_) same⟩
      rw [context]
      exact renamed_ownTrigger (by decide)
  | succeed | fail =>
      simp only [kind] at planned
      cases planned

/-! ## Levels -/

/-- A site stays the same when one more state is planned. -/
theorem siteOf_insert {links : Links} {entry site : Site} {done : Dict Outcome}
    {name fresh : String} (sited : siteOf links entry done name = .ok site)
    (absent : Dict.get? done fresh = none) (outcome : Outcome) :
    siteOf links entry (Dict.insert done fresh outcome) name = .ok site := by
  unfold siteOf at sited ⊢
  split at sited
  · cases sited
  · exact sited
  · next previous _ =>
    split at sited
    · cases sited
    · next left there =>
      have different : fresh ≠ previous := by
        rintro rfl
        cases absent.symm.trans there
      rw [Dict.get?_insert_of_ne _ _ different, there]
      exact sited

/-- Sites in two orders of declaration differ as the entries and the outcomes do. -/
theorem siteOf_renamed {links relinked : Links} {entry site reentry resite : Site}
    {done redone : Dict Outcome} {name : String} {rename : String → String}
    (entrances : Dict.get? relinked.entrances name = Dict.get? links.entrances name)
    (routes : Dict.get? relinked.routes name = Dict.get? links.routes name)
    (outcomes : ∀ name outcome, Dict.get? done name = some outcome →
      Dict.get? redone name = some (outcome.renamed rename))
    (entered : reentry = entry.renamed rename) (sited : siteOf links entry done name = .ok site)
    (resited : siteOf relinked reentry redone name = .ok resite) :
    resite = site.renamed rename := by
  subst entered
  unfold siteOf at sited resited
  rw [entrances, routes] at resited
  split at sited
  · cases sited
  · next atStart =>
    rw [atStart] at resited
    cases sited
    cases resited
    rfl
  · next previous behind =>
    rw [behind] at resited
    split at sited
    · cases sited
    · next left there =>
      simp only [outcomes previous left there] at resited
      cases sited
      cases resited
      rfl

/-- A state of a level has been planned at its site, and has added these triggers. -/
inductive Share (level : Level) (links : Links) (entry : Site) (done : Dict Outcome) (name : String)
    (added : List Submission) : Prop where
  | intro {state : State} {site : Site} {outcome : Outcome} {before behind : Progress}
      (found : level.state? name = some state) (sited : siteOf links entry done name = .ok site)
      (left : Dict.get? done name = some outcome)
      (planned : (stateStep name state site).success before = .ok (outcome, behind))
      (triggers : behind.triggers = before.triggers ++ added)

/-- A share stays the same when one more state is planned. -/
theorem Share.insert {level : Level} {links : Links} {entry : Site} {done : Dict Outcome}
    {name fresh : String} {added : List Submission} (share : Share level links entry done name added)
    (absent : Dict.get? done fresh = none) (outcome : Outcome) :
    Share level links entry (Dict.insert done fresh outcome) name added := by
  obtain ⟨found, sited, left, planned, triggers⟩ := share
  refine .intro found (siteOf_insert sited absent outcome) ?_ planned triggers
  rw [Dict.get?_insert_of_ne _ _ ?_, left]
  rintro rfl
  cases absent.symm.trans left

/-- A run has added the shares of its states one after the other. -/
theorem Run.shares {level : Level} {links : Links} {entry : Site} {start progress : Progress}
    {names : List String} {done : Dict Outcome}
    (distinct : ∀ name state, (name, state) ∈ level.states → ∀ sub ∈ state.sublevels,
      sub.Throughout fun level => level.names.Nodup) (nodup : names.Nodup)
    (run : Run level links entry start names done progress) :
    ∃ share : String → List Submission,
      progress.triggers = start.triggers ++ names.flatMap share ∧
      ∀ name ∈ names, Share level links entry done name (share name) := by
  induction run with
  | nil => exact ⟨fun _ => [], (List.append_nil _).symm, nofun⟩
  | @snoc names done progress last state site outcome next before found sited planned ih =>
      obtain ⟨earlier, -, apart⟩ := List.nodup_append.mp nodup
      have different : ∀ name ∈ names, name ≠ last := fun name member =>
        apart name member last (List.mem_singleton_self _)
      have absent : Dict.get? done last = none := by
        cases there : Dict.get? done last with
        | none => rfl
        | some _ => exact absurd rfl (different last (before.mem_of_get? there))
      obtain ⟨share, whole, each⟩ := ih earlier
      obtain ⟨added, new⟩ := (stateStep_extends (fun sub inside _ _ _ _ =>
        levelStep_extends (distinct last state (Level.mem_states_of_state? found) sub inside))
          planned).triggers
      have kept : ∀ name ∈ names, Function.update share last added name = share name :=
        fun name member => Function.update_of_ne (different name member) _ _
      refine ⟨Function.update share last added, ?_, fun name member => ?_⟩
      · rw [← new, whole, List.flatMap_append, List.flatMap_congr kept, List.flatMap_singleton,
          Function.update_self, List.append_assoc]
      · rcases List.mem_append.mp member with old | now
        · rw [kept name old]
          exact (each name old).insert absent outcome
        · cases List.mem_singleton.mp now
          rw [Function.update_self]
          exact .intro found (siteOf_insert sited absent outcome) (Dict.get?_insert_self _ _ _)
            planned new.symm

/-- The states of a level are planned side by side with those of the level in another order
of declaration, whichever place they have there. -/
theorem Run.parallel {level other : Level} {links relinked : Links} {entry reentry : Site}
    {start progress : Progress} {names : List String} {done redone : Dict Outcome}
    {share : String → List Submission} (described : Links.Describes level links level.states)
    (redescribed : Links.Describes other relinked other.states) (reordered : level.Reordered other)
    (distinct : level.Everywhere fun level => level.names.Nodup)
    (inside : ∀ name state, (name, state) ∈ level.states → ∀ sub ∈ state.levels,
      ∀ other, sub.Reordered other → Parallel sub other)
    (shares : ∀ name ∈ names, Share other relinked reentry redone name (share name))
    (run : Run level links entry start names done progress) :
    ∃ pairs, Numbered pairs start progress ∧ ∀ rename, Takes rename pairs → Spares rename level →
      reentry = entry.renamed rename →
      (∀ name outcome, Dict.get? done name = some outcome →
        Dict.get? redone name = some (outcome.renamed rename)) ∧
      ∃ added, progress.triggers = start.triggers ++ added ∧
        SameTriggers rename added (names.flatMap share) := by
  induction run with
  | nil =>
      exact ⟨[], .refl, fun _ _ _ _ => ⟨nofun, [], (List.append_nil _).symm, .nil⟩⟩
  | @snoc names done progress last state site outcome next before found sited planned ih =>
      obtain ⟨pairs, numbered, earlier⟩ :=
        ih fun name member => shares name (List.mem_append_left _ member)
      -- The other planning has come to this state somewhere else, so that its share is looked
      -- up instead of being next.
      obtain ⟨refound, resited, left, replanned, shared⟩ :=
        shares last (List.mem_append_right _ (List.mem_singleton_self _))
      have declared := Level.mem_states_of_state? found
      obtain ⟨mate, redeclared, alike⟩ := reordered.exists_mate declared
      have value : state.toJson = mate.toJson :=
        (alike.imp fun sub listed other same =>
          same.sorted_encode (distinct.inside declared listed)).toJson_eq
      have renames : other.names.Nodup := reordered.names_perm.nodup_iff.mp distinct.here
      cases (Level.state?_of_mem_states renames redeclared).symm.trans refound
      obtain ⟨more, moreNumbered, later⟩ :=
        stateStep_parallel (alike.imp (inside last state declared)) value planned replanned
      refine ⟨pairs ++ more, numbered.trans moreNumbered, fun rename takes spares entered => ?_⟩
      obtain ⟨outcomes, added, triggers, same⟩ := earlier rename takes.front spares entered
      have sites := siteOf_renamed (described.entrances_eq redescribed reordered last)
        (described.routes_eq redescribed reordered distinct.here last) outcomes entered sited resited
      obtain ⟨rfl, new, others, newTriggers, otherTriggers, sameToo⟩ :=
        later rename takes.behind (spares.here last (Level.mem_names_iff.mpr ⟨state, found⟩))
          (fun sub planned => spares.inside declared planned) sites
      obtain rfl := List.append_cancel_left (otherTriggers.symm.trans shared)
      refine ⟨fun name result there => ?_, added ++ new, ?_, ?_⟩
      · rw [Dict.get?_insert] at there
        split at there
        · next same =>
          cases there
          exact same ▸ left
        · exact outcomes name result there
      · rw [newTriggers, triggers, List.append_assoc]
      · rw [List.flatMap_append, List.flatMap_singleton]
        exact same.append sameToo

/-- The completions of renamed outcomes, in the order of the states that they belong to. -/
theorem completions_perm {done redone : Dict Outcome} {terminals reterminals : List String}
    {completions recompletions : List String}
    (outcomes : ∀ name outcome, Dict.get? done name = some outcome →
      Dict.get? redone name = some (outcome.renamed rename))
    (permuted : terminals.Perm reterminals)
    (completed : List.Forall₂ (fun name completion => completionOf done name = .ok completion)
      terminals completions)
    (recompleted : List.Forall₂ (fun name completion => completionOf redone name = .ok completion)
      reterminals recompletions) :
    (completions.map rename).Perm recompletions := by
  have renamed : List.Forall₂ (fun name completion => completionOf redone name = .ok completion)
      terminals (completions.map rename) := by
    refine List.forall₂_map_right_iff.mpr (completed.imp fun name completion made => ?_)
    unfold completionOf at made ⊢
    split at made
    · next outcome there =>
      cases made
      rw [outcomes name outcome there]
      rfl
    · cases made
  obtain ⟨others, along, same⟩ := List.perm_comp_forall₂ permuted.symm renamed
  have functional : Relator.RightUnique
      fun name completion => completionOf redone name = .ok completion := by
    intro name first second left right
    cases left.symm.trans right
    rfl
  rw [functional.forall₂ recompleted along]
  exact same.symm

/-- A level and the same one in another order of declaration are planned side by side. -/
theorem levelStep_parallel {level other : Level} (reordered : level.Reordered other)
    (distinct : level.Everywhere fun level => level.names.Nodup) : Parallel level other := by
  induction level using Level.inclusionInduction generalizing other with
  | step level ih =>
  intro entry site progress next start behind id twin made remade
  obtain ⟨links, order, done, middle, completions, plan⟩ := levelStep_ok made
  obtain ⟨relinked, reorder, redone, between, recompletions, replan⟩ := levelStep_ok remade
  have redistinct : other.Throughout fun level => level.names.Nodup :=
    distinct.throughout.reordered (fun _ _ same => same.names_perm.nodup_iff.mp) reordered
  obtain ⟨share, whole, shares⟩ := replan.run.shares
    (fun name state declared sub inside => redistinct.inside declared inside) replan.ordered.nodup
  -- Both orders have the same states, so the other plan has their shares in some order.
  have orders : order.Perm reorder := by
    refine (List.perm_ext_iff_of_nodup plan.ordered.nodup replan.ordered.nodup).mpr fun name => ?_
    rw [plan.complete, replan.complete, reordered.names_perm.mem_iff]
  obtain ⟨pairs, numbered, parallel⟩ := plan.run.parallel plan.described replan.described reordered
    distinct (fun name state declared sub listed other same =>
      ih name state declared sub listed same (distinct.inside declared listed))
    (fun name member => shares name (orders.subset member))
  refine ⟨(progress.sequence, start.sequence) :: pairs, ⟨?_, ?_⟩, fun rename takes spares sited => ?_⟩
  · rw [List.map_cons, numbered.numbers, List.length_cons, List.range'_succ]
  · rw [plan.next_eq]
    exact numbered.sequence.trans (by rw [List.length_cons]; dsimp only; omega)
  · have closes : twin = rename id := by
      rw [plan.id_eq, replan.id_eq]
      exact (takes _ List.mem_cons_self).symm
    obtain ⟨outcomes, added, triggers, same⟩ :=
      parallel rename (fun pair member => takes pair (List.mem_cons_of_mem _ member)) spares sited
    have closing : Renamed rename (closingTrigger id completions entry.depth)
        (closingTrigger twin recompletions site.depth) := by
      rw [closes, sited]
      exact .closing (completions_perm outcomes
        (plan.described.terminals_perm replan.described reordered) plan.completed replan.completed)
    refine ⟨closes, ?_⟩
    rw [plan.next_eq, replan.next_eq]
    exact Twinned.push ⟨added, _, triggers, whole, same.perm (orders.flatMap_right _)⟩ closing

/-! ## Renamings from pairs -/

/-- The renaming of closing triggers by pairs of their numbers. -/
def renumbering (pairs : List (Nat × Nat)) (subject : String) : String :=
  (Dict.get? (pairs.map fun pair => (closingId pair.1, closingId pair.2)) subject).getD subject

/-- It takes every number to the one that it is paired with, if no number is paired twice. -/
theorem takes_renumbering {pairs : List (Nat × Nat)} (distinct : (pairs.map Prod.fst).Nodup) :
    Takes (renumbering pairs) pairs := by
  intro pair member
  have keys : (Dict.keys (pairs.map fun pair => (closingId pair.1, closingId pair.2))).Nodup := by
    have ids := distinct.map closingId_injective
    rw [List.map_map] at ids
    rwa [Dict.keys, List.map_map]
  rw [renumbering, Dict.get?_of_mem keys (List.mem_map_of_mem member), Option.getD_some]

/-- It leaves everything else alone. -/
theorem renumbering_of_not_mem {pairs : List (Nat × Nat)} {subject : String}
    (other : ∀ pair ∈ pairs, subject ≠ closingId pair.1) : renumbering pairs subject = subject := by
  rw [renumbering, Dict.get?_eq_none_iff.mpr, Option.getD_none]
  intro member
  obtain ⟨_, listed, rfl⟩ := List.mem_map.mp member
  obtain ⟨pair, inside, rfl⟩ := List.mem_map.mp listed
  exact other pair inside rfl

/-- What is shorter than the prefix of closing triggers is not the id of one. -/
theorem not_mem_range_closingId {subject : String} (short : subject.length < 12) :
    subject ∉ Set.range closingId := by
  rintro ⟨number, rfl⟩
  have whole : (closingId number).length = "StateMachine".length + (toString number).length :=
    String.length_append _ _
  have front : "StateMachine".length = 12 := by decide
  omega

end Plan

namespace Compiler

/-- A workflow that has a plan has one in any other order of declaration. -/
theorem exists_plan_reordered {compiler : Compiler} (recompiler : Compiler) {workflow other : Level}
    {initial : String} (reordered : workflow.Reordered other)
    (distinct : workflow.Throughout fun level => level.names.Nodup)
    (accepted : ∃ plan after, compiler.plan workflow initial = .ok (plan, after)) :
    ∃ plan after, recompiler.plan other initial = .ok (plan, after) := by
  obtain ⟨plan, after, planned⟩ := accepted
  obtain ⟨_, made⟩ := Plan.levelStep_reordered reordered distinct (plan_eq_ok_iff.mp planned)
    ⟨initial, none, 0⟩ ⟨recompiler.sequence, []⟩
  exact exists_plan made

/-- Neither the order in which states are declared nor the number where a compiler begins
changes what is compiled. A workflow and the same one in another order of declaration have
both a plan or none of them, and if no name of a state and no event goes by the id of a
closing trigger, then there is a bijection between the closing triggers of the two plans,
with the root level's on the root level's, under which the plans have the same triggers:
those of states with the same conditions, actions, contexts and dependencies, and those that
close a level with the same marks and the same dependencies in some order. -/
theorem plan_reordered (compiler recompiler : Compiler) {workflow other : Level} (initial : String)
    (reordered : workflow.Reordered other)
    (distinct : workflow.Everywhere fun level => level.names.Nodup) :
    ((∃ plan after, compiler.plan workflow initial = .ok (plan, after)) ↔
      ∃ plan after, recompiler.plan other initial = .ok (plan, after)) ∧
    ∀ plan after replan reafter, compiler.plan workflow initial = .ok (plan, after) →
      recompiler.plan other initial = .ok (replan, reafter) →
      initial ∉ Set.range Plan.closingId →
      (workflow.Throughout fun level => ∀ name ∈ level.names, name ∉ Set.range Plan.closingId) →
      ∃ rename : String → String,
        Set.BijOn rename {id | id ∈ Plan.closingIds plan.triggers}
          {id | id ∈ Plan.closingIds replan.triggers} ∧
        (∀ subject, subject ∉ Plan.closingIds plan.triggers → rename subject = subject) ∧
        rename plan.completion = replan.completion ∧
        Plan.SameTriggers rename plan.triggers replan.triggers := by
  have names := distinct.throughout
  have renames : other.Throughout fun level => level.names.Nodup :=
    names.reordered (fun _ _ same => same.names_perm.nodup_iff.mp) reordered
  refine ⟨⟨exists_plan_reordered recompiler reordered names,
    exists_plan_reordered compiler reordered.symm renames⟩, ?_⟩
  intro plan after replan reafter planned replanned event free
  obtain ⟨pairs, numbered, parallel⟩ := Plan.levelStep_parallel reordered distinct
    (plan_eq_ok_iff.mp planned) (plan_eq_ok_iff.mp replanned)
  have accounts := plan_accounts names planned
  have numbers := numbered.numbers
  have spares : ∀ subject, subject ∉ Set.range Plan.closingId →
      Plan.renumbering pairs subject = subject := fun subject outside =>
    Plan.renumbering_of_not_mem fun pair _ same => outside ⟨pair.1, same.symm⟩
  obtain ⟨closes, added, others, triggers, retriggers, same⟩ := parallel (Plan.renumbering pairs)
    (Plan.takes_renumbering (numbers ▸ List.nodup_range' 1))
    (free.mono fun _ apart name declared => spares name (apart name declared))
    (by rw [Plan.Site.renamed, spares initial event])
  have all : plan.triggers = added := triggers
  have reall : replan.triggers = others := retriggers
  rw [← all, ← reall] at same
  have distinctIds : (Plan.closingIds replan.triggers).Nodup :=
    (plan_accounts renames replanned).closings.nodup_iff.mpr (Plan.nodup_closingIdsFrom _ _)
  refine ⟨Plan.renumbering pairs, same.bijOn_closingIds distinctIds, fun subject outside => ?_,
    closes.symm, same⟩
  -- Every number that is paired is one of the plan, as the pairs are as many as the levels.
  have levels : pairs.length = countLevel workflow :=
    Nat.add_left_cancel (numbered.sequence.symm.trans accounts.sequence)
  refine Plan.renumbering_of_not_mem fun pair member same => outside ?_
  have number : pair.1 ∈ List.range' compiler.sequence (countLevel workflow) := by
    rw [← levels, ← numbers]
    exact List.mem_map_of_mem member
  rw [same]
  exact accounts.closings.symm.subset (List.mem_map_of_mem number)

/-- The sample and the same workflow with the declarations turned round are compiled alike,
though the closing triggers of the one are numbered from zero and those of the other from
five on. -/
theorem sample_reordered :
    Level.sample.backwards.names ≠ Level.sample.names ∧
    ∃ plan after replan reafter, ({} : Compiler).plan Level.sample "$init" = .ok (plan, after) ∧
      (Compiler.mk 5).plan Level.sample.backwards "$init" = .ok (replan, reafter) ∧
      ∃ rename : String → String,
        Set.BijOn rename {id | id ∈ Plan.closingIds plan.triggers}
          {id | id ∈ Plan.closingIds replan.triggers} ∧
        (∀ subject, subject ∉ Plan.closingIds plan.triggers → rename subject = subject) ∧
        rename plan.completion = replan.completion ∧
        Plan.SameTriggers rename plan.triggers replan.triggers := by
  have short : Level.sample.Throughout fun level => ∀ name ∈ level.names, name.length < 12 :=
    Level.sample_throughout (by decide) (by decide)
  obtain ⟨accepts, same⟩ := plan_reordered {} (Compiler.mk 5) "$init"
    Level.sample.reordered_backwards (Level.sample_everywhere Level.sample_distinct)
  obtain ⟨plan, after, planned⟩ := sample_planned
  obtain ⟨replan, reafter, replanned⟩ := accepts.mp ⟨plan, after, planned⟩
  have free := short.mono fun level short name declared =>
    Plan.not_mem_range_closingId (short name declared)
  exact ⟨by decide, plan, after, replan, reafter, planned, replanned,
    same plan after replan reafter planned replanned (Plan.not_mem_range_closingId (by decide)) free⟩

end Compiler

end EventFlow
