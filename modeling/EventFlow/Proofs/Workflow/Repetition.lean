import EventFlow.Proofs.Workflow.Execution

/-!
# Triggers that fire again

The triggers of a workflow remember nothing of their firings. That none of them fires
twice rests on the workflow: where every choice leads on by its rules alone, one state at
most of each level is the last to be entered. A choice that ends its level besides its
rules completes the level twice, and with it whatever waits for the level.
-/

namespace EventFlow

namespace Worker

variable {compiler : Compiler} {workflow : Level} {initial space topic : String}
  {reading : Reading} {draft : Draft} {around : Surroundings} {data : Json}

/-- In a run of a deployed workflow whose choices decide, no trigger fires twice, however
far the run goes. -/
theorem run_fires_once (decoded : Level.decoder reading draft = .ok workflow)
    (decides : workflow.Throughout Level.Decides)
    (deployed : Deployed compiler workflow initial space around.documents)
    (staged : Staged around space topic ⟨initial, data⟩) (id : String) (settings : WorkerSettings)
    (fuel : Nat) : ((created id space settings).firings fuel around).Nodup := by
  obtain ⟨net, first, relays, keyed, sound, nonempty, holds, -⟩ :=
    deployed.exists_net decoded decides data
  rw [← first] at staged
  exact nodup_firings_of_staged keyed sound relays nonempty holds staged id settings fuel

/-- No trigger of the sample fires twice, though each of its branches completes. -/
theorem sample_fires_once :
    Level.decoder .value (Draft.ofJson (encodeLevel Level.sample)) = .ok Level.sample ∧
    Level.sample.Throughout Level.Decides ∧
    Deployed {} Level.sample "$init" "demo" (stage Level.sample checked).documents ∧
    Staged (stage Level.sample checked) "demo" "t" ⟨"$init", checked⟩ ∧
    ∀ fuel, ((created "w" "demo" { maxIdlePolls := 1 }).firings fuel (stage Level.sample checked)).Nodup := by
  obtain ⟨deployed, staged⟩ := staged_sample
  exact ⟨decoder_sample, Level.sample_decides, deployed, staged,
    run_fires_once decoder_sample Level.sample_decides deployed staged "w" _⟩

end Worker

/-! ## A choice that ends its level -/

/-- A parallel state with one branch, which ends both in a choice and in the state that a
rule of this choice leads to. -/
def Level.twofold : Level where
  comment := none
  startAt := "P"
  states := [
    ("P", { State.ofKind .parallel with
      ends := true
      branches := [⟨none, "C", [
        ("C", { State.ofKind .choice with
          ends := true
          choices := [⟨"A", [("BooleanEquals", .bool true), ("Variable", "$.x")]⟩] }),
        ("A", { State.ofKind .pass with ends := true })]⟩] })]

/-- Data for which the rule holds. -/
def marked : Json := .object [("x", .bool true)]

namespace Worker

/-- The branch is completed twice: by the event that starts it, and by the state that the
choice leads to. -/
theorem branch_closes_twice :
    Level.decoder .value (Draft.ofJson (encodeLevel Level.twofold)) = .ok Level.twofold ∧
    Deployed {} Level.twofold "$init" "demo" (stage Level.twofold marked).documents ∧
    Staged (stage Level.twofold marked) "demo" "t" ⟨"$init", marked⟩ ∧
    ∀ fuel, 2 ≤ fuel → ["A", "StateMachine1", "StateMachine1"] <+:
      (created "w" "demo" { maxIdlePolls := 2 }).firings fuel (stage Level.twofold marked) := by
  have twice : (created "w" "demo" { maxIdlePolls := 2 }).firings 2 (stage Level.twofold marked) =
      ["A", "StateMachine1", "StateMachine1"] := by
    decide +kernel
  obtain ⟨deployed, staged⟩ := staged_of_deploy Level.twofold (by decide +kernel) marked
  exact ⟨rfl, deployed, staged, fun fuel more => twice ▸ firings_prefix more _ _⟩

end Worker

end EventFlow
