import EventFlow.Proofs.Api.Committing
import EventFlow.Proofs.Engine.Booting
import EventFlow.Proofs.Workflow.Acceptance
import EventFlow.Proofs.Workflow.Closing
import EventFlow.Proofs.Workflow.Passing

/-!
# Workflows run

A workflow that is compiled, committed and started on one event is run as it is
interpreted: its run ends, and fires exactly the triggers of what the interpretation
announces, each once. Between two states the interpretation has to do to the data what the
log does to it: an output is read back from the text of its event, and where that is
nested too deeply to be read the run stalls.
-/

namespace EventFlow

/-- The choices of a level have neither a successor nor an end besides their rules. -/
def Level.Decides (level : Level) : Prop :=
  ∀ name state, (name, state) ∈ level.states → state.kind = .choice →
    state.next = none ∧ state.ends = false

/-- The choices of the sample decide. -/
theorem Level.sample_decides : sample.Throughout Level.Decides := by
  have decides : ∀ level : Level, (∀ entry ∈ level.states, entry.2.kind = .choice →
      entry.2.next = none ∧ entry.2.ends = false) → level.Decides :=
    fun level holds name state declared => holds (name, state) declared
  have nested : ∀ entry ∈ sample.states, ∀ sub ∈ entry.2.sublevels, ∀ inner ∈ sub.states,
      inner.2.kind = .choice → inner.2.next = none ∧ inner.2.ends = false := by
    decide
  exact sample_throughout (decides _ (by decide)) fun entry member sub inside =>
    decides _ (nested entry member sub inside)

variable {compiler planner : Compiler} {workflow : Level} {initial space topic : String}
  {plan : Plan} {net : Net}

/-- A decoded workflow with a plan, whose choices decide, is plain throughout. -/
theorem Compiler.plain_of_plan (planned : compiler.plan workflow initial = .ok (plan, planner))
    (sound : workflow.Throughout Level.Sound) (decides : workflow.Throughout Level.Decides) :
    workflow.Throughout Level.Plain := by
  have wellFormed := Plan.wellFormed_of_levelStep (sound.mono fun _ sound => sound.distinct)
    (Compiler.plan_eq_ok_iff.mp planned)
  exact (decides.and wellFormed).mono fun _ both => ⟨both.1, both.2.endsOrContinues⟩

/-- In the net that they make up, the triggers of a plan announce what the interpretation
of the workflow announces, and all of it leads to the root trigger. -/
theorem Compiler.net_of_plan (planned : compiler.plan workflow initial = .ok (plan, planner))
    (sound : workflow.Throughout Level.Sound) (plain : workflow.Throughout Level.Plain)
    (keyed : net.Keyed) (triggers : net.triggers = plan.triggers.map Submission.trigger)
    (starts : net.initial = initial) :
    net.Sound net.triggers ∧
      (∀ root ∈ net.triggers, root.IsRoot → (∃ output, net.Carries root.id output) →
        ∀ subject output, net.Spreads net.triggers subject output → net.Leads subject root.id) ∧
      ∀ subject output, net.Spreads net.triggers subject output ↔
        ∃ start, net.relay net.data = some start ∧
          Announces net.relay compiler.sequence workflow start subject output := by
  have reaches : ∀ data, net.Reaches ⟨initial, none, 0⟩ data ↔ net.relay net.data = some data := by
    intro data
    subst starts
    constructor
    · rintro ⟨⟨output, carries, relayed⟩, _⟩
      exact keyed.carries_initial_iff.mp carries ▸ relayed
    · intro relayed
      exact ⟨⟨_, .initial, relayed⟩, opens_none data⟩
  have settles : net.Settles ⟨initial, none, 0⟩ := by
    intro first second left right
    exact Option.some.inj (((reaches _).mp left).symm.trans ((reaches _).mp right))
  obtain ⟨added, stored, means⟩ := Plan.levelStep_means keyed sound plain _ _ _ _ .none settles
    (by rw [triggers]; exact List.prefix_rfl) (Compiler.plan_eq_ok_iff.mp planned)
  have all : added = net.triggers := by
    rw [triggers]
    exact stored.symm
  subst all
  refine ⟨means.sound, ?_, ?_⟩
  · intro root member isRoot carries subject output spreads
    obtain ⟨_, same⟩ := means.root root member isRoot
    rw [same] at carries ⊢
    obtain ⟨closing, carries⟩ := carries
    exact means.leads closing carries subject output spreads
  · intro subject output
    rw [means.announces]
    exact exists_congr fun start => and_congr_left' (reaches start)

/-- Where a decoded workflow was deployed a net is stored. Started on some data it announces
what the interpretation of the workflow announces, and all of it leads to the root trigger. -/
theorem Deployed.exists_net {reading : Reading} {draft : Draft} {documents : Documents}
    (decoded : Level.decoder reading draft = .ok workflow)
    (decides : workflow.Throughout Level.Decides)
    (deployed : Deployed compiler workflow initial space documents) (data : Json) :
    ∃ net : Net, net.first = ⟨initial, data⟩ ∧ net.relay = Json.relayed? ∧ net.Keyed ∧
      net.Sound net.triggers ∧ net.triggers ≠ [] ∧ documents.Holds space net.triggers ∧
      (∀ root ∈ net.triggers, root.IsRoot → (∃ output, net.Carries root.id output) →
        ∀ subject output, net.Spreads net.triggers subject output → net.Leads subject root.id) ∧
      ∀ subject output, net.Spreads net.triggers subject output ↔
        ∃ start, data.relayed? = some start ∧
          Announces Json.relayed? compiler.sequence workflow start subject output := by
  obtain ⟨plan, planner, planned, distinct, fresh, holds⟩ := deployed.planned
  have sound := Level.sound_of_decoder decoded
  let net : Net :=
    ⟨plan.triggers.map Submission.trigger, initial, data, Json.relayed?⟩
  have keyed : net.Keyed := ⟨distinct, fresh⟩
  obtain ⟨meant, leads, announces⟩ :=
    Compiler.net_of_plan planned sound (Compiler.plain_of_plan planned sound decides) keyed rfl rfl
  have nonempty : net.triggers ≠ [] := by
    obtain ⟨front, completions, triggers, _⟩ := Compiler.plan_emits planned
    simp [net, triggers]
  exact ⟨net, rfl, rfl, keyed, meant, nonempty,
    holds fun trigger member => (meant.compiled trigger member).ordered, leads, announces⟩

namespace Worker

variable {reading : Reading} {draft : Draft} {around : Surroundings} {data : Json}

/-- A decoded workflow that was deployed is run as it is interpreted. -/
theorem exists_runs (decoded : Level.decoder reading draft = .ok workflow)
    (decides : workflow.Throughout Level.Decides)
    (deployed : Deployed compiler workflow initial space around.documents)
    (staged : Staged around space topic ⟨initial, data⟩) (id : String) {settings : WorkerSettings}
    (limited : 0 < settings.maxIdlePolls) :
    ∃ fired outcome, (created id space settings).Runs around topic ⟨initial, data⟩ fired outcome ∧
      ∀ subject output, ⟨subject, output⟩ ∈ fired ↔ ∃ start, data.relayed? = some start ∧
        Announces Json.relayed? compiler.sequence workflow start subject output := by
  obtain ⟨net, first, relays, keyed, sound, nonempty, holds, leads, announces⟩ :=
    deployed.exists_net decoded decides data
  rw [← first] at staged ⊢
  obtain ⟨fired, outcome, runs, spreads⟩ :=
    runs_of_staged keyed sound relays leads nonempty holds staged id limited
  exact ⟨fired, outcome, runs, fun subject output =>
    (spreads subject output).trans (announces subject output)⟩

/-! ## One namespace -/

/-- The documents of a namespace that reads a topic in memory and holds no triggers. -/
def founded : Documents :=
  Call.writeNamespace [] "demo" [("namespace", .string "demo")] (some ⟨"m", .memory "t"⟩)

/-- The documents after a workflow was compiled and committed into this namespace. -/
def deployInto (documents : Documents) (workflow : Level) : Option Documents :=
  match (TriggerStore.vacant.compile {} workflow "$init").perform { documents } with
  | (.ok (_, _, full), middle) =>
    match full.commit.perform middle with
    | (.ok _, after) =>
      if "$init" ∈ full.held.map Trigger.id then none else some after.documents
    | (.error _, _) => none
  | (.error _, _) => none

/-- The documents after this was done while the namespace held no triggers. -/
def deploy (workflow : Level) : Option Documents :=
  deployInto founded workflow

/-- The workflow is deployed, and an initial event with this data is all that the topic
holds. -/
def stage (workflow : Level) (data : Json) : Surroundings where
  documents := (deploy workflow).getD []
  hub := (Hub.publish [] "t" (Announcement.raw ⟨"$init", data⟩)).2

/-- A workflow that goes into the namespace was compiled and committed, and none of its
triggers is named as the initial event. -/
theorem exists_of_deployInto {documents after : Documents}
    (deploys : deployInto documents workflow = some after) :
    ∃ id planner full middle answer last,
      (TriggerStore.vacant.compile {} workflow "$init").perform { documents } =
        (.ok (id, planner, full), middle) ∧
      full.commit.perform middle = (.ok answer, last) ∧
      "$init" ∉ full.held.map Trigger.id ∧ last.documents = after := by
  unfold deployInto at deploys
  split at deploys
  · next id planner full middle compiled =>
    split at deploys
    · next answer last committed =>
      split at deploys
      · cases deploys
      · next fresh =>
        exact ⟨id, planner, full, middle, answer, last, compiled, committed, fresh, Option.some.inj deploys⟩
    · cases deploys
  · cases deploys

/-- The workflow reads the topic of the namespace that it goes into, whatever else is
stored there. -/
theorem staged_of_deployInto {documents after : Documents}
    (source : loadSource documents "demo" = .ok ⟨"m", .memory "t"⟩)
    (shown : loadGlobalContext documents "demo" = .ok [("namespace", .string "demo")])
    (deploys : deployInto documents workflow = some after) {around : Surroundings} (data : Json)
    (there : around.documents = after)
    (log : around.hub.topic "t" = { log := [payload ⟨"$init", data⟩] })
    (cancelled : around.cancelled = false) : Staged around "demo" "t" ⟨"$init", data⟩ := by
  obtain ⟨_, _, _, _, _, last, compiled, committed, -, rfl⟩ := exists_of_deployInto deploys
  obtain ⟨_, _, _, _, stored⟩ :=
    TriggerStore.stored_of_deploy rfl rfl rfl rfl rfl compiled committed
  refine ⟨⟨⟨"m", .memory "t"⟩, ?_, rfl⟩, ⟨[("namespace", .string "demo")], ?_, by decide⟩, log, cancelled⟩
  · rw [there, ← source]
    unfold loadSource Documents.load?
    rw [Call.get?_of_store stored (by decide) (by decide)]
  · rw [there, ← shown]
    unfold loadGlobalContext Documents.load?
    rw [Call.get?_of_store stored (by decide) (by decide)]

/-- A workflow that goes into the namespace is deployed, and staged with any data. -/
theorem staged_of_deploy (workflow : Level) (deploys : (deploy workflow).isSome) (data : Json) :
    Deployed {} workflow "$init" "demo" (stage workflow data).documents ∧
      Staged (stage workflow data) "demo" "t" ⟨"$init", data⟩ := by
  obtain ⟨documents, deploys⟩ := Option.isSome_iff_exists.mp deploys
  have there : (stage workflow data).documents = documents := congrArg (Option.getD · []) deploys
  refine ⟨?_, staged_of_deployInto rfl rfl deploys data there rfl rfl⟩
  obtain ⟨_, _, _, _, _, _, compiled, committed, fresh, rfl⟩ := exists_of_deployInto deploys
  exact there ▸ .intro rfl rfl rfl rfl rfl rfl compiled fresh committed

/-- Data that makes the sample run both branches. -/
def checked : Json := .object [("ok", .bool true)]

/-- The sample is decoded from its own text. -/
theorem decoder_sample :
    Level.decoder .value (Draft.ofJson (encodeLevel Level.sample)) = .ok Level.sample :=
  rfl

/-- The sample goes into the namespace. -/
theorem staged_sample :
    Deployed {} Level.sample "$init" "demo" (stage Level.sample checked).documents ∧
      Staged (stage Level.sample checked) "demo" "t" ⟨"$init", checked⟩ :=
  staged_of_deploy Level.sample (by decide +kernel) checked

/-- The sample finishes with what both branches and the iterator leave of its data. -/
theorem finishes_sample {relay : Relay} (one : relay checked = some checked)
    (both : relay (.array [checked, checked]) = some (.array [checked, checked])) :
    Finishes relay Level.sample checked (.array [checked, checked]) := by
  have branches : Visits relay Level.sample checked "Both" checked :=
    .choice .start rfl rfl (by rfl)
  have joins : ∀ state, Level.sample.state? "Both" = some state →
      Yields relay state checked (.array [checked, checked]) := by
    rintro _ ⟨⟩
    refine .join rfl (show Gathers relay _ checked [checked, checked] from .cons ?left one
      (.cons ?right one .nil))
    case left => exact .close .start rfl rfl (.pass rfl) one
    case right => exact .close (.choice .start rfl rfl rfl) rfl rfl (.pass rfl) one
  have each : Visits relay Level.sample checked "Each" (.array [checked, checked]) :=
    .next branches rfl (by decide) rfl (joins _ rfl) both
  exact .close each rfl rfl
    (.map rfl rfl both (.close .start rfl rfl (.work (.inl rfl)) both)) both

/-! ## Runs and interpretations -/

/-- The run of a deployed workflow fires what the interpretation announces that reads all
data back from the log. Where all of it is read back unchanged, this is what the workflow
announces by itself. -/
theorem run_as_interpreted (decoded : Level.decoder reading draft = .ok workflow)
    (decides : workflow.Throughout Level.Decides)
    (deployed : Deployed compiler workflow initial space around.documents)
    (staged : Staged around space topic ⟨initial, data⟩) (id : String) {settings : WorkerSettings}
    (limited : 0 < settings.maxIdlePolls) :
    ∃ fired outcome, (created id space settings).Runs around topic ⟨initial, data⟩ fired outcome ∧
      (∀ subject output, ⟨subject, output⟩ ∈ fired ↔ ∃ start, data.relayed? = some start ∧
        Announces Json.relayed? compiler.sequence workflow start subject output) ∧
      (data.relayed? = some data →
        (∀ subject output, Announces some compiler.sequence workflow data subject output →
          output.relayed? = some output) →
        ∀ subject output, ⟨subject, output⟩ ∈ fired ↔
          Announces some compiler.sequence workflow data subject output) := by
  obtain ⟨fired, outcome, runs, announced⟩ :=
    exists_runs decoded decides deployed staged id limited
  refine ⟨fired, outcome, runs, announced, fun starts agrees subject output => ?_⟩
  have same : SameMeaning some Json.relayed? compiler.sequence workflow data :=
    Agrees.sameMeaning agrees
  rw [announced, starts, same.announces]
  simp

/-- The sample runs both branches and the iterator, and closes with both results. -/
theorem sample_run_as_interpreted :
    Level.decoder .value (Draft.ofJson (encodeLevel Level.sample)) = .ok Level.sample ∧
    Level.sample.Throughout Level.Decides ∧
    Deployed {} Level.sample "$init" "demo" (stage Level.sample checked).documents ∧
    Staged (stage Level.sample checked) "demo" "t" ⟨"$init", checked⟩ ∧
    ∃ fired outcome, (created "w" "demo" { maxIdlePolls := 1 }).Runs (stage Level.sample checked) "t"
      ⟨"$init", checked⟩ fired outcome ∧ ⟨"StateMachine0", .array [checked, checked]⟩ ∈ fired := by
  obtain ⟨deployed, staged⟩ := staged_sample
  have ordered : checked.Ordered := ⟨.cons (by simp) .nil, trivial, trivial⟩
  have one : checked.relayed? = some checked :=
    Json.relayed?_of_fits ordered ⟨trivial, trivial⟩
  have both : (Json.array [checked, checked]).relayed? = some (.array [checked, checked]) :=
    Json.relayed?_of_fits ⟨ordered, ordered, trivial⟩ ⟨⟨trivial, trivial⟩, ⟨trivial, trivial⟩, trivial⟩
  have limited : 0 < ({ maxIdlePolls := 1 } : WorkerSettings).maxIdlePolls := Nat.one_pos
  obtain ⟨fired, outcome, runs, announced, -⟩ :=
    run_as_interpreted decoder_sample Level.sample_decides deployed staged "w" limited
  exact ⟨decoder_sample, Level.sample_decides, deployed, staged, fired, outcome, runs,
    (announced _ _).mpr ⟨checked, one, .close (finishes_sample one both)⟩⟩

end Worker

/-! ## Data that is lost on the way -/

/-- A place that lies deeper than a text can be nested. -/
def depths : String :=
  String.ofList ('$' :: (List.replicate 130 ['.', 'a']).flatten)

/-- A state that writes its result there, and one behind it. -/
def Level.deep : Level where
  comment := none
  startAt := "A"
  states := [
    ("A", { State.ofKind .pass with
      next := some "B"
      extra := [("Result", .nat 1), ("ResultPath", .string depths)] }),
    ("B", { State.ofKind .pass with ends := true })]

/-- What is written there is lost in the log. -/
theorem relayed?_depths : (Json.write (.object []) depths (.nat 1)).relayed? = none := by
  have segments : Path.writeSegments depths = List.replicate 130 "a" := by
    unfold Path.writeSegments depths
    rw [String.toList_ofList]
    decide +kernel
  rw [Json.write, segments, Json.relayed?_eq, ← Option.isNone_iff_eq_none]
  decide +kernel

/-- Both states only pass data on. -/
theorem Level.passes_deep : ∀ entry ∈ deep.states, entry.2.kind = .pass := by
  decide

/-- The first state yields its result deep inside of its data. -/
theorem Level.output_deep {state : State} (found : deep.state? "A" = some state) (data : Json) :
    state.output data = data.write depths (.nat 1) := by
  cases found
  rfl

/-- Only the first state leads anywhere, with what the relay leaves of its result. -/
theorem moves_deep {relay : Relay} {here there : String × Json} (moves : Moves relay .deep here there) :
    here.1 = "A" ∧ there.1 = "B" ∧ relay (here.2.write depths (.nat 1)) = some there.2 := by
  obtain ⟨state, found, leads⟩ := moves
  have follows : ∀ entry ∈ Level.deep.states, ∀ name, entry.2.next = some name →
      entry.1 = "A" ∧ name = "B" := by
    simp [Level.deep, State.ofKind]
  have listed := Level.mem_states_of_state? found
  have kind : state.kind = .pass := Level.passes_deep _ listed
  rcases leads with ⟨chooses, -⟩ | ⟨-, following, output, yields, relayed⟩
  · rw [kind] at chooses
    cases chooses
  · obtain ⟨first, second⟩ := follows _ listed _ following
    rw [yields_pass_iff kind] at yields
    subst yields
    exact ⟨first, second, Level.output_deep (first ▸ found) here.2 ▸ relayed⟩

/-- Only the two states and the level itself are announced. -/
theorem subject_of_announces_deep {relay : Relay} {start : Json} {subject : String} {output : Json}
    (announces : Announces relay 0 .deep start subject output) :
    subject ∈ [Plan.closingId 0, "A", "B"] := by
  rcases announces_iff.mp announces with
    ⟨rfl, -⟩ | ⟨name, state, data, found, -, ⟨rfl, -⟩ | ⟨index, sub, _, planned, -⟩⟩
  · exact List.mem_cons_self
  · have declared : subject ∈ Level.deep.states.map Prod.fst :=
      List.mem_map_of_mem (Level.mem_states_of_state? found)
    exact List.mem_cons_of_mem _ declared
  · rw [State.sublevels, Level.passes_deep _ (Level.mem_states_of_state? found)] at planned
    cases planned

/-- If the result of the first state is lost, the second one announces nothing. -/
theorem not_announces_deep {relay : Relay} {start : Json}
    (lost : relay (start.write depths (.nat 1)) = none) (output : Json) :
    ¬Announces relay 0 .deep start "B" output := by
  intro announces
  rcases announces_iff.mp announces with
    ⟨closing, -⟩ | ⟨name, state, data, found, entered, ⟨own, -⟩ | ⟨index, sub, _, planned, -⟩⟩
  · exact absurd closing (by decide)
  · subst own
    rcases visits_cases_iff.mp entered with ⟨first, -⟩ | ⟨previous, before, earlier, moves⟩
    · exact absurd first (by decide)
    · obtain ⟨first, -, relayed⟩ := moves_deep moves
      rcases visits_cases_iff.mp earlier with ⟨-, same⟩ | ⟨_, _, -, again⟩
      · subst same
        rw [lost] at relayed
        cases relayed
      · exact absurd (first.symm.trans (moves_deep again).2.1) (by decide)
  · rw [State.sublevels, Level.passes_deep _ (Level.mem_states_of_state? found)] at planned
    cases planned

namespace Worker

/-- By itself the second state announces its completion, but no run fires it. -/
theorem second_not_fired :
    Level.decoder .value (Draft.ofJson (encodeLevel Level.deep)) = .ok Level.deep ∧
    Level.deep.Throughout Level.Decides ∧
    Deployed {} Level.deep "$init" "demo" (stage Level.deep (.object [])).documents ∧
    Staged (stage Level.deep (.object [])) "demo" "t" ⟨"$init", .object []⟩ ∧
    (∃ output, Announces some 0 Level.deep (.object []) "B" output) ∧
    ∀ fired outcome, (created "w" "demo" { maxIdlePolls := 1 }).Runs (stage Level.deep (.object [])) "t"
      ⟨"$init", .object []⟩ fired outcome → "B" ∉ fired.map Announcement.subject := by
  have decoded : Level.decoder .value (Draft.ofJson (encodeLevel Level.deep)) = .ok Level.deep := rfl
  have decides : Level.deep.Throughout Level.Decides := by
    refine .intro (fun name state declared chooses => ?_) fun name state declared sub planned => ?_
    · cases chooses.symm.trans (Level.passes_deep _ declared)
    · rw [State.sublevels, Level.passes_deep _ declared] at planned
      cases planned
  obtain ⟨deployed, staged⟩ := staged_of_deploy Level.deep (by decide +kernel) (.object [])
  refine ⟨decoded, decides, deployed, staged, ⟨_, .state (.next .start rfl (by decide) rfl (.pass rfl) rfl)
    rfl (by decide) (.pass rfl)⟩, fun fired outcome runs member => ?_⟩
  have limited : 0 < ({ maxIdlePolls := 1 } : WorkerSettings).maxIdlePolls := Nat.one_pos
  obtain ⟨other, _, others, announced⟩ := exists_runs decoded decides deployed staged "w" limited
  rw [runs.same others] at member
  obtain ⟨⟨_, output⟩, listed, rfl⟩ := List.mem_map.mp member
  obtain ⟨start, relayed, announces⟩ := (announced _ output).mp listed
  have starts : (Json.object []).relayed? = some (.object []) :=
    Json.relayed?_of_fits ⟨.nil, trivial⟩ trivial
  rw [starts] at relayed
  cases relayed
  exact not_announces_deep relayed?_depths output announces

/-! ## Company in the namespace -/

/-- A trigger that waits for the initial event, as the first ones of a workflow do. -/
def onlooker : Trigger where
  id := "Onlooker"
  condition := Vocabulary.holds
  action := Vocabulary.pass
  context := []
  dependencies := [.completion "$init"]
  transient := false

/-- The documents of the namespace after this trigger was stored there. -/
def attended : Documents :=
  (Call.store founded "demo" [onlooker]).toOption.getD []

/-- The workflow goes into this namespace, and is started there. -/
def company : Surroundings where
  documents := (deployInto attended Level.deep).getD []
  hub := (Hub.publish [] "t" (Announcement.raw ⟨"$init", .object []⟩)).2

/-- The event source and the global context are still there, so the workflow is staged. -/
theorem staged_company :
    deployInto attended Level.deep = some company.documents ∧
      Staged company "demo" "t" ⟨"$init", .object []⟩ := by
  have goes : (deployInto attended Level.deep).isSome := by decide +kernel
  obtain ⟨documents, deploys⟩ := Option.isSome_iff_exists.mp goes
  obtain rfl : company.documents = documents := congrArg (Option.getD · []) deploys
  have stored : Call.store founded "demo" [onlooker] = .ok attended := rfl
  refine ⟨deploys, staged_of_deployInto ?_ ?_ deploys _ rfl rfl rfl⟩
  · unfold loadSource Documents.load?
    rw [Call.get?_of_store stored (by decide) (by decide)]
    rfl
  · unfold loadGlobalContext Documents.load?
    rw [Call.get?_of_store stored (by decide) (by decide)]
    rfl

/-- A run can differ from what the workflow announces by itself. The second state announces its
completion, but is not fired where the data on the way to it is lost. A trigger that the
namespace held before is fired, though the workflow does not announce it. -/
theorem runs_otherwise :
    Level.decoder .value (Draft.ofJson (encodeLevel Level.deep)) = .ok Level.deep ∧
    Level.deep.Throughout Level.Decides ∧
    (Deployed {} Level.deep "$init" "demo" (stage Level.deep (.object [])).documents ∧
      Staged (stage Level.deep (.object [])) "demo" "t" ⟨"$init", .object []⟩ ∧
      (∃ output, Announces some 0 Level.deep (.object []) "B" output) ∧
      ∀ fired outcome, (created "w" "demo" { maxIdlePolls := 1 }).Runs (stage Level.deep (.object [])) "t"
        ⟨"$init", .object []⟩ fired outcome → "B" ∉ fired.map Announcement.subject) ∧
    deployInto attended Level.deep = some company.documents ∧
    Staged company "demo" "t" ⟨"$init", .object []⟩ ∧
    (∀ output, ¬Announces some 0 Level.deep (.object []) "Onlooker" output) ∧
    ∀ fuel, 1 ≤ fuel →
      "Onlooker" ∈ (created "w" "demo" { maxIdlePolls := 1 }).firings fuel company := by
  obtain ⟨decoded, decides, lost⟩ := second_not_fired
  obtain ⟨deploys, staged⟩ := staged_company
  have first : "Onlooker" ∈ (created "w" "demo" { maxIdlePolls := 1 }).firings 1 company := by
    decide +kernel
  refine ⟨decoded, decides, lost, deploys, staged, fun output announces => ?_, fun fuel more => ?_⟩
  · exact absurd (subject_of_announces_deep announces) (by decide)
  · have onward := firings_prefix more (created "w" "demo" { maxIdlePolls := 1 }) company
    exact onward.subset first

end Worker

end EventFlow
