import Mathlib.Logic.Function.Basic
import Mathlib.Logic.Relation
import EventFlow.Proofs.Api.Committing
import EventFlow.Proofs.Api.Consistency
import EventFlow.Proofs.Engine.Builtins
import EventFlow.Proofs.Engine.Refresh

/-!
# Sites

Calls and workers write into the same documents. A site is the documents of all namespaces
with the workers on them, one at a time on a namespace: anybody may perform calls, and a
worker takes up the stored triggers and deletes the transient ones that have fired. At any
time the documents of a namespace agree, and what its worker knows of a trigger is what is
stored of it.
-/

namespace EventFlow

/-! ## Workers on a namespace -/

/-- A worker at work on a namespace, and the ids of the triggers that it had loaded when the
namespace was deleted. -/
structure Resident where
  worker : Worker
  stale : List String := []

namespace Resident

/-- When the namespace is deleted, all that its worker has loaded is stale. -/
def age (resident : Resident) : Resident :=
  { resident with stale := Dict.keys resident.worker.triggers ++ resident.stale }

/-- What a worker does, with the documents after it. -/
inductive Step (documents : Documents) : Resident → Resident → Documents → Prop where
  /-- The stored triggers are taken up. -/
  | refresh {resident : Resident} :
      Step documents resident
        { resident with worker := (resident.worker.refresh documents).2 } documents
  /-- Something happens that concerns neither the working copy nor the documents. -/
  | tend {resident : Resident} {worker : Worker} (space : worker.space = resident.worker.space)
      (copy : worker.triggers = resident.worker.triggers) :
      Step documents resident { resident with worker } documents
  /-- A trigger is settled, whatever its handlers have left. Nothing stale is settled that
  has to be deleted. -/
  | settle {resident : Resident} {id : String} {trigger : Trigger} {done : Handled Unit}
      (found : Dict.get? resident.worker.triggers id = some trigger)
      (here : done.around.documents = documents)
      (current : trigger.transient = true → id ∉ resident.stale) :
      Step documents resident
        { resident with worker := (resident.worker.settle id trigger done).worker }
        (resident.worker.settle id trigger done).around.documents
  /-- The status of the worker is written. -/
  | report {resident : Resident} :
      Step documents resident resident (resident.worker.saveStatus documents)

/-- A worker in touch with its namespace: whatever it has loaded and is not stale is still
stored under its id, with the dependencies that it had. -/
structure InTouch (documents : Documents) (space : String) (resident : Resident) : Prop where
  home : resident.worker.space = space
  own : ∀ id trigger, Dict.get? resident.worker.triggers id = some trigger → trigger.id = id
  stored : ∀ id trigger, Dict.get? resident.worker.triggers id = some trigger →
    id ∉ resident.stale → documents.Stores space id trigger.dependencies

variable {documents after : Documents} {resident next : Resident} {space : String}

/-- A worker stays in touch with documents in which nothing is missing. -/
theorem InTouch.mono (inTouch : resident.InTouch documents space)
    (kept : ∀ id dependencies, documents.Stores space id dependencies →
      after.Stores space id dependencies) : resident.InTouch after space :=
  { inTouch with
    stored := fun id trigger found live => kept id _ (inTouch.stored id trigger found live) }

/-- Where everything is stale a worker is in touch with anything. -/
theorem InTouch.age (inTouch : resident.InTouch documents space) :
    resident.age.InTouch after space :=
  { inTouch with
    stored := fun _ trigger found live => absurd
      (List.mem_append_left _ (Dict.mem_keys_iff.mpr ⟨trigger, found⟩)) live }

/-- What a worker has after a refresh it had before, or it is stored like that. -/
theorem InTouch.known_or_stored (inTouch : resident.InTouch documents space)
    (sound : documents.Sound space) {id : String} {trigger : Trigger}
    (found : Dict.get? (resident.worker.refresh documents).2.triggers id = some trigger) :
    Dict.get? resident.worker.triggers id = some trigger ∨
      (trigger.id = id ∧ documents.Stores space id trigger.dependencies) := by
  refine (Worker.known_or_stored_of_refresh found).imp_right ?_
  rintro ⟨stored, loaded, member⟩
  rw [inTouch.home] at loaded
  rcases sound with vacant | ⟨_, consistent⟩
  · rw [Documents.loadTriggers, Documents.load?, vacant Documents.triggers (by decide)] at loaded
    cases loaded
    cases member
  · obtain ⟨held, index, first, -, read, -, indexes⟩ := consistent.loads
    rw [first] at loaded
    cases loaded
    have found := Dict.get?_of_mem indexes.ordered.nodup member
    exact ⟨indexes.own id trigger found, _, trigger, read, found, rfl⟩

/-- A worker that takes up what is stored stays in touch. -/
theorem InTouch.refresh (inTouch : resident.InTouch documents space)
    (sound : documents.Sound space) :
    InTouch documents space
      { resident with worker := (resident.worker.refresh documents).2 } where
  home := (resident.worker.refresh_same documents).1.trans inTouch.home
  own id trigger found := by
    rcases inTouch.known_or_stored sound found with known | ⟨own, _⟩
    · exact inTouch.own id trigger known
    · exact own
  stored id trigger found live := by
    rcases inTouch.known_or_stored sound found with known | ⟨_, stored⟩
    · exact inTouch.stored id trigger known live
    · exact stored

/-- A worker that settles a trigger deletes it as it is stored, or deletes nothing: the
namespace stays sound and the worker in touch. -/
theorem InTouch.settle (inTouch : resident.InTouch documents space)
    (sound : documents.Sound space) {id : String} {trigger : Trigger} {done : Handled Unit}
    (found : Dict.get? resident.worker.triggers id = some trigger)
    (here : done.around.documents = documents)
    (current : trigger.transient = true → id ∉ resident.stale) :
    (resident.worker.settle id trigger done).around.documents.Sound space ∧
      InTouch (resident.worker.settle id trigger done).around.documents space
        { resident with worker := (resident.worker.settle id trigger done).worker } := by
  obtain ⟨-, -, -, -, home⟩ := resident.worker.settle_eq id trigger done
  have own := inTouch.own id trigger found
  obtain ⟨others, outcome⟩ := Worker.settle_cases own found done
  rw [here, inTouch.home] at outcome
  rcases outcome with ⟨transient, gone, deleted⟩ | ⟨-, ⟨context, stays⟩, untouched⟩
  · have stored := inTouch.stored id trigger found (current transient)
    rw [← own] at stored
    obtain ⟨remains, kept⟩ := sound.forget stored
    rw [deleted]
    refine ⟨remains, home.trans inTouch.home, fun other held known => ?_,
      fun other held known live => ?_⟩
    all_goals
      have different : other ≠ id := by
        rintro rfl
        rw [gone] at known
        cases known
      rw [others other different] at known
    · exact inTouch.own other held known
    · exact kept other _ (own ▸ different) (inTouch.stored other held known live)
  · have known : ∀ other held,
        Dict.get? (resident.worker.settle id trigger done).worker.triggers other = some held →
          ∃ before, Dict.get? resident.worker.triggers other = some before ∧
            held.id = before.id ∧ held.dependencies = before.dependencies := by
      intro other held known
      by_cases same : other = id
      · subst same
        rw [stays] at known
        cases known
        exact ⟨trigger, found, rfl, rfl⟩
      · exact ⟨held, others other same ▸ known, rfl, rfl⟩
    rw [untouched]
    refine ⟨sound, home.trans inTouch.home, fun other held now => ?_, fun other held now live => ?_⟩
    · obtain ⟨before, earlier, id, -⟩ := known other held now
      exact id.trans (inTouch.own other before earlier)
    · obtain ⟨before, earlier, -, waits⟩ := known other held now
      rw [waits]
      exact inTouch.stored other before earlier live

/-- The name of a status is none of the names of the shared documents. -/
theorem workerStatus_ne (worker : String) {name : String} (member : name ∈ Documents.shared) :
    Documents.workerStatus worker ≠ name := by
  intro same
  have first : name.toList.head? = some 'w' := by
    rw [← same, Documents.workerStatus, String.toList_append]
    rfl
  simp only [Documents.shared, List.mem_cons, List.not_mem_nil, or_false] at member
  rcases member with rfl | rfl | rfl | rfl | rfl <;> revert first <;> decide

/-- Whatever its worker does, a namespace stays sound and the worker in touch with it. -/
theorem Step.inTouch (step : Step documents resident next after)
    (inTouch : resident.InTouch documents space) (sound : documents.Sound space) :
    after.Sound space ∧ next.InTouch after space := by
  cases step with
  | refresh => exact ⟨sound, inTouch.refresh sound⟩
  | tend home copy =>
    refine ⟨sound, home.trans inTouch.home, ?_, ?_⟩
    · rw [copy]
      exact inTouch.own
    · rw [copy]
      exact inTouch.stored
  | settle found here current => exact inTouch.settle sound found here current
  | report =>
    have same : ∀ name ∈ Documents.shared,
        (resident.worker.saveStatus documents).get? space name = documents.get? space name := by
      intro name member
      rw [← inTouch.home]
      exact Documents.get?_put_of_name_ne _ _ _ (workerStatus_ne _ member)
    exact ⟨sound.congr same, inTouch.mono fun _ _ => .congr (same _ (by decide))⟩

/-- A worker leaves the other namespaces. -/
theorem Step.get?_of_ne (step : Step documents resident next after) {other : String}
    (different : resident.worker.space ≠ other) (name : String) :
    after.get? other name = documents.get? other name := by
  cases step with
  | refresh | tend => rfl
  | @settle id trigger done found here current =>
    rw [Worker.settle_of_found found]
    dsimp only
    split
    · exact (Documents.get?_forget_of_ne trigger different name).trans (by rw [here])
    · rw [here]
  | report => exact Documents.get?_put_of_space_ne _ _ _ _ different

end Resident

/-! ## Calls and workers together -/

/-- The documents of all namespaces, with the workers on them. -/
structure Site where
  documents : Documents := []
  residents : String → Option Resident := fun _ => none

namespace Site

variable {site next : Site} {space : String}

/-- Change a worker and the documents. -/
def seat (site : Site) (space : String) (resident : Resident) (documents : Documents) : Site where
  documents := documents
  residents := Function.update site.residents space (some resident)

/-- The worker that was changed is on its namespace. -/
theorem residents_seat_self (site : Site) (space : String) (resident : Resident)
    (documents : Documents) :
    (site.seat space resident documents).residents space = some resident :=
  Function.update_self _ _ _

/-- The workers on other namespaces stay. -/
theorem residents_seat_of_ne (site : Site) {space other : String} (resident : Resident)
    (documents : Documents) (different : space ≠ other) :
    (site.seat space resident documents).residents other = site.residents other :=
  Function.update_of_ne (Ne.symm different) _ _

/-- What was done last to a worker and the documents holds. -/
theorem seat_seat (site : Site) (space : String) (first second : Resident)
    (before after : Documents) :
    (site.seat space first before).seat space second after = site.seat space second after := by
  simp only [seat, Function.update_idem]

/-- The workers after a call that succeeded. What the worker on a namespace has loaded is
stale when the namespace is deleted. -/
def aged (site : Site) : Call → String → Option Resident
  | .deleteNamespace name =>
    Function.update site.residents name ((site.residents name).map Resident.age)
  | _ => site.residents

/-- Perform a call on the documents. -/
def perform (site : Site) (call : Call) : Site :=
  match (Transport.direct.perform call).perform { documents := site.documents } with
  | (.error _, around) => { site with documents := around.documents }
  | (.ok _, around) => { documents := around.documents, residents := site.aged call }

/-- What can happen at a site. -/
inductive Step (site : Site) : Site → Prop where
  | call (call : Call) : Step site (site.perform call)
  /-- A worker that has loaded nothing yet takes over a namespace. -/
  | hire {worker : Worker} (new : worker.triggers = []) :
      Step site (site.seat worker.space { worker } site.documents)
  /-- The worker on a namespace does something. -/
  | work {space : String} {resident next : Resident} {documents : Documents}
      (seated : site.residents space = some resident)
      (step : resident.Step site.documents next documents) :
      Step site (site.seat space next documents)

/-- Any number of steps. -/
abbrev Steps : Site → Site → Prop :=
  Relation.ReflTransGen Step

/-- Every namespace is sound, and its worker is in touch with it. -/
structure Sound (site : Site) : Prop where
  spaces : ∀ space, site.documents.Sound space
  residents : ∀ space resident, site.residents space = some resident →
    resident.InTouch site.documents space

/-- A call fails and changes nothing, or succeeds. -/
theorem perform_cases (site : Site) (call : Call) :
    site.perform call = site ∨ ∃ answer after, call.apply site.documents = .ok (answer, after) ∧
      site.perform call = { documents := after, residents := site.aged call } := by
  unfold perform
  rw [Transport.perform_direct]
  cases call.apply site.documents with
  | error cause => exact .inl rfl
  | ok both => exact .inr ⟨both.1, both.2, rfl, rfl⟩

/-- After a call a worker has grown old, or it is as before and its namespace was not
deleted. -/
theorem aged_cases {call : Call} {resident : Resident}
    (seated : site.aged call space = some resident) :
    (∃ before, site.residents space = some before ∧ resident = before.age) ∨
      (site.residents space = some resident ∧ call ≠ .deleteNamespace space) := by
  cases call with
  | deleteNamespace name =>
    by_cases here : name = space
    · subst here
      rw [aged, Function.update_self] at seated
      obtain ⟨before, earlier, rfl⟩ := Option.map_eq_some_iff.mp seated
      exact .inl ⟨before, earlier, rfl⟩
    · rw [aged, Function.update_of_ne (Ne.symm here)] at seated
      exact .inr ⟨seated, by simpa using here⟩
  | createNamespace | registerSource | storeTriggers => exact .inr ⟨seated, nofun⟩

/-- A site stays sound with any call. -/
theorem Sound.perform (sound : site.Sound) (call : Call) : (site.perform call).Sound := by
  rcases site.perform_cases call with same | ⟨answer, after, applied, performed⟩
  · rw [same]
    exact sound
  · have changes := Call.changes_of_apply applied
    rw [performed]
    constructor
    · intro space
      by_cases here : call.space = space
      · subst here
        exact changes.sound (sound.spaces _)
      · exact (sound.spaces space).congr fun name _ => changes.get?_of_ne here name
    · intro space resident seated
      rcases aged_cases seated with ⟨before, earlier, rfl⟩ | ⟨unchanged, lives⟩
      · exact (sound.residents space before earlier).age
      · refine (sound.residents space resident unchanged).mono fun _ _ stores => ?_
        by_cases here : call.space = space
        · subst here
          exact changes.stores (sound.spaces _) lives stores
        · exact stores.congr (changes.get?_of_ne here _)

/-- A site stays sound if the documents of one namespace have changed and its worker is in
touch with them. -/
theorem Sound.seat (sound : site.Sound) {resident : Resident} {documents : Documents}
    (others : ∀ other, space ≠ other → ∀ name,
      documents.get? other name = site.documents.get? other name)
    (remains : documents.Sound space) (inTouch : resident.InTouch documents space) :
    (site.seat space resident documents).Sound where
  spaces other := by
    by_cases here : space = other
    · subst here
      exact remains
    · exact (sound.spaces other).congr fun name _ => others other here name
  residents other held seated := by
    by_cases here : space = other
    · subst here
      rw [residents_seat_self] at seated
      cases seated
      exact inTouch
    · rw [site.residents_seat_of_ne _ _ here] at seated
      exact (sound.residents other held seated).mono fun _ _ => .congr (others other here _)

/-- A site stays sound with every step. -/
theorem Step.sound (step : Step site next) (sound : site.Sound) : next.Sound := by
  cases step with
  | call call => exact sound.perform call
  | @hire worker new =>
    have nothing : ∀ id trigger, Dict.get? worker.triggers id ≠ some trigger := by
      simp [new]
    exact sound.seat (fun _ _ _ => rfl) (sound.spaces _)
      ⟨rfl, fun id trigger found => absurd found (nothing id trigger),
        fun id trigger found => absurd found (nothing id trigger)⟩
  | @work space resident _ _ seated step =>
    have inTouch := sound.residents space resident seated
    obtain ⟨remains, stays⟩ := step.inTouch inTouch (sound.spaces space)
    exact sound.seat (fun other different => step.get?_of_ne (inTouch.home ▸ different))
      remains stays

/-- A site without documents is sound. -/
theorem sound_empty : Sound {} where
  spaces _ := .inl fun _ _ => rfl
  residents _ _ seated := by cases seated

/-- A site that has grown from nothing is sound. -/
theorem sound_of_steps (reached : Steps {} site) : site.Sound := by
  induction reached with
  | refl => exact sound_empty
  | tail _ step ih => exact step.sound ih

/-- Whatever calls and workers have done in whatever order, the documents of every namespace
that is there agree: the index lists exactly the stored triggers, each under its subjects,
and the event source that is read from is the one that is kept under its name. -/
theorem documents_consistent (reached : Steps {} site)
    (present : site.documents.spaceExists space = true) : site.documents.Consistent space :=
  ((sound_of_steps reached).spaces space).consistent present

/-- A turn of a trigger is made of steps, with handlers that leave the documents. -/
theorem steps_turn {resident : Resident} (seated : site.residents space = some resident)
    (leaves : resident.worker.registry.Leaves Surroundings.documents) (id : String) (event : Json)
    {around : Surroundings} (here : around.documents = site.documents)
    (current : ∀ trigger, Dict.get? resident.worker.triggers id = some trigger →
      trigger.transient = true → id ∉ resident.stale) :
    Steps site (site.seat space
      { resident with worker := (resident.worker.fire id event around).worker }
      (resident.worker.fire id event around).around.documents) := by
  have tend : ∀ {worker : Worker}, worker.space = resident.worker.space →
      worker.triggers = resident.worker.triggers →
        Step site (site.seat space { resident with worker } site.documents) :=
    fun home copy => .work seated (.tend home copy)
  unfold Worker.fire
  split
  · rw [here]
    exact .single (tend rfl rfl)
  · rename_i trigger found
    split
    · rcases (resident.worker.activate id).evaluate_performed_or id trigger event around with
        ⟨done, settled, -, left⟩ | ⟨-, same, -, left⟩
      · let counted : Resident := { resident with worker := resident.worker.activate id }
        have settle : Resident.Step site.documents counted
            { counted with worker := (counted.worker.settle id trigger done).worker }
            (counted.worker.settle id trigger done).around.documents :=
          .settle found ((left leaves).trans here) (current trigger found)
        have count : Step site (site.seat space counted site.documents) := tend rfl rfl
        rw [settled, ← site.seat_seat space counted _ site.documents]
        exact (Relation.ReflTransGen.single count).tail
          (.work (site.residents_seat_self space counted _) settle)
      · rw [same, left leaves, here]
        exact .single (tend rfl rfl)
    · rw [here]
      exact .single (tend rfl rfl)

/-- A trigger that is to fire once, and depends on a subject in two ways. -/
def guestTrigger : Trigger where
  id := "guest"
  condition := Vocabulary.holds
  action := Vocabulary.pass
  context := []
  dependencies := [⟨"left", "done"⟩, ⟨"left", "done"⟩]
  transient := true

/-- A trigger that stays. -/
def hostTrigger : Trigger :=
  { guestTrigger with
    id := "host", dependencies := [⟨"left", "done"⟩, ⟨"right", "done"⟩], transient := false }

/-- A namespace with an event source and both triggers. -/
def openedSite : Site :=
  (({} : Site).perform (.createNamespace "demo" [] (some ⟨"log", .memory "events"⟩))).perform
    (.storeTriggers "demo" [guestTrigger, hostTrigger])

/-- A worker with the built-in handlers that has loaded nothing yet. -/
def hiredWorker : Worker where
  id := "worker"
  space := "demo"

/-- The event that both triggers wait for. -/
def leftEvent : Json :=
  EventKey.toRaw ⟨"left", "done"⟩ .null

/-- The worker has taken up the triggers and got the event. -/
def waitingWorker : Worker :=
  (hiredWorker.refresh openedSite.documents).2.receive ⟨"left", "done"⟩ leftEvent

/-- The first trigger has fired. -/
def firedSite : Site :=
  let firing := waitingWorker.fire "guest" leftEvent { documents := openedSite.documents }
  openedSite.seat "demo" { worker := firing.worker } firing.around.documents

/-- It is stored again, and depends on something else. -/
def returnedSite : Site :=
  firedSite.perform
    (.storeTriggers "demo" [{ guestTrigger with dependencies := [⟨"right", "done"⟩] }])

/-- The worker has deleted the trigger, or it could not have been stored again; the index
lists it where it depends now. -/
theorem sample_documents_consistent : Steps {} returnedSite ∧
    returnedSite.documents.spaceExists "demo" = true ∧
    returnedSite.documents.Consistent "demo" ∧
    (returnedSite.documents.loadIndex "demo").toOption =
      some [("left", ["host"]), ("right", ["host", "guest"])] := by
  have opened : Steps {} openedSite :=
    (Relation.ReflTransGen.single (.call _)).tail (.call _)
  have hired : Steps {} (openedSite.seat "demo" { worker := hiredWorker } openedSite.documents) :=
    opened.tail (@Step.hire openedSite hiredWorker rfl)
  have loaded := hired.tail (.work (openedSite.residents_seat_self _ _ _) .refresh)
  rw [seat_seat] at loaded
  have waiting := loaded.tail (.work (openedSite.residents_seat_self _ _ _)
    (.tend (show waitingWorker.space = _ from rfl) rfl))
  rw [seat_seat] at waiting
  have turn := steps_turn (openedSite.residents_seat_self "demo" { worker := waitingWorker } _)
    (Registry.keepsJoin_builtin.leaves _) "guest" leftEvent
    (show ({ documents := openedSite.documents } : Surroundings).documents = _ from rfl)
    fun _ _ _ => List.not_mem_nil
  rw [seat_seat] at turn
  have fired : Steps {} firedSite := waiting.trans turn
  have reached : Steps {} returnedSite := fired.tail (.call _)
  have present : returnedSite.documents.spaceExists "demo" = true := by decide +kernel
  exact ⟨reached, present, documents_consistent reached present, by decide +kernel⟩

end Site

end EventFlow
