import EventFlow.Engine.Worker
import EventFlow.Proofs.Api.Applied
import EventFlow.Proofs.Trigger.Indexed

/-!
# Consistent namespaces

What a namespace holds is spread over five documents: the global context, the triggers,
their index, the event sources by name, and the event source that workers read from.
Whoever writes into some of them finds all in agreement and leaves them so, be it a call or
a worker that deletes a transient trigger which has fired.
-/

namespace EventFlow

namespace Documents

/-- The documents of a namespace that are kept in agreement. -/
def shared : List String :=
  [globalContext, eventSource, eventSources, triggers, sourceEvents]

/-- A namespace of which nothing is left, apart from what workers have reported. -/
def Vacant (documents : Documents) (space : String) : Prop :=
  ∀ name ∈ shared, documents.get? space name = none

/-- A namespace whose documents agree: the index is one of the stored triggers, and the
event source that is read from is the one that is kept under its name. -/
structure Consistent (documents : Documents) (space : String) : Prop where
  indexed : ∃ stored index,
    documents.load? (Decode.dict Trigger.decoder) space triggers = .ok (some stored) ∧
      documents.load? SourceEvents.decoder space sourceEvents = .ok (some index) ∧
      index.Indexes stored
  source : ∀ document, documents.get? space eventSource = some document →
    ∃ name sources, document.get? "name" = some (.string name) ∧
      documents.get? space eventSources = some sources ∧ sources.get? name = some document

/-- A namespace is not there, or its documents agree. -/
def Sound (documents : Documents) (space : String) : Prop :=
  documents.Vacant space ∨ (documents.spaceExists space = true ∧ documents.Consistent space)

/-- A trigger with these dependencies is stored under an id. -/
def Stores (documents : Documents) (space id : String) (dependencies : List EventKey) : Prop :=
  ∃ stored trigger,
    documents.load? (Decode.dict Trigger.decoder) space triggers = .ok (some stored) ∧
      Dict.get? stored id = some trigger ∧ trigger.dependencies = dependencies

variable {documents after : Documents} {space id : String} {stored : Dict Trigger}
  {index : SourceEvents} {dependencies : List EventKey}

/-! ## Sound namespaces -/

/-- What a document decodes to depends on the document alone. -/
theorem load?_congr {α : Type} {decoder : Decoder α} {name : String}
    (same : after.get? space name = documents.get? space name) :
    after.load? decoder space name = documents.load? decoder space name := by
  unfold load?
  rw [same]

/-- A namespace that is there is consistent. -/
theorem Sound.consistent (sound : documents.Sound space)
    (present : documents.spaceExists space = true) : documents.Consistent space := by
  rcases sound with vacant | ⟨_, consistent⟩
  · rw [spaceExists, vacant globalContext (by decide)] at present
    cases present
  · exact consistent

/-- Of a namespace that is not there nothing is left. -/
theorem Sound.vacant (sound : documents.Sound space)
    (absent : documents.spaceExists space = false) : documents.Vacant space := by
  rcases sound with vacant | ⟨present, _⟩
  · exact vacant
  · rw [absent] at present
    cases present

/-- A consistent namespace may be given other event sources that agree. -/
theorem Consistent.withSource (consistent : documents.Consistent space)
    (present : documents.spaceExists space = true)
    (same : ∀ name ∈ [globalContext, triggers, sourceEvents],
      after.get? space name = documents.get? space name)
    (source : ∀ document, after.get? space eventSource = some document →
      ∃ name sources, document.get? "name" = some (.string name) ∧
        after.get? space eventSources = some sources ∧ sources.get? name = some document) :
    after.Sound space := by
  obtain ⟨stored, index, loaded, known, indexes⟩ := consistent.indexed
  refine .inr ⟨?_, ⟨⟨stored, index, ?_, ?_, indexes⟩, source⟩⟩
  · rw [spaceExists, same globalContext (by decide)]
    exact present
  · rw [load?_congr (same triggers (by decide)), loaded]
  · rw [load?_congr (same sourceEvents (by decide)), known]

/-- Where the documents of a namespace are the same, it is as sound. -/
theorem Sound.congr (same : ∀ name ∈ shared, after.get? space name = documents.get? space name)
    (sound : documents.Sound space) : after.Sound space := by
  rcases sound with vacant | ⟨present, consistent⟩
  · exact .inl fun name member => (same name member).trans (vacant name member)
  · have source := consistent.source
    rw [← same eventSource (by decide), ← same eventSources (by decide)] at source
    exact consistent.withSource present (fun name member => same name (by
      simp only [List.mem_cons, List.not_mem_nil, or_false] at member
      rcases member with rfl | rfl | rfl <;> decide)) source

/-- Where the document of the triggers is the same, the same is stored. -/
theorem Stores.congr (same : after.get? space triggers = documents.get? space triggers)
    (stores : documents.Stores space id dependencies) : after.Stores space id dependencies := by
  obtain ⟨stored, trigger, loaded, found, waits⟩ := stores
  exact ⟨stored, trigger, (load?_congr same).trans loaded, found, waits⟩

/-- Nothing is stored in a vacant namespace. -/
theorem Vacant.not_stores (vacant : documents.Vacant space) :
    ¬ documents.Stores space id dependencies := by
  rintro ⟨stored, _, loaded, _⟩
  rw [load?, vacant triggers (by decide)] at loaded
  cases loaded

/-! ## Rewriting the triggers and their index -/

/-- The documents with these triggers and this index in a namespace. -/
def rewritten (documents : Documents) (space : String) (stored : Dict Trigger)
    (index : SourceEvents) : Documents :=
  (documents.put space triggers (ofTriggers stored)).put space sourceEvents index.toJson

/-- Rewriting the triggers and their index leaves the other documents. -/
theorem get?_rewritten_of_ne {name : String} (first : triggers ≠ name)
    (second : sourceEvents ≠ name) :
    (documents.rewritten space stored index).get? space name = documents.get? space name := by
  rw [rewritten, get?_put_of_name_ne _ _ _ second, get?_put_of_name_ne _ _ _ first]

/-- The rewritten triggers can be read. -/
theorem load?_triggers_rewritten :
    (documents.rewritten space stored index).load? (Decode.dict Trigger.decoder) space triggers =
      .ok (some (Dict.ofList (stored.map fun entry => (entry.1, entry.2.ordered.ordered)))) := by
  refine load?_triggers_of_get? ?_
  rw [rewritten, get?_put_of_name_ne _ _ _ (by decide), get?_put_self]

/-- A namespace with rewritten triggers is sound if the index is one of them. -/
theorem Consistent.rewritten (consistent : documents.Consistent space)
    (present : documents.spaceExists space = true) (indexes : index.Indexes stored) :
    (documents.rewritten space stored index).Sound space := by
  refine .inr ⟨?_, ⟨⟨_, _, load?_triggers_rewritten,
    load?_index_of_get? (get?_put_self _ _ _ _), indexes.read⟩, ?_⟩⟩
  · rw [spaceExists, get?_rewritten_of_ne (by decide) (by decide)]
    exact present
  · rw [get?_rewritten_of_ne (by decide) (by decide), get?_rewritten_of_ne (by decide) (by decide)]
    exact consistent.source

/-- What is among the rewritten triggers is stored. -/
theorem stores_rewritten {trigger : Trigger} (indexes : index.Indexes stored)
    (found : Dict.get? stored id = some trigger) :
    (documents.rewritten space stored index).Stores space id trigger.dependencies := by
  refine ⟨_, trigger.ordered.ordered, load?_triggers_rewritten, ?_, rfl⟩
  rw [indexes.ordered.get?_ofList_map fun trigger => trigger.ordered.ordered, found]
  rfl

/-- Triggers and an index that can be read are loaded. -/
theorem Consistent.loads (consistent : documents.Consistent space) :
    ∃ stored index, documents.loadTriggers space = .ok stored ∧
      documents.loadIndex space = .ok index ∧
      documents.load? (Decode.dict Trigger.decoder) space triggers = .ok (some stored) ∧
      documents.load? SourceEvents.decoder space sourceEvents = .ok (some index) ∧
      index.Indexes stored := by
  obtain ⟨stored, index, loaded, known, indexes⟩ := consistent.indexed
  refine ⟨stored, index, ?_, ?_, loaded, known, indexes⟩
  · rw [loadTriggers, loaded]
    rfl
  · rw [loadIndex, known]
    rfl

/-- Deleting a trigger leaves the other namespaces. -/
theorem get?_forget_of_ne (trigger : Trigger) {other : String} (different : space ≠ other)
    (name : String) : (Worker.forget documents space trigger).get? other name =
      documents.get? other name := by
  unfold Worker.forget
  split
  · rfl
  · dsimp only
    split <;> split <;> simp only [get?_put_of_space_ne _ _ _ _ different]

/-- Deleting a stored trigger keeps a namespace sound, and all others stored. -/
theorem Sound.forget {trigger : Trigger} (sound : documents.Sound space)
    (stores : documents.Stores space trigger.id trigger.dependencies) :
    (Worker.forget documents space trigger).Sound space ∧
      ∀ other dependencies, other ≠ trigger.id → documents.Stores space other dependencies →
        (Worker.forget documents space trigger).Stores space other dependencies := by
  rcases sound with vacant | ⟨present, consistent⟩
  · exact absurd stores vacant.not_stores
  · obtain ⟨stored, index, first, -, loaded, known, indexes⟩ := consistent.loads
    obtain ⟨_, held, same, found, waits⟩ := stores
    rw [loaded] at same
    cases same
    have forgotten : Worker.forget documents space trigger =
        documents.rewritten space (Dict.erase stored trigger.id) (index.remove trigger) := by
      have kept : (documents.put space triggers
          (ofTriggers (Dict.erase stored trigger.id))).load? SourceEvents.decoder space
            sourceEvents = .ok (some index) :=
        (load?_congr (get?_put_of_name_ne _ _ _ (by decide))).trans known
      have stands : Dict.contains stored trigger.id = true := by simp [Dict.contains, found]
      simp only [Worker.forget, first, stands, if_true, kept]
      rfl
    have remaining := indexes.remove found waits
    rw [forgotten]
    refine ⟨consistent.rewritten present remaining, ?_⟩
    rintro other dependencies different ⟨_, kept, again, stands, rfl⟩
    rw [loaded] at again
    cases again
    refine stores_rewritten remaining ?_
    rw [Dict.get?_erase, if_neg (Ne.symm different)]
    exact stands

end Documents

/-! ## Calls -/

namespace Call

variable {call : Call} {documents after : Documents} {answer : Json}

/-- The namespace that a call is about. -/
def space : Call → String
  | .createNamespace name _ _ => name
  | .deleteNamespace name => name
  | .registerSource space _ _ => space
  | .storeTriggers space _ => space

/-- A batch of triggers with new ids is stored and listed. -/
theorem indexes_addAll {stored : Dict Trigger} {index : SourceEvents}
    (indexes : index.Indexes stored) {triggers : List Trigger} {taken : List String}
    (known : ∀ id, id ∉ taken → Dict.get? stored id = none)
    (free : firstTaken? taken triggers = none) :
    (triggers.foldl SourceEvents.add index).Indexes
        (triggers.foldl (fun stored trigger => Dict.insert stored trigger.id trigger) stored) ∧
      ∀ id trigger, Dict.get? stored id = some trigger →
        Dict.get? (triggers.foldl
          (fun stored trigger => Dict.insert stored trigger.id trigger) stored) id =
            some trigger := by
  induction triggers generalizing index stored taken with
  | nil => exact ⟨indexes, fun _ _ found => found⟩
  | cons trigger rest ih =>
    rw [firstTaken?] at free
    split at free
    · cases free
    · rename_i new
      have fresh := known trigger.id (by simpa using new)
      obtain ⟨all, kept⟩ := ih (indexes.add fresh) (fun id other => by
        rw [List.mem_cons, not_or] at other
        rw [Dict.get?_insert_of_ne _ _ (Ne.symm other.1)]
        exact known id other.2) free
      refine ⟨all, fun id held found => kept id held ?_⟩
      rw [Dict.get?_insert_of_ne]
      · exact found
      · rintro rfl
        rw [fresh] at found
        cases found

/-- What a call that succeeds does to documents. -/
inductive Changes (documents : Documents) : Call → Documents → Prop where
  | created {name : String} {globalContext : Dict Json} {source : Option EventSource}
      (absent : documents.spaceExists name = false) :
      Changes documents (.createNamespace name globalContext source)
        (writeNamespace documents name globalContext source)
  | deleted {name : String} :
      Changes documents (.deleteNamespace name) (documents.deleteSpace name)
  /-- The source is kept by its name with all others, and is the one to be read from. -/
  | registered {space : String} {source : EventSource} {overwrite : Bool}
      {sources : Dict EventSource} (present : documents.spaceExists space = true)
      (named : Dict.get? sources source.name = some source) :
      Changes documents (.registerSource space source overwrite)
        ((documents.put space Documents.eventSources (Documents.ofSources sources)).put space
          Documents.eventSource (.object source.toFields))
  /-- The triggers are stored beside those that were there, and the index lists them too. -/
  | stored {space : String} {triggers : List Trigger} {more : Dict Trigger}
      {listing : SourceEvents} (present : documents.spaceExists space = true)
      (follows : ∀ stored index, documents.loadTriggers space = .ok stored →
        documents.loadIndex space = .ok index → index.Indexes stored →
          listing.Indexes more ∧ ∀ id trigger, Dict.get? stored id = some trigger →
            Dict.get? more id = some trigger) :
      Changes documents (.storeTriggers space triggers) (documents.rewritten space more listing)

/-- The namespace that was asked for is there. -/
theorem exists_of_requireSpace {space : String} {done : Unit}
    (required : requireSpace documents space = .ok done) : documents.spaceExists space = true := by
  unfold requireSpace at required
  split at required
  · assumption
  · cases required

/-- A call that succeeds makes its changes. -/
theorem changes_of_apply (applied : call.apply documents = .ok (answer, after)) :
    Changes documents call after := by
  cases call with
  | createNamespace name globalContext source =>
    rw [apply] at applied
    split at applied
    · cases applied
    · rename_i absent
      cases applied
      exact .created (by simpa using absent)
  | deleteNamespace name =>
    obtain ⟨_, _, equal⟩ := Failing.bind_eq_ok.mp applied
    cases equal
    exact .deleted
  | registerSource space source overwrite =>
    obtain ⟨_, registered, equal⟩ := Failing.bind_eq_ok.mp applied
    cases equal
    obtain ⟨_, required, registered⟩ := Failing.bind_eq_ok.mp registered
    obtain ⟨sources, _, registered⟩ := Failing.bind_eq_ok.mp registered
    split at registered
    · cases registered
    · cases registered
      exact .registered (exists_of_requireSpace required) (Dict.get?_insert_self _ _ _)
  | storeTriggers space triggers =>
    obtain ⟨_, stored, equal⟩ := Failing.bind_eq_ok.mp applied
    cases equal
    obtain ⟨_, required, stored⟩ := Failing.bind_eq_ok.mp stored
    obtain ⟨held, loaded, stored⟩ := Failing.bind_eq_ok.mp stored
    split at stored
    · cases stored
    · rename_i free
      obtain ⟨index, known, stored⟩ := Failing.bind_eq_ok.mp stored
      cases stored
      refine .stored (exists_of_requireSpace required) fun again listing same listed indexes => ?_
      rw [loaded] at same
      rw [known] at listed
      cases same
      cases listed
      exact indexes_addAll indexes (fun id absent => Dict.get?_eq_none_iff.mpr absent) free

/-- A call leaves the other namespaces. -/
theorem Changes.get?_of_ne (changes : Changes documents call after) {other : String}
    (different : call.space ≠ other) (name : String) :
    after.get? other name = documents.get? other name := by
  have elsewhere : ∀ {documents : Documents} {wanted : String} {document : Json},
      (documents.put call.space wanted document).get? other name = documents.get? other name :=
    Documents.get?_put_of_space_ne _ _ _ _ different
  cases changes with
  | @created _ _ source =>
    cases source
    · exact elsewhere.trans (elsewhere.trans (elsewhere.trans elsewhere))
    · exact elsewhere.trans (elsewhere.trans (elsewhere.trans (elsewhere.trans elsewhere)))
  | @deleted gone =>
    have apart : gone ≠ other := different
    simp [Documents.get?, Documents.deleteSpace, Dict.get?_erase, apart]
  | registered | stored => exact elsewhere.trans elsewhere

/-- An event source is written with its name. -/
theorem name_toFields (source : EventSource) :
    (Json.object source.toFields).get? "name" = some (.string source.name) := by
  obtain ⟨name, location⟩ := source
  cases location <;> rfl

/-- An event source is kept under its name. -/
theorem get?_ofSources {sources : Dict EventSource} {name : String} {source : EventSource}
    (named : Dict.get? sources name = some source) :
    (Documents.ofSources sources).get? name = some (.object source.toFields) := by
  show Dict.get? (sources.map fun entry => (entry.1, Json.object entry.2.toFields)) name = _
  induction sources with
  | nil => cases named
  | cons entry rest ih =>
    rw [List.map_cons, Dict.get?_cons]
    rw [Dict.get?_cons] at named
    split at named
    · rename_i same
      cases named
      rw [if_pos same]
    · rename_i different
      rw [if_neg different]
      exact ih named

/-- The event source that was written last is kept under its name. -/
theorem source_agrees {space : String} {source : EventSource} {sources : Dict EventSource}
    (named : Dict.get? sources source.name = some source)
    (current : after.get? space Documents.eventSource = some (.object source.toFields))
    (kept : after.get? space Documents.eventSources = some (Documents.ofSources sources)) :
    ∀ document, after.get? space Documents.eventSource = some document →
      ∃ name sources, document.get? "name" = some (.string name) ∧
        after.get? space Documents.eventSources = some sources ∧
          sources.get? name = some document := by
  intro document found
  rw [current] at found
  cases found
  exact ⟨source.name, _, name_toFields source, kept, get?_ofSources named⟩

/-- A namespace that is created where nothing was left is sound. -/
theorem sound_writeNamespace {name : String} (vacant : documents.Vacant name)
    (globalContext : Dict Json) (source : Option EventSource) :
    (writeNamespace documents name globalContext source).Sound name := by
  let first := documents.put name Documents.globalContext (.object globalContext)
  let empty := first.rewritten name [] []
  have present : empty.spaceExists name = true := by
    rw [Documents.spaceExists, Documents.get?_rewritten_of_ne (by decide) (by decide),
      Documents.get?_put_self]
    rfl
  have unread : empty.get? name Documents.eventSource = none := by
    rw [Documents.get?_rewritten_of_ne (by decide) (by decide),
      Documents.get?_put_of_name_ne _ _ _ (by decide)]
    exact vacant _ (by decide)
  have consistent : empty.Consistent name := by
    refine ⟨⟨_, _, Documents.load?_triggers_rewritten,
      Documents.load?_index_of_get? (Documents.get?_put_self _ _ _ _),
        SourceEvents.Indexes.empty.read⟩, fun document found => ?_⟩
    rw [unread] at found
    cases found
  have beside : ∀ {documents : Documents} {written other : String} {document : Json},
      written ≠ other → (documents.put name written document).get? name other =
        documents.get? name other := Documents.get?_put_of_name_ne _ _ _
  cases source with
  | none =>
    refine consistent.withSource present (fun wanted member => ?_) fun document found => ?_
    · simp only [List.mem_cons, List.not_mem_nil, or_false] at member
      rcases member with rfl | rfl | rfl <;> exact beside (by decide)
    · cases unread.symm.trans ((beside (by decide)).symm.trans found)
  | some source =>
    have named : Dict.get? [(source.name, source)] source.name = some source := by simp
    refine consistent.withSource present (fun wanted member => ?_) (source_agrees named ?_ ?_)
    · simp only [List.mem_cons, List.not_mem_nil, or_false] at member
      rcases member with rfl | rfl | rfl <;> exact (beside (by decide)).trans (beside (by decide))
    · exact (beside (by decide)).trans (Documents.get?_put_self _ _ _ _)
    · exact Documents.get?_put_self _ _ _ _

/-- A call keeps the documents of its namespace in agreement. -/
theorem Changes.sound (changes : Changes documents call after)
    (sound : documents.Sound call.space) : after.Sound call.space := by
  cases changes with
  | created absent => exact sound_writeNamespace (sound.vacant absent) _ _
  | @deleted name =>
    refine .inl fun wanted _ => ?_
    simp [Documents.get?, Documents.deleteSpace, Dict.get?_erase, space]
  | registered present named =>
    refine (sound.consistent present).withSource present (fun wanted member => ?_)
      (source_agrees named (Documents.get?_put_self _ _ _ _) ?_)
    · simp only [List.mem_cons, List.not_mem_nil, or_false] at member
      rcases member with rfl | rfl | rfl <;>
        exact (Documents.get?_put_of_name_ne _ _ _ (by decide)).trans
          (Documents.get?_put_of_name_ne _ _ _ (by decide))
    · exact (Documents.get?_put_of_name_ne _ _ _ (by decide)).trans
        (Documents.get?_put_self _ _ _ _)
  | stored present follows =>
    have consistent := sound.consistent present
    obtain ⟨stored, index, loaded, known, -, -, indexes⟩ := consistent.loads
    exact consistent.rewritten present (follows stored index loaded known indexes).1

/-- What is stored in a namespace stays stored with any call but its deletion. -/
theorem Changes.stores (changes : Changes documents call after)
    (sound : documents.Sound call.space) (lives : call ≠ .deleteNamespace call.space)
    {id : String} {dependencies : List EventKey}
    (stores : documents.Stores call.space id dependencies) :
    after.Stores call.space id dependencies := by
  cases changes with
  | created absent => exact absurd stores (sound.vacant absent).not_stores
  | deleted => exact absurd rfl lives
  | registered present named =>
    exact stores.congr ((Documents.get?_put_of_name_ne _ _ _ (by decide)).trans
      (Documents.get?_put_of_name_ne _ _ _ (by decide)))
  | stored present follows =>
    obtain ⟨stored, index, first, second, loaded, -, indexes⟩ :=
      (sound.consistent present).loads
    obtain ⟨_, trigger, same, found, rfl⟩ := stores
    have equal := loaded.symm.trans same
    cases equal
    obtain ⟨lists, kept⟩ := follows stored index first second indexes
    exact Documents.stores_rewritten lists (kept id trigger found)

end Call

end EventFlow
