import EventFlow.Proofs.Failing
import EventFlow.Store.Bucket
import Mathlib.Data.List.Basic

/-!
# Namespaces that share a bucket

A document key can be read back in one way only: its point is the one that stands between the
namespace and the document, as neither of these may hold another. Hence different documents have
different keys, and a scan for the keys of a namespace finds none of another one, even if one name
begins like the other. From this it follows that no change of other documents, and no removal of
other namespaces, reaches a document in a bucket, whatever the server refuses on the way.
-/

namespace EventFlow

namespace Keys

variable {space document key : String}

/-- A part of a key holds no point. -/
theorem not_mem_of_isKeyPart {part : String} (accepted : isKeyPart part = true) :
    '.' ∉ part.toList := by
  intro member
  simp only [isKeyPart, Bool.and_eq_true, List.all_eq_true] at accepted
  have point : isKeyChar '.' = true := accepted.2 '.' member
  exact absurd point (by decide)

/-- A document has a key if both its names may be parts of one. -/
theorem documentKey_eq_ok_iff :
    documentKey space document = .ok key ↔
      (isKeyPart space = true ∧ isKeyPart document = true) ∧ space ++ "." ++ document = key := by
  unfold documentKey
  split <;> simp_all

/-- A key is put together in one way only. -/
theorem eq_append_point_iff (accepted : documentKey space document = .ok key)
    {front back : String} : key = front ++ "." ++ back ↔ front = space ∧ back = document := by
  obtain ⟨⟨plainSpace, plainDocument⟩, rfl⟩ := documentKey_eq_ok_iff.mp accepted
  -- That the parts on one side hold no point is enough: the other names may be any texts.
  have unique : space.toList ++ '.' :: document.toList = front.toList ++ '.' :: back.toList ↔
      space = front ∧ document = back := by
    rw [List.append_cons_inj_of_notMem (not_mem_of_isKeyPart plainSpace)
      (not_mem_of_isKeyPart plainDocument)]
    simp only [true_and, String.toList_inj]
  rw [eq_comm (a := front), eq_comm (a := back), ← unique, ← String.toList_inj]
  simp

/-- Two documents of one key are one document. -/
theorem documentKey_eq_of_eq (accepted : documentKey space document = .ok key) {other item : String}
    (same : documentKey other item = .ok key) : other = space ∧ item = document :=
  (eq_append_point_iff accepted).mp (documentKey_eq_ok_iff.mp same).2.symm

/-- Another document has another key. -/
theorem ne_of_documentKey {other item otherKey : String}
    (accepted : documentKey space document = .ok key)
    (named : documentKey other item = .ok otherKey) (different : (other, item) ≠ (space, document)) :
    key ≠ otherKey := by
  rintro rfl
  obtain ⟨rfl, rfl⟩ := documentKey_eq_of_eq accepted named
  exact different rfl

/-- A key starts with a name and a point only if this is the name of its namespace. -/
theorem startsWith_iff (accepted : documentKey space document = .ok key) {other : String} :
    key.startsWith (other ++ ".") = true ↔ other = space := by
  rw [String.startsWith_string_iff]
  constructor
  · rintro ⟨rest, joined⟩
    have split : key = other ++ "." ++ String.ofList rest := by
      rw [← String.toList_inj, ← joined]
      simp
    exact ((eq_append_point_iff accepted).mp split).1
  · rintro rfl
    obtain ⟨-, rfl⟩ := documentKey_eq_ok_iff.mp accepted
    simp

end Keys

/-! ## Exchanges with a server -/

namespace Exchange

variable {ε State α β : Type} {property : State → Prop}

/-- A property of the server that stays true, whatever comes of an exchange. -/
def Keeps (property : State → Prop) (exchange : Exchange ε State α) : Prop :=
  ∀ state, property state → property (exchange.perform state).2

/-- What follows goes on where the first part has ended, if that was a success. -/
theorem perform_bind (first : Exchange ε State α) (second : α → Exchange ε State β)
    (state : State) :
    (first >>= second : Exchange ε State β).perform state =
      match first.perform state with
      | (.ok value, middle) => (second value).perform middle
      | (.error cause, middle) => (.error cause, middle) := by
  change ExceptT.bindCont second (first.perform state).1 (first.perform state).2 = _
  rcases first.perform state with ⟨cause | value, middle⟩ <;> rfl

/-- Two parts succeed if the first one does, and the second one with what has come of it. -/
theorem bind_eq_ok_iff {first : Exchange ε State α} {second : α → Exchange ε State β}
    {state : State} {result : β} :
    ((first >>= second : Exchange ε State β).perform state).1 = .ok result ↔
      ∃ value, (first.perform state).1 = .ok value ∧
        ((second value).perform (first.perform state).2).1 = .ok result := by
  rw [perform_bind]
  rcases first.perform state with ⟨cause | value, middle⟩ <;> simp

/-- What follows a success may rely on what has come of it. -/
theorem Keeps.bind {first : Exchange ε State α} {second : α → Exchange ε State β}
    (kept : first.Keeps property)
    (next : ∀ state value, (first.perform state).1 = .ok value → (second value).Keeps property) :
    Keeps property (first >>= second) := by
  intro state holds
  rw [perform_bind]
  have middle := kept state holds
  have onward := next state
  generalize first.perform state = made at middle onward ⊢
  rcases made with ⟨cause | value, after⟩
  · exact middle
  · exact onward value rfl after middle

/-- Without the server nothing happens to it. -/
theorem keeps_pure (value : α) : Keeps property (pure value : Exchange ε State α) :=
  fun _ holds => holds

/-- One exchange for each item of a list. -/
theorem Keeps.forM {items : List α} {exchange : α → Exchange ε State PUnit}
    (each : ∀ item ∈ items, (exchange item).Keeps property) :
    Keeps property (items.forM exchange) := by
  induction items with
  | nil => exact keeps_pure _
  | cons item rest ih =>
    exact (each item List.mem_cons_self).bind fun _ _ _ =>
      ih fun other member => each other (List.mem_cons_of_mem _ member)

end Exchange

namespace Bucket

variable {State α : Type} {property : State → Prop} {bucket : Bucket State} {state : State}

/-- To ask for something is to make the request. -/
theorem keeps_ask {request : Exchange String State α} (kept : request.Keeps property)
    (task : StoreTask) : (ask task request).Keeps property :=
  kept

/-- What was asked for is what the server has answered. -/
theorem ask_eq_ok_iff {task : StoreTask} {request : Exchange String State α} {value : α} :
    ((ask task request).perform state).1 = .ok value ↔ (request.perform state).1 = .ok value := by
  change (request.perform state).1.mapError _ = _ ↔ _
  cases (request.perform state).1 <;> simp [Except.mapError]

/-- A result that the server has no part in leaves it as it is. -/
theorem keeps_settled {ε : Type} (failure : ε → StoreFailure) (result : Except ε α) :
    (settled failure result : Exchange StoreFailure State α).Keeps property :=
  fun _ holds => holds

/-- A result is gone on with if it is a success. -/
theorem settled_eq_ok_iff {ε : Type} {failure : ε → StoreFailure} {result : Except ε α}
    {value : α} :
    ((settled failure result : Exchange StoreFailure State α).perform state).1 = .ok value ↔
      result = .ok value := by
  change result.mapError failure = _ ↔ _
  cases result <;> simp [Except.mapError]

/-! ## Scans -/

/-- A listing without gaps is one of keys. -/
theorem mapM_id_eq_ok_iff {listed : List (Except String String)} {keys : List String} :
    listed.mapM id = .ok keys ↔ listed = keys.map .ok := by
  rw [Failing.mapM_eq_ok_iff, ← List.forall₂_eq_eq_eq, List.forall₂_map_right_iff]
  rfl

/-- A scan finds the listed keys that start with the name of the namespace and a point. -/
theorem mem_spaceKeys_iff {space key : String} {listed : List (Except String String)}
    {keys : List String} (answered : (bucket.keys.perform state).1 = .ok listed)
    (scanned : ((bucket.spaceKeys space).perform state).1 = .ok keys) :
    key ∈ keys ↔ .ok key ∈ listed ∧ key.startsWith (space ++ ".") = true := by
  obtain ⟨others, asked, scanned⟩ := Exchange.bind_eq_ok_iff.mp scanned
  obtain ⟨all, read, scanned⟩ := Exchange.bind_eq_ok_iff.mp scanned
  cases (ask_eq_ok_iff.mp asked).symm.trans answered
  cases scanned
  rw [mapM_id_eq_ok_iff.mp (settled_eq_ok_iff.mp read)]
  simp

/-- Whatever a scan finds starts with the name of the namespace and a point. -/
theorem startsWith_of_mem_spaceKeys {space key : String} {keys : List String}
    (scanned : ((bucket.spaceKeys space).perform state).1 = .ok keys) (member : key ∈ keys) :
    key.startsWith (space ++ ".") = true := by
  obtain ⟨listed, asked, -⟩ := Exchange.bind_eq_ok_iff.mp scanned
  exact ((mem_spaceKeys_iff (ask_eq_ok_iff.mp asked) scanned).mp member).2

/-! ## Changes -/

/-- What is documented of a bucket, in terms of what it holds under each key: to list and to read
changes nothing, and to write and to purge a key changes nothing under other keys, even where the
server gives a reason why it was not done. -/
structure Lawful (bucket : Bucket State) (held : State → String → Option (List UInt8)) : Prop where
  keys : ∀ state, held (bucket.keys.perform state).2 = held state
  read : ∀ key state, held ((bucket.read key).perform state).2 = held state
  write : ∀ key payload state other, other ≠ key →
    held ((bucket.write key payload).perform state).2 other = held state other
  purge : ∀ key state other, other ≠ key →
    held ((bucket.purge key).perform state).2 other = held state other

/-- A change of the documents in a bucket. -/
inductive Change where
  | put (space document : String) (content : Json)
  | delete (space document : String)
  | deleteSpace (space : String)

/-- Make a change. -/
def Change.make (bucket : Bucket State) : Change → Exchange StoreFailure State Unit
  | .put space document content => bucket.put space document content
  | .delete space document => do
    let _ ← bucket.delete space document
    return ()
  | .deleteSpace space => do
    let _ ← bucket.deleteSpace space
    return ()

/-- The server after changes, of which each is tried, whatever has come of those before it. -/
def afterAll (bucket : Bucket State) (changes : List Change) (state : State) : State :=
  changes.foldl (fun state change => ((change.make bucket).perform state).2) state

/-- A change that names another document, or as a whole another namespace. -/
def Change.Spares (space document : String) : Change → Prop
  | .put other item _ => (other, item) ≠ (space, document)
  | .delete other item => (other, item) ≠ (space, document)
  | .deleteSpace other => other ≠ space

variable {held : State → String → Option (List UInt8)} {space document key other item : String}
  {payload : Option (List UInt8)}

/-- To look for a document changes nothing. -/
theorem Lawful.keeps_get (lawful : bucket.Lawful held) :
    (bucket.get other item).Keeps (held · key = payload) := by
  refine (keeps_settled _ _).bind fun _ named _ => ?_
  refine (keeps_ask (fun state holds => ?_) _).bind fun _ found _ => ?_
  · rwa [lawful.read]
  · rcases found with - | - | ⟨byte, rest⟩
    · exact Exchange.keeps_pure _
    · exact Exchange.keeps_pure _
    · exact (keeps_settled _ _).bind fun _ _ _ => Exchange.keeps_pure _

/-- A document stays as it is when another one is put. -/
theorem Lawful.keeps_put (lawful : bucket.Lawful held)
    (accepted : Keys.documentKey space document = .ok key)
    (different : (other, item) ≠ (space, document)) (content : Json) :
    (bucket.put other item content).Keeps (held · key = payload) := by
  refine (keeps_settled _ _).bind fun _ otherKey named => keeps_ask (fun state holds => ?_) _
  rwa [lawful.write _ _ _ _
    (Keys.ne_of_documentKey accepted (settled_eq_ok_iff.mp named) different)]

/-- A document stays as it is when another one is removed. -/
theorem Lawful.keeps_delete (lawful : bucket.Lawful held)
    (accepted : Keys.documentKey space document = .ok key)
    (different : (other, item) ≠ (space, document)) :
    (bucket.delete other item).Keeps (held · key = payload) := by
  refine lawful.keeps_get.bind fun _ found _ => ?_
  cases found with
  | none => exact Exchange.keeps_pure _
  | some content =>
    refine (keeps_settled _ _).bind fun _ otherKey named => ?_
    refine (keeps_ask (fun state holds => ?_) _).bind fun _ _ _ => Exchange.keeps_pure _
    rwa [lawful.purge _ _ _
      (Keys.ne_of_documentKey accepted (settled_eq_ok_iff.mp named) different)]

/-- A document stays as it is when another namespace is removed: of the keys that are purged one
after the other, none is its own. -/
theorem Lawful.keeps_deleteSpace (lawful : bucket.Lawful held)
    (accepted : Keys.documentKey space document = .ok key) (different : other ≠ space) :
    (bucket.deleteSpace other).Keeps (held · key = payload) := by
  have scan : (bucket.spaceKeys other).Keeps (held · key = payload) := by
    refine (keeps_ask (fun state holds => ?_) _).bind fun _ _ _ =>
      (keeps_settled _ _).bind fun _ _ _ => Exchange.keeps_pure _
    rwa [lawful.keys]
  -- What is purged are the keys that the scan has found, not just any keys.
  refine scan.bind fun _ keys scanned => ?_
  refine (Exchange.Keeps.forM fun purged member => keeps_ask (fun state holds => ?_) _).bind
    fun _ _ _ => Exchange.keeps_pure _
  have elsewhere : key ≠ purged := by
    rintro rfl
    exact different ((Keys.startsWith_iff accepted).mp (startsWith_of_mem_spaceKeys scanned member))
  rwa [lawful.purge _ _ _ elsewhere]

/-- A document stays as it is under a change that spares it. -/
theorem Lawful.keeps_make (lawful : bucket.Lawful held)
    (accepted : Keys.documentKey space document = .ok key) {change : Change}
    (spared : change.Spares space document) :
    (change.make bucket).Keeps (held · key = payload) := by
  cases change with
  | put other item content => exact lawful.keeps_put accepted spared content
  | delete other item =>
    exact (lawful.keeps_delete accepted spared).bind fun _ _ _ => Exchange.keeps_pure _
  | deleteSpace other =>
    exact (lawful.keeps_deleteSpace accepted spared).bind fun _ _ _ => Exchange.keeps_pure _

/-- A document stays as it is under changes that spare it. -/
theorem Lawful.held_afterAll (lawful : bucket.Lawful held)
    (accepted : Keys.documentKey space document = .ok key) {changes : List Change}
    (spared : ∀ change ∈ changes, change.Spares space document) (state : State) :
    held (bucket.afterAll changes state) key = held state key := by
  induction changes generalizing state with
  | nil => rfl
  | cons change rest ih =>
    have once : held ((change.make bucket).perform state).2 key = held state key :=
      lawful.keeps_make accepted (spared change List.mem_cons_self) state rfl
    rw [← once]
    exact ih (fun other member => spared other (List.mem_cons_of_mem _ member)) _

/-- The key of a document is the key of no other document, and it starts with a name and a point
only if this is the name of its namespace. Hence a scan for the keys of a namespace finds it, if
it is listed, exactly if the namespace is its own. In a bucket of which the documented laws hold a
document stays as it is, whatever other documents are put and removed, and whatever other namespaces
are removed as a whole. -/
theorem documents_kept_apart (accepted : Keys.documentKey space document = .ok key) :
    (∀ other item, Keys.documentKey other item = .ok key → other = space ∧ item = document) ∧
      (∀ other, key.startsWith (other ++ ".") = true ↔ other = space) ∧
      ∀ {State : Type} (bucket : Bucket State),
        (∀ other state listed keys, (bucket.keys.perform state).1 = .ok listed →
          ((bucket.spaceKeys other).perform state).1 = .ok keys →
            (key ∈ keys ↔ .ok key ∈ listed ∧ other = space)) ∧
        ∀ held, bucket.Lawful held → ∀ changes : List Change,
          (∀ change ∈ changes, change.Spares space document) →
            ∀ state, held (bucket.afterAll changes state) key = held state key := by
  refine ⟨fun other item same => Keys.documentKey_eq_of_eq accepted same,
    fun other => Keys.startsWith_iff accepted, fun bucket =>
      ⟨fun other state listed keys answered scanned => ?_,
        fun held lawful changes spared state => lawful.held_afterAll accepted spared state⟩⟩
  rw [mem_spaceKeys_iff answered scanned, Keys.startsWith_iff accepted]

/-- A dictionary as a bucket of a server that refuses nothing. -/
def ofDict : Bucket (Dict (List UInt8)) where
  keys := modifyGet fun entries => ((Dict.keys entries).map .ok, entries)
  read key := modifyGet fun entries => (Dict.get? entries key, entries)
  write key payload := modify (Dict.insert · key payload)
  purge key := modify (Dict.erase · key)

theorem ofDict_lawful : ofDict.Lawful Dict.get? where
  keys _ := rfl
  read _ _ := rfl
  write _ payload entries _ different := Dict.get?_insert_of_ne entries payload different.symm
  purge key entries other different := by
    change Dict.get? (Dict.erase entries key) other = _
    rw [Dict.get?_erase, if_neg different.symm]

/-- The triggers of two namespaces, of which one name begins like the other. -/
def sampleEntries : Dict (List UInt8) :=
  [("run.triggers", [123, 125]), ("run_1.triggers", [123, 125])]

/-- Changes of the namespace with the shorter name, and of another document of the longer one. -/
def sampleChanges : List Change :=
  [.deleteSpace "run", .delete "run_1" "event_source", .put "run" "event_source" .null]

/-- A scan for the shorter name passes over the triggers of the longer one. To remove the namespace
with the shorter name takes its own triggers away, and leaves the others as they were. -/
theorem sample_kept_apart :
    Keys.documentKey "run_1" "triggers" = .ok "run_1.triggers" ∧
      (ofDict.spaceKeys "run").perform sampleEntries = (.ok ["run.triggers"], sampleEntries) ∧
      "run_1.triggers" ∉ ["run.triggers"] ∧
      (ofDict.deleteSpace "run").perform sampleEntries =
        (.ok true, [("run_1.triggers", [123, 125])]) ∧
      ofDict.Lawful Dict.get? ∧ (∀ change ∈ sampleChanges, change.Spares "run_1" "triggers") ∧
      Dict.get? (ofDict.afterAll sampleChanges sampleEntries) "run_1.triggers" =
        some [123, 125] := by
  have accepted : Keys.documentKey "run_1" "triggers" = .ok "run_1.triggers" := rfl
  have scanned : (ofDict.spaceKeys "run").perform sampleEntries =
      (.ok ["run.triggers"], sampleEntries) := by
    change (Except.ok ((Dict.keys sampleEntries).filter (·.startsWith ("run" ++ "."))),
      sampleEntries) = _
    simp [sampleEntries, Dict.keys]
  have removed : (ofDict.deleteSpace "run").perform sampleEntries =
      (.ok true, [("run_1.triggers", [123, 125])]) := by
    rw [deleteSpace, Exchange.perform_bind, scanned]
    rfl
  have spared : ∀ change ∈ sampleChanges, change.Spares "run_1" "triggers" := by
    simp [sampleChanges, Change.Spares]
  obtain ⟨-, -, apart⟩ := documents_kept_apart accepted
  obtain ⟨found, stays⟩ := apart ofDict
  refine ⟨accepted, scanned, fun member => ?_, removed, ofDict_lawful, spared,
    stays Dict.get? ofDict_lawful sampleChanges spared sampleEntries⟩
  have outcome : ((ofDict.spaceKeys "run").perform sampleEntries).1 = .ok ["run.triggers"] := by
    rw [scanned]
  have same : "run" = "run_1" := ((found "run" sampleEntries _ _ rfl outcome).mp member).2
  exact absurd same (by decide)

end Bucket

end EventFlow
