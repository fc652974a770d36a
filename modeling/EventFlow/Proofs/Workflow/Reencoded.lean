import EventFlow.Proofs.Json.Rereading
import EventFlow.Proofs.Workflow.Decoded

/-!
# Workflows that are written and read back

A workflow that was decoded from a text is decoded from its own text again. Fields that
say nothing are not written, levels are written by their field names even if they were
read by position, and the other fields of a state and of a rule are written behind its
own. None of this is lost or taken for something else, as the other fields never bear a
name that the state or the rule has for itself.
-/

namespace EventFlow

open Decode Reader

/-- The names of the fields that a state has for itself. -/
def State.ownKeys : List String :=
  ["Type", "Next", "End", "Choices", "Default", "Branches", "Iterator"]

/-- No other field of a state or of its rules bears the name of one of their own. -/
structure State.Separate (state : State) : Prop where
  predicates : ∀ rule ∈ state.choices, "Next" ∉ Dict.keys rule.predicate
  extra : ∀ key ∈ Dict.keys state.extra, key ∉ ownKeys

/-- A level whose states keep what they have for themselves and the rest apart. -/
structure Level.Tidy (level : Level) : Prop extends Level.Sound level where
  separate : ∀ name state, (name, state) ∈ level.states → state.Separate

/-! ## Decoded workflows are tidy -/

/-- The predicate of a decoded rule has no target. -/
theorem ChoiceRule.next_not_mem_of_decoder {reading : Reading} {draft : Draft}
    {rule : ChoiceRule} (decoded : decoder reading draft = .ok rule) :
    "Next" ∉ Dict.keys rule.predicate := by
  obtain ⟨known, walked, decoded⟩ := Failing.bind_eq_ok.mp decoded
  obtain ⟨_, _, equal⟩ := Failing.bind_eq_ok.mp decoded
  cases equal
  refine Decode.fields_ok (motive := fun known : Partial => "Next" ∉ Dict.keys known.predicate)
    List.not_mem_nil ?_ walked
  intro known name reading draft next earlier stepped
  unfold field at stepped
  split at stepped
  · obtain ⟨_, _, equal⟩ := Failing.bind_eq_ok.mp stepped
    cases equal
    exact earlier
  · next other =>
    obtain ⟨value, _, equal⟩ := Failing.bind_eq_ok.mp stepped
    cases equal
    exact fun member => (Dict.mem_keys_insert member).elim (fun same => other same.symm) earlier

/-- What a state is known to have apart from its own fields bears other names. -/
structure State.Partial.Separate (known : Partial) : Prop where
  predicates : ∀ rules, known.choices = some rules →
    ∀ rule ∈ rules, "Next" ∉ Dict.keys rule.predicate
  extra : ∀ key ∈ Dict.keys known.extra, key ∉ ownKeys

/-- Decoding a field of a state keeps the other fields apart. -/
theorem State.Partial.Separate.field {level : Decoder Level} {known next : Partial}
    (separate : known.Separate) {name : String} {reading : Reading} {draft : Draft}
    (decoded : State.field level known name reading draft = .ok next) : next.Separate := by
  obtain ⟨predicates, extra⟩ := separate
  unfold State.field at decoded
  split at decoded
  case h_4 =>
    obtain ⟨filled, read, equal⟩ := Failing.bind_eq_ok.mp decoded
    cases equal
    obtain ⟨rules, rfl, made⟩ := Decode.once_eq_ok read
    refine ⟨?_, extra⟩
    rintro _ ⟨⟩ rule member
    obtain ⟨_, _, decodedRule⟩ := Decode.list_ok made rule member
    exact ChoiceRule.next_not_mem_of_decoder decodedRule
  case h_8 =>
    rename_i noType noNext noEnd noChoices noDefault noBranches noIterator
    obtain ⟨value, _, equal⟩ := Failing.bind_eq_ok.mp decoded
    cases equal
    refine ⟨predicates, fun key member => ?_⟩
    rcases Dict.mem_keys_insert member with rfl | earlier
    · simp only [ownKeys, List.mem_cons, List.not_mem_nil, or_false, not_or]
      exact ⟨noType, noNext, noEnd, noChoices, noDefault, noBranches, noIterator⟩
    · exact extra key earlier
  all_goals
    obtain ⟨_, _, equal⟩ := Failing.bind_eq_ok.mp decoded
    cases equal
    exact ⟨predicates, extra⟩

/-- A decoded state keeps its other fields apart. -/
theorem State.separate_of_decoderWith {level : Decoder Level} {reading : Reading} {draft : Draft}
    {state : State} (decoded : decoderWith level reading draft = .ok state) : state.Separate := by
  obtain ⟨known, walked, decoded⟩ := Failing.bind_eq_ok.mp decoded
  obtain ⟨_, _, equal⟩ := Failing.bind_eq_ok.mp decoded
  cases equal
  have nothing : ({} : Partial).Separate := ⟨nofun, nofun⟩
  have separate : known.Separate :=
    Decode.fields_ok nothing (fun _ _ _ _ _ separate stepped => separate.field stepped) walked
  refine ⟨?_, separate.extra⟩
  cases choices : known.choices with
  | none => exact fun rule member => absurd member List.not_mem_nil
  | some rules => exact separate.predicates rules choices

/-- Every level in a decoded workflow is tidy, whether it is planned or not. -/
theorem Level.tidy_of_decoder {reading : Reading} {draft : Draft} {workflow : Level}
    (decoded : decoder reading draft = .ok workflow) : workflow.Everywhere Tidy := by
  suffices within : ∀ depth reading draft level, decoderWithin depth reading draft = .ok level →
      level.Everywhere Tidy from within _ _ _ _ decoded
  intro depth
  induction depth with
  | zero =>
    intro reading draft level made
    cases made
  | succ depth ih =>
    intro reading draft level made
    obtain ⟨_, _, read⟩ := states_of_decoderWith made
    obtain ⟨distinct, states⟩ := holds_of_statesDecoder read
    refine .intro ⟨⟨distinct, fun name state declared => ?_⟩, fun name state declared => ?_⟩
      fun name state declared sub listed => ?_
    · obtain ⟨_, _, decodedState⟩ := states name state declared
      exact (State.ordered_of_decoderWith decodedState).1
    · obtain ⟨_, _, decodedState⟩ := states name state declared
      exact State.separate_of_decoderWith decodedState
    · obtain ⟨_, _, decodedState⟩ := states name state declared
      obtain ⟨-, branches, iterator⟩ := State.ordered_of_decoderWith decodedState
      rcases List.mem_append.mp listed with branch | found
      · obtain ⟨_, _, decodedSub⟩ := branches sub branch
        exact ih _ _ _ decodedSub
      · obtain ⟨_, _, decodedSub⟩ := iterator sub (Option.mem_toList.mp found)
        exact ih _ _ _ decodedSub

/-! ## Decoded workflows fit into a text -/

section Fitting

variable {levels : Nat}

/-- A decoded rule fits into its text. -/
theorem ChoiceRule.fits_of_makes {rule : ChoiceRule} (made : Makes decoder levels rule) :
    rule.encode.Fits levels := by
  obtain ⟨draft, numbers, decoded⟩ := made
  obtain ⟨known, walked, decoded⟩ := Failing.bind_eq_ok.mp decoded
  obtain ⟨_, _, equal⟩ := Failing.bind_eq_ok.mp decoded
  cases equal
  obtain ⟨inner, rfl, kept⟩ := Makes.fields ⟨draft, numbers, walked⟩
  refine ⟨trivial, Json.fitsFields_iff.mpr
    (kept (fun known : Partial => ∀ field ∈ known.predicate, field.2.Fits inner) nofun ?_)⟩
  intro known name draft next earlier numbers stepped
  unfold field at stepped
  split at stepped
  · obtain ⟨_, _, equal⟩ := Failing.bind_eq_ok.mp stepped
    cases equal
    exact earlier
  · obtain ⟨value, read, equal⟩ := Failing.bind_eq_ok.mp stepped
    cases equal
    intro field member
    rcases Dict.mem_insert member with rfl | before
    · exact Decode.fits_of_json numbers read
    · exact earlier field before

/-- A list of encodings fits if they fit one level further inside. -/
theorem Json.fits_array_map {α : Type} {encode : α → Json} {decoder : Decoder α} {values : List α}
    (fits : ∀ inner value, Makes decoder inner value → (encode value).Fits inner)
    (made : Makes (Decode.list decoder) levels values) :
    (Json.array (values.map encode)).Fits levels := by
  obtain ⟨inner, rfl, items⟩ := made.list
  refine Json.fitsItems_iff.mpr fun item member => ?_
  obtain ⟨value, listed, rfl⟩ := List.mem_map.mp member
  exact fits inner value (items value listed)

/-- What a state is known to have fits into its text. -/
structure State.Partial.Fits (levels : Nat) (known : Partial) : Prop where
  choices : ∀ rules, known.choices = some rules →
    (Json.array (rules.map ChoiceRule.encode)).Fits levels
  branches : ∀ branches, known.branches = some branches →
    (Json.array (branches.map encodeLevel)).Fits levels
  iterator : ∀ sub, known.iterator = some (some sub) → (encodeLevel sub).Fits levels
  extra : ∀ field ∈ known.extra, field.2.Fits levels

/-- Decoding a field of a state keeps what is known within the text. -/
theorem State.Partial.Fits.field {level : Decoder Level} {known next : Partial}
    (fits : known.Fits levels)
    (inside : ∀ inner sub, Makes level inner sub → (encodeLevel sub).Fits inner) {name : String}
    {draft : Draft} (numbers : draft.Numbers Number.Kept)
    (decoded : State.field level known name (.text levels) draft = .ok next) : next.Fits levels := by
  obtain ⟨choices, branches, iterator, extra⟩ := fits
  unfold State.field at decoded
  split at decoded
  case h_4 =>
    obtain ⟨filled, read, equal⟩ := Failing.bind_eq_ok.mp decoded
    cases equal
    obtain ⟨rules, rfl, made⟩ := Decode.once_eq_ok read
    refine ⟨?_, branches, iterator, extra⟩
    rintro _ ⟨⟩
    exact Json.fits_array_map (fun _ _ => ChoiceRule.fits_of_makes) ⟨draft, numbers, made⟩
  case h_6 =>
    obtain ⟨filled, read, equal⟩ := Failing.bind_eq_ok.mp decoded
    cases equal
    obtain ⟨subs, rfl, made⟩ := Decode.once_eq_ok read
    refine ⟨choices, ?_, iterator, extra⟩
    rintro _ ⟨⟩
    exact Json.fits_array_map inside ⟨draft, numbers, made⟩
  case h_7 =>
    obtain ⟨filled, read, equal⟩ := Failing.bind_eq_ok.mp decoded
    cases equal
    obtain ⟨found, rfl, made⟩ := Decode.once_eq_ok read
    refine ⟨choices, branches, ?_, extra⟩
    rintro sub ⟨⟩
    exact inside levels sub (Makes.option ⟨draft, numbers, made⟩)
  case h_8 =>
    obtain ⟨value, read, equal⟩ := Failing.bind_eq_ok.mp decoded
    cases equal
    refine ⟨choices, branches, iterator, fun field member => ?_⟩
    rcases Dict.mem_insert member with rfl | before
    · exact Decode.fits_of_json numbers read
    · exact extra field before
  all_goals
    obtain ⟨_, _, equal⟩ := Failing.bind_eq_ok.mp decoded
    cases equal
    exact ⟨choices, branches, iterator, extra⟩

/-- Items that are there by default are none. -/
theorem eq_some_getD {α : Type} {items : Option (List α)} (nonempty : items.getD [] ≠ []) :
    items = some (items.getD []) := by
  cases items with
  | none => exact absurd rfl nonempty
  | some items => rfl

/-- A decoded state fits into its text. -/
theorem State.fits_of_makes {level : Decoder Level} {state : State}
    (inside : ∀ inner sub, Makes level inner sub → (encodeLevel sub).Fits inner)
    (made : Makes (decoderWith level) levels state) : state.encode.Fits levels := by
  obtain ⟨draft, numbers, decoded⟩ := made
  obtain ⟨known, walked, decoded⟩ := Failing.bind_eq_ok.mp decoded
  obtain ⟨_, _, equal⟩ := Failing.bind_eq_ok.mp decoded
  cases equal
  obtain ⟨inner, rfl, kept⟩ := Makes.fields ⟨draft, numbers, walked⟩
  obtain ⟨choices, branches, iterator, extra⟩ :=
    kept (Partial.Fits inner) ⟨nofun, nofun, nofun, nofun⟩
      fun _ _ _ _ fits numbers stepped => fits.field inside numbers stepped
  rw [State.encode_eq]
  refine Json.fitsFields_iff.mpr fun field member => ?_
  simp only [encodedFields, List.mem_append, mem_optionalField_iff, mem_listField_iff,
    mem_encodeIterator_iff, Option.map_eq_some_iff] at member
  obtain ((((((kind | next) | ends) | rules) | default) | subs) | iterated) | other := member
  · cases List.mem_singleton.mp kind
    trivial
  · obtain ⟨_, ⟨name, -, rfl⟩, rfl⟩ := next
    trivial
  · split at ends
    · cases List.mem_singleton.mp ends
      trivial
    · cases ends
  · obtain ⟨nonempty, rfl⟩ := rules
    exact choices _ (eq_some_getD fun absent => nonempty (List.map_eq_nil_iff.mpr absent))
  · obtain ⟨_, ⟨name, -, rfl⟩, rfl⟩ := default
    trivial
  · obtain ⟨nonempty, rfl⟩ := subs
    exact branches _ (eq_some_getD fun absent => nonempty (List.map_eq_nil_iff.mpr absent))
  · obtain ⟨sub, present, rfl⟩ := iterated
    have held : known.iterator.getD none = some sub := present
    refine iterator sub ?_
    cases found : known.iterator with
    | none => simp [found] at held
    | some _ => simpa [found] using held
  · exact extra field other

namespace Level

variable {state : Decoder State}

/-- Decoded states fit into their text. -/
theorem fits_of_states {states : List (String × State)}
    (inside : ∀ inner made, Makes state inner made → made.encode.Fits inner)
    (made : Makes (statesDecoder state) levels states) :
    (Json.object (states.map fun entry => (entry.1, entry.2.encode))).Fits levels := by
  obtain ⟨inner, rfl, kept⟩ := made.fields
  refine Json.fitsFields_iff.mpr fun field member => ?_
  obtain ⟨entry, listed, rfl⟩ := List.mem_map.mp member
  refine kept (fun states => ∀ entry ∈ states, entry.2.encode.Fits inner) nofun ?_ entry listed
  intro done name draft next earlier numbers stepped
  obtain ⟨value, read, stepped⟩ := Failing.bind_eq_ok.mp stepped
  split at stepped
  · cases stepped
  · cases stepped
    intro entry member
    rcases List.mem_append.mp member with before | now
    · exact earlier entry before
    · cases List.mem_singleton.mp now
      exact inside inner value ⟨draft, numbers, read⟩

/-- A level fits one level further outside than its states. -/
theorem fits_of_fits_states {level : Level}
    (states : (Json.object (level.states.map fun entry => (entry.1, entry.2.encode))).Fits levels) :
    (encodeLevel level).Fits (levels + 1) := by
  obtain ⟨comment, startAt, declared⟩ := level
  rw [Level.encode_eq, encodedFields]
  cases comment with
  | none => exact ⟨trivial, states, trivial⟩
  | some comment => exact ⟨trivial, trivial, states, trivial⟩

/-- A decoded level fits into its text, also if it was read by position. -/
theorem fits_of_decoderWith {level : Level}
    (inside : ∀ inner made, Makes state inner made → made.encode.Fits inner)
    (made : Makes (decoderWith state) levels level) : (encodeLevel level).Fits levels := by
  obtain ⟨draft, numbers, decoded⟩ := made
  unfold decoderWith Decode.record at decoded
  cases draft with
  | scalar value stop => rcases value with _ | _ <;> cases decoded
  | array drafts stop =>
    cases levels with
    | zero => cases decoded
    | succ inner =>
      obtain ⟨_, ⟨⟩, decoded⟩ := Failing.bind_eq_ok.mp decoded
      obtain ⟨⟨_, _⟩, byPosition, decoded⟩ := Failing.bind_eq_ok.mp decoded
      obtain ⟨_, _, equal⟩ := Failing.bind_eq_ok.mp decoded
      cases equal
      obtain ⟨⟨_, afterComment⟩, comment, byPosition⟩ := Failing.bind_eq_ok.mp byPosition
      obtain ⟨⟨_, afterStart⟩, start, byPosition⟩ := Failing.bind_eq_ok.mp byPosition
      obtain ⟨⟨states, _⟩, read, equal⟩ := Failing.bind_eq_ok.mp byPosition
      cases equal
      have items : Draft.ItemNumbers Number.Kept (Positions.mk drafts stop).drafts := numbers
      obtain ⟨numbers, -⟩ := Decode.makes_of_nextItem items comment
      obtain ⟨numbers, -⟩ := Decode.makes_of_requiredItem numbers start
      exact fits_of_fits_states (fits_of_states inside (Decode.makes_of_requiredItem numbers read).2)
  | object fields stop =>
    obtain ⟨known, walked, decoded⟩ := Failing.bind_eq_ok.mp decoded
    obtain ⟨_, _, decoded⟩ := Failing.bind_eq_ok.mp decoded
    obtain ⟨states, found, equal⟩ := Failing.bind_eq_ok.mp decoded
    cases equal
    obtain ⟨inner, rfl, kept⟩ := Makes.fields ⟨.object fields stop, numbers, walked⟩
    refine fits_of_fits_states (kept (fun known : Partial => ∀ states, known.states = some states →
      (Json.object (states.map fun entry => (entry.1, entry.2.encode))).Fits inner) nofun ?_ states
        (Decode.required_eq_ok found))
    intro known name draft next earlier numbers stepped
    unfold field at stepped
    split at stepped
    case h_3 =>
      obtain ⟨filled, read, equal⟩ := Failing.bind_eq_ok.mp stepped
      cases equal
      obtain ⟨states, rfl, made⟩ := Decode.once_eq_ok read
      rintro _ ⟨⟩
      exact fits_of_states inside ⟨draft, numbers, made⟩
    all_goals
      obtain ⟨_, _, equal⟩ := Failing.bind_eq_ok.mp stepped
      cases equal
      exact earlier

/-- A decoded level fits into its text, however deeply levels are nested in it. -/
theorem fits_of_decoderWithin (depth : Nat) {level : Level}
    (made : Makes (decoderWithin depth) levels level) : (encodeLevel level).Fits levels := by
  induction depth generalizing level levels with
  | zero =>
    obtain ⟨_, _, decoded⟩ := made
    cases decoded
  | succ depth ih =>
    exact fits_of_decoderWith (fun _ _ => State.fits_of_makes fun _ _ => ih) made

end Level

end Fitting

/-! ## Reading back -/

section Rereading

variable {levels : Nat}

/-- A rule whose predicate is in order and has no target is read back. -/
theorem ChoiceRule.decoder_reread {rule : ChoiceRule}
    (ordered : (Json.object rule.predicate).Ordered) (separate : "Next" ∉ Dict.keys rule.predicate)
    (fits : rule.encode.Fits levels) :
    decoder (.text levels) (reread rule.encode) = .ok rule := by
  cases levels with
  | zero => exact fits.elim
  | succ inner =>
    have start : Dict.Ascending ([] ++ rule.predicate) := ordered.1
    have collected := foldFields_collected field
      (fun predicate : Dict Json => ({ next := some rule.next, predicate } : Partial))
      (fun name member done draft => by
        rw [field, if_neg]
        rintro rfl
        exact separate member)
      ordered.2 fits.2 start
    simp only [List.nil_append] at collected
    simp only [decoder, encode, reread, rereadFields, Decode.fields, Reading.enter,
      Failing.ok_bind, foldFields, Decode.key, field, if_true, Decode.once, Decode.string,
      Draft.sound, Except.map, collected, close, Decode.required]

/-- An optional name is written so that it is read back. -/
theorem written_optional (name : String) (value : Option String) :
    Written (Decode.option Decode.string) levels name (value.map some)
      (optionalField name (value.map .string)) := by
  cases value with
  | none => exact .absent
  | some value => exact .present rfl

/-- A list that is known to be there, unless it is empty. -/
def heldList {α : Type} : List α → Option (List α)
  | [] => none
  | values => some values

/-- A list that is not there is empty. -/
theorem getD_heldList {α : Type} (values : List α) : (heldList values).getD [] = values := by
  cases values <;> rfl

/-- A list is written so that it is read back, if its items are. -/
theorem written_list {α : Type} {item : Decoder α} {encode : α → Json} {values : List α}
    (name : String) (fits : ∀ field ∈ listField name (values.map encode), field.2.Fits levels)
    (reads : ∀ inner, levels = inner + 1 → ∀ value ∈ values, (encode value).Fits inner →
      item (.text inner) (reread (encode value)) = .ok value) :
    Written (Decode.list item) levels name (heldList values)
      (listField name (values.map encode)) := by
  cases values with
  | nil => exact .absent
  | cons first rest =>
    have whole : (Json.array ((first :: rest).map encode)).Fits levels :=
      fits (name, _) (List.mem_singleton_self _)
    refine .present ?_
    cases levels with
    | zero => exact whole.elim
    | succ inner =>
      refine list_reread fun value member => ?_
      exact reads inner rfl value member
        (Json.fitsItems_iff.mp whole _ (List.mem_map_of_mem member))

namespace State

variable {level : Decoder Level} {known : Partial}

/-- The kind of a state is written so that it is read back. -/
theorem written_kind (kind : StateKind) :
    Written StateKind.decoder levels "Type" (some kind) [("Type", .string kind.name)] :=
  .present (by cases kind <;> rfl)

/-- It is written whether a state is a last one. -/
theorem written_ends (ends : Bool) :
    Written Decode.bool levels "End" (if ends then some true else none)
      (if ends then [("End", .bool true)] else []) := by
  cases ends with
  | false => exact .absent
  | true => exact .present rfl

/-- An iterator is written so that it is read back, if its level is. -/
theorem written_iterator {iterator : Option Level}
    (reads : ∀ sub, iterator = some sub →
      level (.text levels) (reread (encodeLevel sub)) = .ok sub) :
    Written (Decode.option level) levels "Iterator" (iterator.map some)
      (encodeIterator iterator) := by
  cases iterator with
  | none => exact .absent
  | some sub =>
    refine .present ?_
    have inner := reads sub rfl
    rw [Level.encode_eq] at inner ⊢
    simp only [reread, Decode.option] at inner ⊢
    rw [inner]
    rfl

/-- The other fields of a state are read back. -/
theorem read_extra {extra : Dict Json} (absent : known.extra = [])
    (separate : ∀ key ∈ Dict.keys extra, key ∉ ownKeys) (ordered : (Json.object extra).Ordered)
    (fits : Json.FitsFields extra levels) :
    foldFields (field level) (.text levels) known (rereadFields extra) =
      .ok { known with extra } := by
  have first : Dict.Ascending ([] ++ extra) := ordered.1
  have collected := foldFields_collected (field level)
    (fun extra : Dict Json => { known with extra })
    (fun name member done draft => by
      have foreign := separate name member
      simp only [ownKeys, List.mem_cons, List.not_mem_nil, or_false, not_or] at foreign
      unfold field
      split
      case h_8 => rfl
      all_goals simp at foreign)
    ordered.2 fits first
  have start : known = { known with extra := [] } := by
    obtain ⟨⟩ := known
    cases absent
    rfl
  rw [start]
  exact collected

/-- A state is read back if it keeps its other fields apart, is in order, and the levels in
it are read back. -/
theorem decoder_reread {state : State} (separate : state.Separate) (ordered : state.Ordered)
    (fits : Json.FitsFields state.encodedFields levels)
    (inBranches : ∀ inner, levels = inner + 1 → ∀ sub ∈ state.branches,
      (encodeLevel sub).Fits inner → level (.text inner) (reread (encodeLevel sub)) = .ok sub)
    (inIterator : ∀ sub, state.iterator = some sub → (encodeLevel sub).Fits levels →
      level (.text levels) (reread (encodeLevel sub)) = .ok sub) :
    decoderWith level (.text (levels + 1)) (reread state.encode) = .ok state := by
  replace fits := Json.fitsFields_iff.mp fits
  simp only [encodedFields, List.mem_append] at fits
  have rules : Written (Decode.list ChoiceRule.decoder) levels "Choices" _ _ :=
    written_list "Choices" (fun field member => fits field (by tauto))
      fun inner _ rule listed fits =>
        ChoiceRule.decoder_reread (ordered.predicates rule listed) (separate.predicates rule listed)
          fits
  have subs : Written (Decode.list level) levels "Branches" _ _ :=
    written_list "Branches" (fun field member => fits field (by tauto)) inBranches
  have iterated : Written (Decode.option level) levels "Iterator" _ _ :=
    written_iterator fun sub present =>
      inIterator sub present (fits ("Iterator", _) (by simp [present, encodeIterator]))
  have others : Json.FitsFields state.extra levels :=
    Json.fitsFields_iff.mpr fun field member => fits field (by tauto)
  have walked : foldFields (field level) (.text levels) {} (rereadFields state.encodedFields) =
      .ok {
        kind := some state.kind
        next := state.next.map some
        ends := if state.ends then some true else none
        choices := heldList state.choices
        default := state.default.map some
        branches := heldList state.branches
        iterator := state.iterator.map some
        extra := state.extra } := by
    simp only [encodedFields, rereadFields_append, foldFields_append]
    rw [foldFields_written Partial.kind (fun known kind => { known with kind })
        (fun _ _ _ => rfl) (fun _ empty => by rw [← empty]) rfl (written_kind state.kind),
      Failing.ok_bind,
      foldFields_written Partial.next (fun known next => { known with next })
        (fun _ _ _ => rfl) (fun _ empty => by rw [← empty]) rfl (written_optional "Next" state.next),
      Failing.ok_bind,
      foldFields_written Partial.ends (fun known ends => { known with ends })
        (fun _ _ _ => rfl) (fun _ empty => by rw [← empty]) rfl (written_ends state.ends),
      Failing.ok_bind,
      foldFields_written Partial.choices (fun known choices => { known with choices })
        (fun _ _ _ => rfl) (fun _ empty => by rw [← empty]) rfl rules,
      Failing.ok_bind,
      foldFields_written Partial.default (fun known default => { known with default })
        (fun _ _ _ => rfl) (fun _ empty => by rw [← empty]) rfl
        (written_optional "Default" state.default),
      Failing.ok_bind,
      foldFields_written Partial.branches (fun known branches => { known with branches })
        (fun _ _ _ => rfl) (fun _ empty => by rw [← empty]) rfl subs,
      Failing.ok_bind,
      foldFields_written Partial.iterator (fun known iterator => { known with iterator })
        (fun _ _ _ => rfl) (fun _ empty => by rw [← empty]) rfl iterated,
      Failing.ok_bind]
    exact read_extra rfl separate.extra ordered.extra others
  rw [State.encode_eq, decoderWith, reread, Decode.fields]
  simp only [Reading.enter, Failing.ok_bind, walked, close, Decode.required]
  obtain ⟨kind, next, ends, choices, default, branches, iterator, extra⟩ := state
  simp only [getD_heldList]
  cases next <;> cases ends <;> cases default <;> cases iterator <;> rfl

end State

/-! ## Heights -/

/-- A level in a state is not as high as the state. -/
theorem State.height_lt_of_mem_levels {state : State} {sub : Level} (listed : sub ∈ state.levels) :
    (reread (encodeLevel sub)).height < (reread state.encode).height := by
  rw [State.encode_eq]
  rcases List.mem_append.mp listed with branch | iterator
  · have item := List.mem_map_of_mem (f := encodeLevel) branch
    have field : ("Branches", .array (state.branches.map encodeLevel)) ∈ state.encodedFields := by
      cases branches : state.branches with
      | nil =>
        rw [branches] at branch
        cases branch
      | cons first rest => simp [State.encodedFields, branches, listField]
    exact Nat.lt_trans (Draft.height_lt_of_mem_items item) (Draft.height_lt_of_mem field)
  · have present := Option.mem_toList.mp iterator
    have field : ("Iterator", encodeLevel sub) ∈ state.encodedFields := by
      simp [State.encodedFields, present, encodeIterator]
    exact Draft.height_lt_of_mem field

/-- A state of a level is not as high as the level. -/
theorem Level.height_lt_of_mem_states {level : Level} {name : String} {state : State}
    (declared : (name, state) ∈ level.states) :
    (reread state.encode).height < (reread (encodeLevel level)).height := by
  let states := level.states.map fun entry => (entry.1, entry.2.encode)
  have inside : (name, state.encode) ∈ states := List.mem_map.mpr ⟨_, declared, rfl⟩
  have field : ("States", .object states) ∈ level.encodedFields := by
    simp [Level.encodedFields, states]
  rw [Level.encode_eq]
  exact Nat.lt_trans (Draft.height_lt_of_mem inside) (Draft.height_lt_of_mem field)

namespace Level

/-- States with distinct names are read back in their order. -/
theorem statesDecoder_reread {state : Decoder State} {states : List (String × State)}
    (distinct : (states.map Prod.fst).Nodup)
    (reads : ∀ entry ∈ states, state (.text levels) (reread entry.2.encode) = .ok entry.2) :
    statesDecoder state (.text (levels + 1))
        (reread (.object (states.map fun entry => (entry.1, entry.2.encode)))) = .ok states := by
  have walked : ∀ (behind done : List (String × State)),
      ((done ++ behind).map Prod.fst).Nodup →
      (∀ entry ∈ behind, state (.text levels) (reread entry.2.encode) = .ok entry.2) →
      foldFields (fun (done : List (String × State)) name reading draft => do
          let value ← state reading draft
          if (done.map Prod.fst).contains name then .error (.duplicateState name)
          else .ok (done ++ [(name, value)])) (.text levels) done
          (rereadFields (behind.map fun entry => (entry.1, entry.2.encode))) =
        .ok (done ++ behind) := by
    intro behind
    induction behind with
    | nil =>
      intro done _ _
      rw [List.append_nil]
      rfl
    | cons entry rest ih =>
      intro done distinct reads
      obtain ⟨name, value⟩ := entry
      have regrouped : done ++ (name, value) :: rest = (done ++ [(name, value)]) ++ rest := by simp
      have fresh : (done.map Prod.fst).contains name = false := by
        rw [List.map_append, List.nodup_append] at distinct
        have absent : name ∉ done.map Prod.fst := fun member =>
          distinct.2.2 name member name List.mem_cons_self rfl
        simpa using absent
      have first : state (.text levels) (reread value.encode) = .ok value :=
        reads _ List.mem_cons_self
      rw [regrouped] at distinct
      rw [List.map_cons, rereadFields, foldFields, Decode.key, Failing.ok_bind, first,
        Failing.ok_bind, fresh, regrouped]
      exact ih _ distinct fun later member => reads later (List.mem_cons_of_mem _ member)
  rw [reread, statesDecoder, Decode.fields]
  simp only [Reading.enter, Failing.ok_bind, walked states [] distinct reads, close,
    List.nil_append]

/-- A level is read back if its states are. -/
theorem decoderWith_reread {state : Decoder State} {level : Level}
    (reads : statesDecoder state (.text levels) (reread (.object
      (level.states.map fun entry => (entry.1, entry.2.encode)))) = .ok level.states) :
    decoderWith state (.text (levels + 1)) (reread (encodeLevel level)) = .ok level := by
  obtain ⟨comment, startAt, states⟩ := level
  have walked : foldFields (field state) (.text levels) {}
      (rereadFields (encodedFields ⟨comment, startAt, states⟩)) =
        .ok { comment := comment.map some, startAt := some startAt, states := some states } := by
    have start : Written Decode.string levels "StartAt" (some startAt)
        [("StartAt", .string startAt)] := .present rfl
    have declared : Written (statesDecoder state) levels "States" (some states)
        [("States", .object (states.map fun entry => (entry.1, entry.2.encode)))] := .present reads
    rw [encodedFields, rereadFields_append, foldFields_append,
      foldFields_written Partial.comment (fun known comment => { known with comment })
        (fun _ _ _ => rfl) (fun _ empty => by rw [← empty]) rfl (written_optional "Comment" comment),
      Failing.ok_bind, ← List.singleton_append, rereadFields_append, foldFields_append,
      foldFields_written Partial.startAt (fun known startAt => { known with startAt })
        (fun _ _ _ => rfl) (fun _ empty => by rw [← empty]) rfl start,
      Failing.ok_bind,
      foldFields_written Partial.states (fun known states => { known with states })
        (fun _ _ _ => rfl) (fun _ empty => by rw [← empty]) rfl declared]
  simp only [Level.encode_eq, reread, decoderWith, Decode.record, ofObject, Decode.fields,
    Reading.enter, Failing.ok_bind, walked, close, Decode.required]
  cases comment <;> rfl

/-- A level that is tidy everywhere is read back from a text into which it fits. -/
theorem decoderWithin_reread (level : Level) {depth : Nat} (tidy : level.Everywhere Tidy)
    (fits : (encodeLevel level).Fits levels)
    (high : (reread (encodeLevel level)).height ≤ depth) :
    decoderWithin depth (.text levels) (reread (encodeLevel level)) = .ok level := by
  induction level using Level.inclusionInduction generalizing levels depth with
  | step level ih =>
  obtain ⟨depth, rfl⟩ : ∃ less, depth = less + 1 := by
    have positive : 0 < (reread (encodeLevel level)).height := by
      rw [Level.encode_eq]
      exact Nat.succ_pos _
    exact ⟨depth - 1, by omega⟩
  have lower : ∀ name state, (name, state) ∈ level.states → ∀ sub ∈ state.levels,
      (reread (encodeLevel sub)).height ≤ depth := by
    intro name state declared sub listed
    have first := State.height_lt_of_mem_levels listed
    have second := height_lt_of_mem_states declared
    omega
  rw [Level.encode_eq] at fits
  cases levels with
  | zero => exact fits.elim
  | succ inner =>
    refine decoderWith_reread ?_
    have states : (Json.object (level.states.map fun entry => (entry.1, entry.2.encode))).Fits
        inner := Json.fitsFields_iff.mp fits ("States", _) (by simp [encodedFields])
    cases inner with
    | zero => exact states.elim
    | succ inner =>
      refine statesDecoder_reread tidy.here.distinct fun entry declared => ?_
      obtain ⟨name, state⟩ := entry
      have stateFits : state.encode.Fits inner :=
        Json.fitsFields_iff.mp states (name, state.encode) (List.mem_map.mpr ⟨_, declared, rfl⟩)
      rw [State.encode_eq] at stateFits
      cases inner with
      | zero => exact stateFits.elim
      | succ inner =>
        refine State.decoder_reread (tidy.here.separate name state declared)
          (tidy.here.ordered name state declared) stateFits ?_ ?_
        · intro deeper _ sub branch fits
          have listed := List.mem_append_left state.iterator.toList branch
          exact ih name state declared sub listed (tidy.inside declared listed) fits
            (lower name state declared sub listed)
        · intro sub present fits
          have listed : sub ∈ state.levels :=
            List.mem_append_right _ (Option.mem_toList.mpr present)
          exact ih name state declared sub listed (tidy.inside declared listed) fits
            (lower name state declared sub listed)

end Level

end Rereading

namespace Level

/-- On every level of a workflow that was decoded from a text the names of the states are
distinct, whether the level is planned or not. If the numbers of the text are integers of
64 bits, or are read back as they are written, then the text of the workflow is decoded as
the same workflow: the same states in the same order on every level, with the same
transitions, rules and other fields. -/
theorem ofText_text {text : String} {workflow : Level} (accepted : ofText text = .ok workflow) :
    workflow.Everywhere (fun level => level.names.Nodup) ∧
      ((DraftText.ofText text).draft.Numbers (fun number =>
          (∃ value : Int, number = .int value ∧ -(Nat.pow 2 63 : Int) ≤ value ∧
            value ≤ (Nat.pow 2 64 : Int) - 1) ∨
          Reader.rereadNumber number = Draft.sound (.number number)) →
        ofText workflow.text = .ok workflow) := by
  obtain ⟨level, decoded, ended⟩ := Failing.bind_eq_ok.mp accepted
  have same : level = workflow := by
    split at ended
    · cases ended
    · cases ended
      rfl
  subst same
  have tidy := tidy_of_decoder decoded
  refine ⟨tidy.mono fun _ tidy => tidy.distinct, fun numbers => ?_⟩
  have kept : (DraftText.ofText text).draft.Numbers Number.Kept := by
    refine numbers.mono fun number either => ?_
    rcases either with ⟨value, rfl, lower, upper⟩ | kept
    · exact rereadNumber_int lower upper
    · exact kept
  have fits := fits_of_decoderWithin _ ⟨_, kept, decoded⟩
  have read : decoder (.text textLevels) (reread (encodeLevel level)) = .ok level :=
    decoderWithin_reread level tidy fits (Nat.le_refl _)
  rw [ofText, Decode.text, draftText, Level.text, DraftText.ofText_compact, read]
  rfl

/-- A workflow with one state, whose level is written by position. -/
def positional : Json :=
  .array [.null, .string "Go", .object [
    ("Go", .object [("End", .bool true), ("Result", .number (.int 7)), ("Type", .string "Pass")])]]

/-- The workflow is decoded, its text is another one, by field names, and it is decoded from
that text again. -/
theorem positional_text :
    let workflow : Level := ⟨none, "Go",
      [("Go", { State.ofKind .pass with ends := true, extra := [("Result", .number (.int 7))] })]⟩
    ofText positional.compact = .ok workflow ∧ ofText workflow.text = .ok workflow ∧
      workflow.text ≠ positional.compact := by
  intro workflow
  have seven : Reader.rereadNumber (.int 7) = Draft.sound (.number (.int 7)) :=
    rereadNumber_int (by decide) (by decide)
  have read : reread positional = Draft.ofJson positional := by
    simp only [positional, reread, rereadItems, rereadFields, seven, Draft.ofJson, Draft.ofItems,
      Draft.ofFields]
  have draft : DraftText.ofText positional.compact = ⟨Draft.ofJson positional, none⟩ := by
    rw [DraftText.ofText_compact, read]
  have accepted : ofText positional.compact = .ok workflow := by
    rw [ofText, Decode.text, draft]
    rfl
  refine ⟨accepted, (ofText_text accepted).2 ?_, by decide +kernel⟩
  rw [draft]
  exact ⟨trivial, trivial, ⟨⟨trivial, .inl ⟨7, rfl, by decide, by decide⟩, trivial, trivial⟩,
    trivial⟩, trivial⟩

end Level

end EventFlow
