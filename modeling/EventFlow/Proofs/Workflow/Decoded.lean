import EventFlow.Proofs.Json.Ordered
import EventFlow.Proofs.Workflow.Nesting

/-!
# Decoded workflows

What every decoded workflow is like: on each of its levels the names of the states
are distinct, and whatever JSON its states carry is in order.
-/

namespace EventFlow

/-- The rules of a state and its other fields are in order. -/
structure State.Ordered (state : State) : Prop where
  predicates : ∀ rule ∈ state.choices, (Json.object rule.predicate).Ordered
  extra : (Json.object state.extra).Ordered

/-- What decoding makes of a level. -/
structure Level.Sound (level : Level) : Prop where
  distinct : level.names.Nodup
  ordered : ∀ name state, (name, state) ∈ level.states → state.Ordered

/-- A property of all levels in a state. -/
def State.Inside (property : Level → Prop) (state : State) : Prop :=
  (∀ branch ∈ state.branches, property branch) ∧
    ∀ level, state.iterator = some level → property level

/-- Every planned level in a state is one of its levels. -/
theorem State.Inside.sublevel {property : Level → Prop} {state : State}
    (inside : state.Inside property) {sub : Level} (planned : sub ∈ state.sublevels) :
    property sub := by
  unfold State.sublevels at planned
  split at planned
  · exact inside.1 sub planned
  · exact inside.2 sub (Option.mem_toList.mp planned)
  · exact absurd planned List.not_mem_nil

/-- The predicate of a decoded rule is in order. -/
theorem ChoiceRule.ordered_of_decoder {reading : Reading} {draft : Draft} {rule : ChoiceRule}
    (decoded : decoder reading draft = .ok rule) : (Json.object rule.predicate).Ordered := by
  obtain ⟨known, walked, decoded⟩ := Failing.bind_eq_ok.mp decoded
  obtain ⟨_, _, equal⟩ := Failing.bind_eq_ok.mp decoded
  cases equal
  refine Decode.fields_ok (motive := fun known : Partial => (Json.object known.predicate).Ordered)
    (show (Json.object []).Ordered from ⟨List.Pairwise.nil, trivial⟩) ?_ walked
  intro known name reading draft next earlier stepped
  unfold field at stepped
  split at stepped
  · obtain ⟨_, _, equal⟩ := Failing.bind_eq_ok.mp stepped
    cases equal
    exact earlier
  · obtain ⟨value, made, equal⟩ := Failing.bind_eq_ok.mp stepped
    cases equal
    exact ⟨earlier.1.insert name value, earlier.2.insert name (Decode.ordered_of_json made)⟩

/-- The items of a decoded list were decoded one by one. -/
theorem Decode.list_ok {α : Type} {item : Decoder α} {reading : Reading} {draft : Draft}
    {values : List α} (decoded : list item reading draft = .ok values) :
    ∀ value ∈ values, ∃ reading draft, item reading draft = .ok value := by
  have walked : ∀ (inner : Reading) (drafts : List Draft) (values : List α),
      items item inner drafts = .ok values →
        ∀ value ∈ values, ∃ reading draft, item reading draft = .ok value := by
    intro inner drafts
    induction drafts with
    | nil =>
        rintro values ⟨⟩ value member
        exact absurd member List.not_mem_nil
    | cons draft rest ih =>
        intro values made
        obtain ⟨first, read, made⟩ := Failing.bind_eq_ok.mp made
        obtain ⟨others, behind, equal⟩ := Failing.bind_eq_ok.mp made
        cases equal
        intro value member
        rcases List.mem_cons.mp member with rfl | later
        · exact ⟨inner, draft, read⟩
        · exact ih others behind value later
  cases draft with
  | scalar value stop => rcases value with _ | _ <;> cases decoded
  | object fields stop => cases decoded
  | array drafts stop =>
      obtain ⟨inner, _, decoded⟩ := Failing.bind_eq_ok.mp decoded
      obtain ⟨made, read, decoded⟩ := Failing.bind_eq_ok.mp decoded
      obtain ⟨_, _, equal⟩ := Failing.bind_eq_ok.mp decoded
      cases equal
      exact walked inner drafts values read

/-- An optional value that is there was decoded. -/
theorem Decode.option_ok {α : Type} {inner : Decoder α} {reading : Reading} {draft : Draft}
    {value : α} (decoded : option inner reading draft = .ok (some value)) :
    ∃ draft, inner reading draft = .ok value := by
  have mapped : ∀ draft, (inner reading draft).map some = .ok (some value) →
      inner reading draft = .ok value := by
    intro draft made
    cases read : inner reading draft with
    | error cause => simp [read, Except.map] at made
    | ok found =>
        rw [read] at made
        cases made
        rfl
  unfold option at decoded
  split at decoded
  · cases decoded
  · exact ⟨draft, mapped draft decoded⟩

/-- What is known of a state is in order, and every level in it was decoded. -/
structure State.Partial.Sound (level : Decoder Level) (known : Partial) : Prop where
  predicates : ∀ rules, known.choices = some rules →
    ∀ rule ∈ rules, (Json.object rule.predicate).Ordered
  extra : (Json.object known.extra).Ordered
  branches : ∀ branches, known.branches = some branches →
    ∀ branch ∈ branches, ∃ reading draft, level reading draft = .ok branch
  iterator : ∀ inner, known.iterator = some (some inner) →
    ∃ reading draft, level reading draft = .ok inner

/-- Decoding a field of a state keeps what is known in order. -/
theorem State.Partial.Sound.field {level : Decoder Level} {known next : Partial}
    (sound : known.Sound level) {name : String} {reading : Reading} {draft : Draft}
    (decoded : State.field level known name reading draft = .ok next) : next.Sound level := by
  obtain ⟨predicates, extra, branches, iterator⟩ := sound
  unfold State.field at decoded
  split at decoded
  case h_4 =>
    obtain ⟨filled, read, equal⟩ := Failing.bind_eq_ok.mp decoded
    cases equal
    obtain ⟨rules, rfl, made⟩ := Decode.once_eq_ok read
    refine ⟨?_, extra, branches, iterator⟩
    rintro _ ⟨⟩ rule member
    obtain ⟨_, _, decodedRule⟩ := Decode.list_ok made rule member
    exact ChoiceRule.ordered_of_decoder decodedRule
  case h_6 =>
    obtain ⟨filled, read, equal⟩ := Failing.bind_eq_ok.mp decoded
    cases equal
    obtain ⟨levels, rfl, made⟩ := Decode.once_eq_ok read
    refine ⟨predicates, extra, ?_, iterator⟩
    rintro _ ⟨⟩
    exact Decode.list_ok made
  case h_7 =>
    obtain ⟨filled, read, equal⟩ := Failing.bind_eq_ok.mp decoded
    cases equal
    obtain ⟨found, rfl, made⟩ := Decode.once_eq_ok read
    refine ⟨predicates, extra, branches, ?_⟩
    rintro inner ⟨⟩
    obtain ⟨_, decodedLevel⟩ := Decode.option_ok made
    exact ⟨_, _, decodedLevel⟩
  case h_8 =>
    obtain ⟨value, made, equal⟩ := Failing.bind_eq_ok.mp decoded
    cases equal
    exact ⟨predicates, ⟨extra.1.insert _ value, extra.2.insert _ (Decode.ordered_of_json made)⟩,
      branches, iterator⟩
  all_goals
    obtain ⟨_, _, equal⟩ := Failing.bind_eq_ok.mp decoded
    cases equal
    exact ⟨predicates, extra, branches, iterator⟩

/-- What is in a decoded state is in order, and every level in it was decoded. -/
theorem State.ordered_of_decoderWith {level : Decoder Level} {reading : Reading} {draft : Draft}
    {state : State} (decoded : decoderWith level reading draft = .ok state) :
    state.Ordered ∧ state.Inside fun inner => ∃ reading draft, level reading draft = .ok inner := by
  obtain ⟨known, walked, decoded⟩ := Failing.bind_eq_ok.mp decoded
  obtain ⟨_, _, equal⟩ := Failing.bind_eq_ok.mp decoded
  cases equal
  have nothing : ({} : Partial).Sound level :=
    ⟨nofun, ⟨List.Pairwise.nil, trivial⟩, nofun, nofun⟩
  have sound : known.Sound level :=
    Decode.fields_ok nothing (fun _ _ _ _ _ sound stepped => sound.field stepped) walked
  refine ⟨⟨?_, sound.extra⟩, ?_, ?_⟩
  · cases choices : known.choices with
    | none => exact fun rule member => absurd member List.not_mem_nil
    | some rules => exact sound.predicates rules choices
  · cases branches : known.branches with
    | none => exact fun branch member => absurd member List.not_mem_nil
    | some levels => exact sound.branches levels branches
  · cases iterator : known.iterator with
    | none => rintro inner ⟨⟩
    | some found =>
        rintro inner rfl
        exact sound.iterator inner iterator

namespace Level

/-- A property of states holds of all states of a level, and their names are
distinct. -/
def Holds (property : State → Prop) (states : List (String × State)) : Prop :=
  (states.map Prod.fst).Nodup ∧ ∀ name state, (name, state) ∈ states → property state

/-- The states of a decoded level were decoded one by one, under distinct names. -/
theorem holds_of_statesDecoder {state : Decoder State} {reading : Reading} {draft : Draft}
    {states : List (String × State)} (decoded : statesDecoder state reading draft = .ok states) :
    Holds (fun made => ∃ reading draft, state reading draft = .ok made) states := by
  refine Decode.fields_ok (motive := Holds fun made => ∃ reading draft,
    state reading draft = .ok made) (show Holds _ [] from ⟨List.nodup_nil, nofun⟩) ?_ decoded
  rintro done name reading draft next ⟨distinct, made⟩ stepped
  obtain ⟨value, read, stepped⟩ := Failing.bind_eq_ok.mp stepped
  split at stepped
  · cases stepped
  · rename_i fresh
    cases stepped
    refine ⟨?_, fun other found member => ?_⟩
    · rw [List.map_append, List.nodup_append]
      refine ⟨distinct, by simp, fun earlier member last placed equal => fresh ?_⟩
      have named : last = name := List.mem_singleton.mp placed
      exact List.contains_iff_mem.mpr (named ▸ equal ▸ member)
    · rcases List.mem_append.mp member with earlier | now
      · exact made other found earlier
      · cases List.mem_singleton.mp now
        exact ⟨reading, draft, read⟩

/-- Decoding a field of a level keeps the states that are known. -/
theorem holds_of_field {state : Decoder State} {known next : Partial}
    {property : List (String × State) → Prop}
    (decodes : ∀ reading draft states, statesDecoder state reading draft = .ok states →
      property states)
    (sound : ∀ states, known.states = some states → property states) {name : String}
    {reading : Reading} {draft : Draft}
    (decoded : field state known name reading draft = .ok next) :
    ∀ states, next.states = some states → property states := by
  unfold field at decoded
  split at decoded
  case h_3 =>
    obtain ⟨filled, read, equal⟩ := Failing.bind_eq_ok.mp decoded
    cases equal
    obtain ⟨states, rfl, made⟩ := Decode.once_eq_ok read
    rintro _ ⟨⟩
    exact decodes reading draft states made
  all_goals
    obtain ⟨_, _, equal⟩ := Failing.bind_eq_ok.mp decoded
    cases equal
    exact sound

/-- The states of a decoded level were decoded as such. -/
theorem states_of_decoderWith {state : Decoder State} {reading : Reading} {draft : Draft}
    {level : Level} (decoded : decoderWith state reading draft = .ok level) :
    ∃ reading draft, statesDecoder state reading draft = .ok level.states := by
  unfold decoderWith Decode.record at decoded
  cases draft with
  | scalar value stop => rcases value with _ | _ <;> cases decoded
  | array items stop =>
      obtain ⟨inner, _, decoded⟩ := Failing.bind_eq_ok.mp decoded
      obtain ⟨⟨_, _⟩, byPosition, decoded⟩ := Failing.bind_eq_ok.mp decoded
      obtain ⟨_, _, equal⟩ := Failing.bind_eq_ok.mp decoded
      cases equal
      obtain ⟨_, _, byPosition⟩ := Failing.bind_eq_ok.mp byPosition
      obtain ⟨_, _, byPosition⟩ := Failing.bind_eq_ok.mp byPosition
      obtain ⟨⟨states, _⟩, read, equal⟩ := Failing.bind_eq_ok.mp byPosition
      cases equal
      obtain ⟨draft, made⟩ := Decode.requiredItem_eq_ok read
      exact ⟨inner, draft, made⟩
  | object fields stop =>
      obtain ⟨known, walked, decoded⟩ := Failing.bind_eq_ok.mp decoded
      obtain ⟨_, _, decoded⟩ := Failing.bind_eq_ok.mp decoded
      obtain ⟨states, found, equal⟩ := Failing.bind_eq_ok.mp decoded
      cases equal
      have sound : ∀ states, known.states = some states →
          ∃ reading draft, statesDecoder state reading draft = .ok states := by
        refine Decode.fields_ok (motive := fun known : Partial => ∀ states,
          known.states = some states → ∃ reading draft,
            statesDecoder state reading draft = .ok states) ?_ ?_ walked
        · rintro states ⟨⟩
        · exact fun known name reading draft next earlier stepped =>
            holds_of_field (fun reading draft states made => ⟨reading, draft, made⟩) earlier stepped
      exact sound states (Decode.required_eq_ok found)

/-- What holds of the levels in a state that was decoded holds of those that are
planned in it. -/
theorem sound_of_decoderWith {inner : Decoder Level} {reading : Reading} {draft : Draft}
    {level : Level} (decoded : decoderWith (State.decoderWith inner) reading draft = .ok level) :
    level.Sound ∧ ∀ name state, (name, state) ∈ level.states → ∀ sub ∈ state.sublevels,
      ∃ reading draft, inner reading draft = .ok sub := by
  obtain ⟨_, _, made⟩ := states_of_decoderWith decoded
  obtain ⟨distinct, states⟩ := holds_of_statesDecoder made
  refine ⟨⟨distinct, fun name state declared => ?_⟩, fun name state declared sub planned => ?_⟩
  · obtain ⟨_, _, read⟩ := states name state declared
    exact (State.ordered_of_decoderWith read).1
  · obtain ⟨_, _, read⟩ := states name state declared
    exact (State.ordered_of_decoderWith read).2.sublevel planned

/-- Every level of a decoded workflow is sound. -/
theorem sound_of_decoder {reading : Reading} {draft : Draft} {workflow : Level}
    (decoded : decoder reading draft = .ok workflow) : workflow.Throughout Sound := by
  suffices within : ∀ depth reading draft level, decoderWithin depth reading draft = .ok level →
      level.Throughout Sound from within _ _ _ _ decoded
  intro depth
  induction depth with
  | zero =>
      intro reading draft level made
      cases made
  | succ depth ih =>
      intro reading draft level made
      obtain ⟨sound, inside⟩ := sound_of_decoderWith made
      refine .intro sound fun name state declared sub planned => ?_
      obtain ⟨_, _, decodedSub⟩ := inside name state declared sub planned
      exact ih _ _ _ decodedSub

end Level

end EventFlow
