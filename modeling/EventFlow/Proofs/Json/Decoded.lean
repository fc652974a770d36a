import EventFlow.Json.Decode
import EventFlow.Proofs.Dict
import EventFlow.Proofs.Failing

/-!
# What decoding succeeds with

Successful runs of the decoders for containers, taken apart: a walk over fields has
kept what each of its steps keeps, and a dictionary has ascending names and values
that were decoded one by one.
-/

namespace EventFlow.Decode

variable {α σ : Type}

/-- A successful walk over fields has kept whatever each of its steps keeps. -/
theorem foldFields_ok {step : σ → String → Reading → Draft → Except DecodeError σ}
    {reading : Reading} {motive : σ → Prop}
    (preserved : ∀ state name draft next, motive state → step state name reading draft = .ok next →
      motive next) {entries : List (Except Fault String × Draft)} {start result : σ}
    (initial : motive start) (walked : foldFields step reading start entries = .ok result) :
    motive result := by
  induction entries generalizing start with
  | nil =>
    cases walked
    exact initial
  | cons entry rest ih =>
    obtain ⟨name, draft⟩ := entry
    rw [foldFields] at walked
    obtain ⟨_, _, stepped⟩ := Failing.bind_eq_ok.mp walked
    obtain ⟨next, made, behind⟩ := Failing.bind_eq_ok.mp stepped
    exact ih (preserved _ _ _ _ initial made) behind

/-- An object whose fields were walked has kept whatever each of the steps keeps. -/
theorem fields_ok {expected : String} {start result : σ}
    {step : σ → String → Reading → Draft → Except DecodeError σ} {reading : Reading}
    {draft : Draft} {motive : σ → Prop} (initial : motive start)
    (preserved : ∀ state name reading draft next, motive state →
      step state name reading draft = .ok next → motive next)
    (walked : fields expected start step reading draft = .ok result) : motive result := by
  unfold fields at walked
  cases draft with
  | scalar value stop => cases value <;> cases walked
  | array items stop => cases walked
  | object entries stop =>
    obtain ⟨inner, _, entered⟩ := Failing.bind_eq_ok.mp walked
    obtain ⟨state, folded, closed⟩ := Failing.bind_eq_ok.mp entered
    obtain ⟨_, _, equal⟩ := Failing.bind_eq_ok.mp closed
    cases equal
    exact foldFields_ok (fun state name draft next => preserved state name inner draft next)
      initial folded

/-- A decoded dictionary has ascending names and decoded values. -/
theorem dict_ok {value : Decoder α} {reading : Reading} {draft : Draft} {entries : Dict α}
    (decoded : dict value reading draft = .ok entries) :
    Dict.Ascending entries ∧ ∀ entry ∈ entries, ∃ reading draft,
      value reading draft = .ok entry.2 := by
  refine fields_ok (motive := fun entries => Dict.Ascending entries ∧ ∀ entry ∈ entries,
    ∃ reading draft, value reading draft = .ok entry.2) ?_ ?_ decoded
  · exact ⟨List.Pairwise.nil, fun _ member => absurd member List.not_mem_nil⟩
  · rintro done name reading draft next ⟨ascending, made⟩ stepped
    obtain ⟨item, read, equal⟩ := Failing.bind_eq_ok.mp stepped
    cases equal
    refine ⟨ascending.insert name item, fun entry member => ?_⟩
    rcases Dict.mem_insert member with rfl | earlier
    · exact ⟨reading, draft, read⟩
    · exact made entry earlier

/-- A field that may occur once holds what was decoded. -/
theorem once_eq_ok {name : String} {slot filled : Option α} {decoder : Decoder α}
    {reading : Reading} {draft : Draft} (decoded : once name slot decoder reading draft = .ok filled) :
    ∃ value, filled = some value ∧ decoder reading draft = .ok value := by
  cases slot with
  | some _ => cases decoded
  | none =>
    unfold once at decoded
    cases read : decoder reading draft with
    | error cause =>
      rw [read] at decoded
      cases decoded
    | ok value =>
      rw [read] at decoded
      cases decoded
      exact ⟨value, rfl, rfl⟩

/-- The next item is one that was decoded. -/
theorem nextItem_eq_ok {decoder : Decoder α} {reading : Reading} {rest after : Positions}
    {found : Option α} (decoded : nextItem decoder reading rest = .ok (found, after)) :
    ∀ value, found = some value → ∃ draft, decoder reading draft = .ok value := by
  unfold nextItem at decoded
  split at decoded
  · obtain ⟨value, read, equal⟩ := Failing.bind_eq_ok.mp decoded
    cases equal
    rintro _ ⟨⟩
    exact ⟨_, read⟩
  · obtain ⟨_, _, equal⟩ := Failing.bind_eq_ok.mp decoded
    cases equal
    rintro _ ⟨⟩

/-- The item at a position is one that was decoded. -/
theorem requiredItem_eq_ok {position : Nat} {expected : String} {decoder : Decoder α}
    {reading : Reading} {rest after : Positions} {value : α}
    (decoded : requiredItem position expected decoder reading rest = .ok (value, after)) :
    ∃ draft, decoder reading draft = .ok value := by
  obtain ⟨⟨found, behind⟩, next, decoded⟩ := Failing.bind_eq_ok.mp decoded
  cases found with
  | none => cases decoded
  | some item =>
    cases decoded
    exact nextItem_eq_ok next value rfl

/-- The value of a field that must be there is the one that was decoded. -/
theorem required_eq_ok {name : String} {slot : Option α} {value : α}
    (found : required name slot = .ok value) : slot = some value := by
  cases slot with
  | none => cases found
  | some value =>
    cases found
    rfl

end EventFlow.Decode
