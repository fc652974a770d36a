import EventFlow.Proofs.Json.Ordered
import EventFlow.Proofs.Json.Texts

/-!
# Values that are read back

A value can be written and read back if it is not nested too deeply for a text and if its
numbers are read back from their own texts. Values that were decoded from a text are nested
no deeper than the text itself, so all that matters is how the numbers in it are written.
-/

namespace EventFlow

namespace Json

mutual

/-- A value is nested at most so deep, and all numbers in it are read back from their
texts. -/
def Fits : Json → Nat → Prop
  | .number value, _ => Reader.rereadNumber value = Draft.sound (.number value)
  | .array items, levels + 1 => FitsItems items levels
  | .object fields, levels + 1 => FitsFields fields levels
  | .array _, 0 => False
  | .object _, 0 => False
  | _, _ => True

/-- All items fit. -/
def FitsItems : List Json → Nat → Prop
  | [], _ => True
  | item :: rest, levels => Fits item levels ∧ FitsItems rest levels

/-- The values of all fields fit. -/
def FitsFields : List (String × Json) → Nat → Prop
  | [], _ => True
  | (_, value) :: rest, levels => Fits value levels ∧ FitsFields rest levels

end

end Json

namespace Reader

mutual

/-- A value that fits is read back in order. -/
theorem json_reread_of_fits {value : Json} {levels : Nat} (fits : value.Fits levels) :
    Decode.json (.text levels) (reread value) = .ok value.sorted := by
  cases value with
  | null => rfl
  | bool _ => rfl
  | number _ =>
      rw [reread, show rereadNumber _ = _ from fits]
      rfl
  | string _ => rfl
  | array items =>
      cases levels with
      | zero => exact fits.elim
      | succ levels =>
          simp only [reread, Decode.json, Reading.enter, Failing.ok_bind, Json.sorted,
            jsonItems_reread_of_fits (show Json.FitsItems items levels from fits), Decode.close]
  | object fields =>
      cases levels with
      | zero => exact fits.elim
      | succ levels =>
          simp only [reread, Decode.json, Reading.enter, Failing.ok_bind, Json.sorted,
            jsonFields_reread_of_fits (show Json.FitsFields fields levels from fits) [],
            Decode.close]

/-- Items that fit are read back one by one. -/
theorem jsonItems_reread_of_fits {items : List Json} {levels : Nat}
    (fits : Json.FitsItems items levels) :
    Decode.jsonItems (.text levels) (rereadItems items) = .ok (Json.sortedItems items) := by
  cases items with
  | nil => rfl
  | cons item rest =>
      simp only [rereadItems, Decode.jsonItems, json_reread_of_fits fits.1,
        jsonItems_reread_of_fits fits.2, Failing.ok_bind, Json.sortedItems]

/-- Fields that fit are read back into those that were read before. -/
theorem jsonFields_reread_of_fits {fields : List (String × Json)} {levels : Nat}
    (fits : Json.FitsFields fields levels) (done : Dict Json) :
    Decode.jsonFields (.text levels) done (rereadFields fields) =
      .ok (Json.sortedFields fields done) := by
  cases fields with
  | nil => rfl
  | cons field rest =>
      obtain ⟨name, value⟩ := field
      simp only [rereadFields, Decode.jsonFields, Decode.key, json_reread_of_fits fits.1,
        jsonFields_reread_of_fits fits.2, Failing.ok_bind, Json.sortedFields]

end

end Reader

/-- Items fit one by one. -/
theorem Json.fitsItems_iff {items : List Json} {levels : Nat} :
    FitsItems items levels ↔ ∀ item ∈ items, item.Fits levels := by
  induction items with
  | nil => simp [FitsItems]
  | cons item rest ih => simp [FitsItems, ih]

/-- The values of fields fit one by one. -/
theorem Json.fitsFields_iff {fields : List (String × Json)} {levels : Nat} :
    FitsFields fields levels ↔ ∀ field ∈ fields, field.2.Fits levels := by
  induction fields with
  | nil => simp [FitsFields]
  | cons field rest ih => simp [FitsFields, ih]

/-! ## Numbers of a text -/

/-- A number that is read back from its text. -/
def Number.Kept (number : Number) : Prop :=
  Reader.rereadNumber number = Draft.sound (.number number)

namespace Draft

variable {property : Number → Prop}

mutual

/-- A property of all numbers in a draft. -/
def Numbers (property : Number → Prop) : Draft → Prop
  | .scalar (.ok (.number number)) _ => property number
  | .scalar _ _ => True
  | .array items _ => ItemNumbers property items
  | .object fields _ => FieldNumbers property fields

/-- A property of all numbers in items. -/
def ItemNumbers (property : Number → Prop) : List Draft → Prop
  | [] => True
  | item :: rest => Numbers property item ∧ ItemNumbers property rest

/-- A property of all numbers in fields. -/
def FieldNumbers (property : Number → Prop) : List (Except Fault String × Draft) → Prop
  | [] => True
  | (_, value) :: rest => Numbers property value ∧ FieldNumbers property rest

end

mutual

/-- What follows from a property of numbers holds of all numbers of which the property
holds. -/
theorem Numbers.mono {weaker : Number → Prop} (follows : ∀ number, property number → weaker number)
    {draft : Draft} (numbers : draft.Numbers property) : draft.Numbers weaker := by
  cases draft with
  | scalar value stop =>
    rcases value with cause | scalar
    · trivial
    · cases scalar with
      | number number => exact follows number numbers
      | _ => trivial
  | array items stop =>
    have items : ItemNumbers property items := numbers
    exact items.mono follows
  | object fields stop =>
    have fields : FieldNumbers property fields := numbers
    exact fields.mono follows

/-- A weaker property holds of all numbers in items. -/
theorem ItemNumbers.mono {weaker : Number → Prop}
    (follows : ∀ number, property number → weaker number) {items : List Draft}
    (numbers : ItemNumbers property items) : ItemNumbers weaker items := by
  cases items with
  | nil => trivial
  | cons item rest => exact ⟨numbers.1.mono follows, ItemNumbers.mono follows numbers.2⟩

/-- A weaker property holds of all numbers in fields. -/
theorem FieldNumbers.mono {weaker : Number → Prop}
    (follows : ∀ number, property number → weaker number)
    {fields : List (Except Fault String × Draft)} (numbers : FieldNumbers property fields) :
    FieldNumbers weaker fields := by
  cases fields with
  | nil => trivial
  | cons field rest => exact ⟨numbers.1.mono follows, FieldNumbers.mono follows numbers.2⟩

end

end Draft

/-! ## Decoding from a text whose numbers are kept -/

namespace Decode

mutual

/-- A value that was decoded from a text fits into it. -/
theorem fits_of_json {levels : Nat} {draft : Draft} {value : Json} (numbers : draft.Numbers Number.Kept)
    (decoded : json (.text levels) draft = .ok value) : value.Fits levels := by
  cases draft with
  | scalar scalar stop =>
    rcases scalar with cause | scalar
    · cases decoded
    · cases scalar with
      | number number =>
        cases decoded
        exact numbers
      | _ =>
        cases decoded
        trivial
  | array items stop =>
    cases levels with
    | zero => cases decoded
    | succ inner =>
      obtain ⟨_, ⟨⟩, decoded⟩ := Failing.bind_eq_ok.mp decoded
      obtain ⟨values, made, decoded⟩ := Failing.bind_eq_ok.mp decoded
      obtain ⟨_, _, equal⟩ := Failing.bind_eq_ok.mp decoded
      cases equal
      exact fits_of_jsonItems numbers made
  | object fields stop =>
    cases levels with
    | zero => cases decoded
    | succ inner =>
      obtain ⟨_, ⟨⟩, decoded⟩ := Failing.bind_eq_ok.mp decoded
      obtain ⟨values, made, decoded⟩ := Failing.bind_eq_ok.mp decoded
      obtain ⟨_, _, equal⟩ := Failing.bind_eq_ok.mp decoded
      cases equal
      have nothing : ∀ field ∈ ([] : Dict Json), field.2.Fits inner := nofun
      exact Json.fitsFields_iff.mpr (fits_of_jsonFields numbers nothing made)

/-- Items that were decoded from a text fit into it. -/
theorem fits_of_jsonItems {levels : Nat} {items : List Draft} {values : List Json}
    (numbers : Draft.ItemNumbers Number.Kept items)
    (decoded : jsonItems (.text levels) items = .ok values) : Json.FitsItems values levels := by
  cases items with
  | nil =>
    cases decoded
    trivial
  | cons item rest =>
    rw [jsonItems] at decoded
    obtain ⟨first, made, decoded⟩ := Failing.bind_eq_ok.mp decoded
    obtain ⟨others, behind, equal⟩ := Failing.bind_eq_ok.mp decoded
    cases equal
    exact ⟨fits_of_json numbers.1 made, fits_of_jsonItems numbers.2 behind⟩

/-- Fields that were decoded from a text fit into it, behind others that do. -/
theorem fits_of_jsonFields {levels : Nat} {fields : List (Except Fault String × Draft)}
    {done values : Dict Json} (numbers : Draft.FieldNumbers Number.Kept fields)
    (fits : ∀ field ∈ done, field.2.Fits levels)
    (decoded : jsonFields (.text levels) done fields = .ok values) :
    ∀ field ∈ values, field.2.Fits levels := by
  cases fields with
  | nil =>
    cases decoded
    exact fits
  | cons field rest =>
    obtain ⟨name, draft⟩ := field
    rw [jsonFields] at decoded
    obtain ⟨key, _, decoded⟩ := Failing.bind_eq_ok.mp decoded
    obtain ⟨value, made, behind⟩ := Failing.bind_eq_ok.mp decoded
    refine fits_of_jsonFields numbers.2 (fun field member => ?_) behind
    rcases Dict.mem_insert member with rfl | earlier
    · exact fits_of_json numbers.1 made
    · exact fits field earlier

end

variable {α σ : Type} {levels : Nat}

/-- A decoder makes a value of some part of a text whose numbers are kept. -/
def Makes (decoder : Decoder α) (levels : Nat) (value : α) : Prop :=
  ∃ draft, draft.Numbers Number.Kept ∧ decoder (.text levels) draft = .ok value

/-- A walk over fields whose numbers are kept has kept whatever each of its steps keeps. -/
theorem foldFields_kept {step : σ → String → Reading → Draft → Except DecodeError σ}
    {motive : σ → Prop}
    (preserved : ∀ state name draft next, motive state → draft.Numbers Number.Kept →
      step state name (.text levels) draft = .ok next → motive next)
    {entries : List (Except Fault String × Draft)} (numbers : Draft.FieldNumbers Number.Kept entries)
    {start result : σ} (initial : motive start)
    (walked : foldFields step (.text levels) start entries = .ok result) : motive result := by
  induction entries generalizing start with
  | nil =>
    cases walked
    exact initial
  | cons entry rest ih =>
    obtain ⟨name, draft⟩ := entry
    rw [foldFields] at walked
    obtain ⟨_, _, stepped⟩ := Failing.bind_eq_ok.mp walked
    obtain ⟨next, made, behind⟩ := Failing.bind_eq_ok.mp stepped
    exact ih numbers.2 (preserved _ _ _ _ initial numbers.1 made) behind

/-- Of an object its fields are walked one level further inside. -/
theorem Makes.fields {expected : String} {start result : σ}
    {step : σ → String → Reading → Draft → Except DecodeError σ}
    (made : Makes (fields expected start step) levels result) :
    ∃ inner, levels = inner + 1 ∧ ∀ motive : σ → Prop, motive start →
      (∀ state name draft next, motive state → draft.Numbers Number.Kept →
        step state name (.text inner) draft = .ok next → motive next) → motive result := by
  obtain ⟨draft, numbers, decoded⟩ := made
  cases draft with
  | scalar value stop => cases value <;> cases decoded
  | array items stop => cases decoded
  | object entries stop =>
    cases levels with
    | zero => cases decoded
    | succ inner =>
      obtain ⟨_, ⟨⟩, decoded⟩ := Failing.bind_eq_ok.mp decoded
      obtain ⟨state, folded, decoded⟩ := Failing.bind_eq_ok.mp decoded
      obtain ⟨_, _, equal⟩ := Failing.bind_eq_ok.mp decoded
      cases equal
      exact ⟨inner, rfl, fun motive initial preserved =>
        foldFields_kept preserved numbers initial folded⟩

/-- Items whose numbers are kept are made one by one. -/
theorem makes_of_items {item : Decoder α} {drafts : List Draft} {values : List α}
    (numbers : Draft.ItemNumbers Number.Kept drafts)
    (decoded : items item (.text levels) drafts = .ok values) :
    ∀ value ∈ values, Makes item levels value := by
  induction drafts generalizing values with
  | nil =>
    cases decoded
    exact fun _ member => nomatch member
  | cons draft rest ih =>
    obtain ⟨first, stepped, decoded⟩ := Failing.bind_eq_ok.mp decoded
    obtain ⟨others, behind, equal⟩ := Failing.bind_eq_ok.mp decoded
    cases equal
    intro value member
    rcases List.mem_cons.mp member with rfl | later
    · exact ⟨draft, numbers.1, stepped⟩
    · exact ih numbers.2 behind value later

/-- The items of a list are made one level further inside. -/
theorem Makes.list {item : Decoder α} {values : List α} (made : Makes (list item) levels values) :
    ∃ inner, levels = inner + 1 ∧ ∀ value ∈ values, Makes item inner value := by
  obtain ⟨draft, numbers, decoded⟩ := made
  cases draft with
  | scalar value stop => rcases value with _ | _ <;> cases decoded
  | object fields stop => cases decoded
  | array drafts stop =>
    cases levels with
    | zero => cases decoded
    | succ inner =>
      obtain ⟨_, ⟨⟩, decoded⟩ := Failing.bind_eq_ok.mp decoded
      obtain ⟨found, read, decoded⟩ := Failing.bind_eq_ok.mp decoded
      obtain ⟨_, _, equal⟩ := Failing.bind_eq_ok.mp decoded
      cases equal
      exact ⟨inner, rfl, makes_of_items numbers read⟩

/-- An optional value that is there is made. -/
theorem Makes.option {inner : Decoder α} {value : α}
    (made : Makes (option inner) levels (some value)) : Makes inner levels value := by
  obtain ⟨draft, numbers, decoded⟩ := made
  have mapped : (inner (.text levels) draft).map some = .ok (some value) →
      inner (.text levels) draft = .ok value := by
    cases inner (.text levels) draft with
    | error cause => exact nofun
    | ok found =>
      rintro ⟨⟩
      rfl
  unfold Decode.option at decoded
  split at decoded
  · cases decoded
  · exact ⟨draft, numbers, mapped decoded⟩

/-- The next item is made, and the numbers behind it are kept. -/
theorem makes_of_nextItem {decoder : Decoder α} {rest after : Positions} {found : Option α}
    (numbers : Draft.ItemNumbers Number.Kept rest.drafts)
    (decoded : nextItem decoder (.text levels) rest = .ok (found, after)) :
    Draft.ItemNumbers Number.Kept after.drafts ∧
      ∀ value, found = some value → Makes decoder levels value := by
  unfold nextItem at decoded
  split at decoded
  · next draft drafts listed =>
    rw [listed] at numbers
    obtain ⟨value, read, equal⟩ := Failing.bind_eq_ok.mp decoded
    cases equal
    refine ⟨numbers.2, ?_⟩
    rintro _ ⟨⟩
    exact ⟨draft, numbers.1, read⟩
  · obtain ⟨_, _, equal⟩ := Failing.bind_eq_ok.mp decoded
    cases equal
    exact ⟨numbers, nofun⟩

/-- An item that must be there is made, and the numbers behind it are kept. -/
theorem makes_of_requiredItem {position : Nat} {expected : String} {decoder : Decoder α}
    {rest after : Positions} {value : α} (numbers : Draft.ItemNumbers Number.Kept rest.drafts)
    (decoded : requiredItem position expected decoder (.text levels) rest = .ok (value, after)) :
    Draft.ItemNumbers Number.Kept after.drafts ∧ Makes decoder levels value := by
  obtain ⟨⟨found, behind⟩, next, decoded⟩ := Failing.bind_eq_ok.mp decoded
  obtain ⟨kept, made⟩ := makes_of_nextItem numbers next
  cases found with
  | none => cases decoded
  | some item =>
    cases decoded
    exact ⟨kept, made value rfl⟩

end Decode

/-! ## Walks over what was written -/

namespace Reader

/-- Fields behind others are read behind them. -/
theorem rereadFields_append (front behind : List (String × Json)) :
    rereadFields (front ++ behind) = rereadFields front ++ rereadFields behind := by
  induction front with
  | nil => rfl
  | cons field rest ih => rw [List.cons_append, rereadFields, ih, rereadFields, List.cons_append]

end Reader

/-- A walk over fields goes on behind the first of them. -/
theorem Decode.foldFields_append {σ : Type}
    (step : σ → String → Reading → Draft → Except DecodeError σ) (reading : Reading) (start : σ)
    (front behind : List (Except Fault String × Draft)) :
    foldFields step reading start (front ++ behind) =
      foldFields step reading start front >>= fun state => foldFields step reading state behind := by
  induction front generalizing start with
  | nil => rfl
  | cons field rest ih =>
    obtain ⟨name, draft⟩ := field
    rw [List.cons_append, foldFields, foldFields]
    simp only [ih, bind_assoc]

/-! ## Fields that are read back -/

namespace Decode

open Reader

variable {levels : Nat}

/-- Fields that are collected are all there in the end, if they come in order. -/
theorem foldFields_collected {σ : Type} (step : σ → String → Reading → Draft → Except DecodeError σ)
    {fields : Dict Json} (collected : Dict Json → σ)
    (collects : ∀ name ∈ Dict.keys fields, ∀ done draft,
      step (collected done) name (.text levels) draft =
        Decode.json (.text levels) draft >>= fun value =>
          .ok (collected (Dict.insert done name value)))
    (ordered : Json.OrderedFields fields) (fits : Json.FitsFields fields levels) {done : Dict Json}
    (ascending : Dict.Ascending (done ++ fields)) :
    foldFields step (.text levels) (collected done) (rereadFields fields) =
      .ok (collected (done ++ fields)) := by
  induction fields generalizing done with
  | nil =>
    rw [List.append_nil]
    rfl
  | cons field rest ih =>
    obtain ⟨name, value⟩ := field
    have larger : ∀ other ∈ Dict.keys done, other < name := by
      intro other member
      rw [Dict.Ascending, Dict.keys, List.map_append, List.pairwise_append] at ascending
      exact ascending.2.2 other member name (by simp)
    have regrouped : done ++ (name, value) :: rest = (done ++ [(name, value)]) ++ rest := by simp
    rw [rereadFields, foldFields, Decode.key, Failing.ok_bind,
      collects name (by simp [Dict.keys]), json_reread_of_fits fits.1,
      Json.sorted_of_ordered ordered.1, Failing.ok_bind, Failing.ok_bind,
      Dict.insert_of_forall_lt larger, regrouped]
    rw [regrouped] at ascending
    refine ih (fun other member => collects other ?_) ordered.2 fits.2 ascending
    rw [Dict.keys, List.map_cons]
    exact List.mem_cons_of_mem _ member

/-- A list is read back if its items are. -/
theorem list_reread {α : Type} {item : Decoder α} {encode : α → Json} {values : List α}
    (reads : ∀ value ∈ values, item (.text levels) (reread (encode value)) = .ok value) :
    Decode.list item (.text (levels + 1)) (reread (.array (values.map encode))) = .ok values := by
  have walked : items item (.text levels) (rereadItems (values.map encode)) = .ok values := by
    induction values with
    | nil => rfl
    | cons value rest ih =>
      simp only [List.map_cons, rereadItems, items, reads value List.mem_cons_self,
        ih fun later member => reads later (List.mem_cons_of_mem _ member), Failing.ok_bind]
  simp only [Decode.list, reread, Reading.enter, Failing.ok_bind, walked, close]

/-- A field that is not written, or is written so that its value is read back. -/
inductive Written {α : Type} (decoder : Decoder α) (levels : Nat) (name : String) :
    Option α → List (String × Json) → Prop where
  | absent : Written decoder levels name none []
  | present {value : α} {json : Json} (reads : decoder (.text levels) (reread json) = .ok value) :
      Written decoder levels name (some value) [(name, json)]

/-- A walk over a field that may occur once puts what was written into its empty place. -/
theorem foldFields_written {σ α : Type}
    {step : σ → String → Reading → Draft → Except DecodeError σ} {decoder : Decoder α}
    {name : String} (slot : σ → Option α) (fill : σ → Option α → σ)
    (steps : ∀ known reading draft, step known name reading draft =
      Decode.once name (slot known) decoder reading draft >>= fun filled => .ok (fill known filled))
    (unfilled : ∀ known, slot known = none → fill known none = known) {known : σ}
    (empty : slot known = none) {value : Option α} {fields : List (String × Json)}
    (written : Written decoder levels name value fields) :
    foldFields step (.text levels) known (rereadFields fields) = .ok (fill known value) := by
  cases written with
  | absent =>
    rw [unfilled known empty]
    rfl
  | present reads =>
    simp only [rereadFields, foldFields, Decode.key, Failing.ok_bind, steps, empty, Decode.once,
      reads]
    rfl

end Decode

/-! ## Heights -/

/-- A field is not as high as its object. -/
theorem Draft.height_lt_of_mem {fields : List (String × Json)} {name : String} {value : Json}
    (member : (name, value) ∈ fields) :
    (Reader.reread value).height < (Reader.reread (.object fields)).height := by
  have bounded : (Reader.reread value).height ≤ Draft.fieldsHeight (Reader.rereadFields fields) := by
    induction fields with
    | nil => cases member
    | cons field rest ih =>
      rcases List.mem_cons.mp member with rfl | later
      · exact Nat.le_max_left _ _
      · exact Nat.le_trans (ih later) (Nat.le_max_right _ _)
  exact Nat.lt_succ_of_le bounded

/-- An item is not as high as its array. -/
theorem Draft.height_lt_of_mem_items {items : List Json} {item : Json} (member : item ∈ items) :
    (Reader.reread item).height < (Reader.reread (.array items)).height := by
  have bounded : (Reader.reread item).height ≤ Draft.itemsHeight (Reader.rereadItems items) := by
    induction items with
    | nil => cases member
    | cons first rest ih =>
      rcases List.mem_cons.mp member with rfl | later
      · exact Nat.le_max_left _ _
      · exact Nat.le_trans (ih later) (Nat.le_max_right _ _)
  exact Nat.lt_succ_of_le bounded

/-- The draft of the compact text of a value, read as characters. -/
theorem DraftText.ofText_compact (value : Json) :
    ofText value.compact = ⟨Reader.reread value, none⟩ := by
  rw [ofText, Text.glyphsOf, Json.compact, String.toList_ofList, ofGlyphs_compact]

end EventFlow
