import EventFlow.Json.Decode
import EventFlow.Proofs.Json.Numbers
import EventFlow.Proofs.Text.Utf8

/-!
# Reading what was written

The compact text of a value is read as a whole, whatever stands behind it. Strings
are read back as they were; numbers become what their digits say.
-/

namespace EventFlow

open Decimal Text

namespace Reader

/-! ## Strings -/

/-- A piece of a string body stands for a character. -/
def Stands (piece : Piece) (c : Char) : Prop :=
  ∀ cut damaged done rest,
    joinPieces cut none damaged done (piece :: rest) = joinPieces cut none damaged (c :: done) rest

/-- A character stands for itself. -/
theorem stands_char (c : Char) : Stands (.char c) c := by
  intro cut damaged done rest
  simp [joinPieces]

/-- A small unit stands for the character of its number. -/
theorem stands_unit {c : Char} (small : c.toNat < 32) : Stands (.unit c.toNat) c := by
  intro cut damaged done rest
  have noTrail : ¬ (0xDC00 ≤ c.toNat ∧ c.toNat ≤ 0xDFFF) := by omega
  have noLead : ¬ (0xD800 ≤ c.toNat ∧ c.toNat ≤ 0xDBFF) := by omega
  rw [joinPieces]
  simp only [noTrail, noLead, if_false, Char.ofNat_toNat]

/-- A hexadecimal digit is read back. -/
theorem hexValue?_hexDigit {n : Nat} (small : n < 16) : hexValue? (Json.hexDigit n) = some n := by
  have all : ∀ n < 16, hexValue? (Json.hexDigit n) = some n := by decide
  exact all n small

/-- A backslash and a mark are one piece. -/
theorem stringPieces_mark {mark c : Char} (escapes : escaped? (.char mark) = some c)
    (notUnit : mark ≠ 'u') (rest : List Glyph) :
    stringPieces (.char '\\' :: .char mark :: rest) = pushPiece (.char c) (stringPieces rest) := by
  have noUnit : Glyph.char mark ≠ .char 'u' := fun equal => notUnit (Glyph.char.inj equal)
  rw [stringPieces.eq_def]
  dsimp only
  rw [if_neg (by decide), if_pos rfl, if_neg noUnit]
  simp only [escapes]

/-- A unit is written with four hexadecimal digits, of which the first two are zeros
for the smallest. -/
theorem stringPieces_unit {n : Nat} (small : n < 256) (rest : List Glyph) :
    stringPieces (.char '\\' :: .char 'u' :: .char '0' :: .char '0' ::
        .char (Json.hexDigit (n / 16)) :: .char (Json.hexDigit (n % 16)) :: rest) =
      pushPiece (.unit n) (stringPieces rest) := by
  have high := hexValue?_hexDigit (show n / 16 < 16 by omega)
  have low := hexValue?_hexDigit (show n % 16 < 16 by omega)
  have zero : hexValue? '0' = some 0 := rfl
  have whole : ((0 * 16 + 0) * 16 + n / 16) * 16 + n % 16 = n := by omega
  have unit : hexUnit? (.char '0') (.char '0') (.char (Json.hexDigit (n / 16)))
      (.char (Json.hexDigit (n % 16))) = some n := by
    simp only [hexUnit?, high, low, zero, bind, Option.bind_some, whole]
  rw [stringPieces.eq_def]
  dsimp only
  rw [if_neg (by decide), if_pos rfl, if_pos rfl]
  simp only [unit]

/-- A character that needs no escape is one piece. -/
theorem stringPieces_plain {c : Char} (noQuote : c ≠ '"') (noBackslash : c ≠ '\\')
    (noControl : ¬ c.toNat < 32) (rest : List Glyph) :
    stringPieces (.char c :: rest) = pushPiece (.char c) (stringPieces rest) := by
  rw [stringPieces.eq_def]
  dsimp only
  rw [if_neg noQuote, if_neg noBackslash, if_neg noControl]

/-- An escaped character is one piece of a string body. -/
theorem stringPieces_escapeChar (c : Char) (rest : List Glyph) :
    ∃ piece, Stands piece c ∧
      stringPieces ((Json.escapeChar c).map Glyph.char ++ rest) =
        pushPiece piece (stringPieces rest) := by
  unfold Json.escapeChar
  split
  · next same =>
    subst same
    exact ⟨_, stands_char _, stringPieces_mark rfl (by decide) rest⟩
  next noQuote =>
  split
  · next same =>
    subst same
    exact ⟨_, stands_char _, stringPieces_mark rfl (by decide) rest⟩
  next noBackslash =>
  split
  · next same =>
    subst same
    exact ⟨_, stands_char _, stringPieces_mark rfl (by decide) rest⟩
  split
  · next same =>
    subst same
    exact ⟨_, stands_char _, stringPieces_mark rfl (by decide) rest⟩
  split
  · next same =>
    subst same
    exact ⟨_, stands_char _, stringPieces_mark rfl (by decide) rest⟩
  split
  · next same =>
    subst same
    exact ⟨_, stands_char _, stringPieces_mark rfl (by decide) rest⟩
  split
  · next same =>
    subst same
    exact ⟨_, stands_char _, stringPieces_mark rfl (by decide) rest⟩
  split
  · next small => exact ⟨_, stands_unit small, stringPieces_unit (by omega) rest⟩
  · next large => exact ⟨_, stands_char c, stringPieces_plain noQuote noBackslash large rest⟩

/-- A string body is read up to its closing mark, and its pieces stand for its
characters. -/
theorem stringPieces_body (chars : List Char) (rest : List Glyph) :
    ∃ pieces, stringPieces ((chars.flatMap Json.escapeChar).map Glyph.char ++ .char '"' :: rest) =
        (pieces, .ok rest) ∧
      ∀ cut damaged done,
        joinPieces cut none damaged done pieces = .ok (damaged, done.reverse ++ chars) := by
  induction chars with
  | nil =>
      refine ⟨[], ?_, fun cut damaged done => ?_⟩
      · rw [List.flatMap_nil, List.map_nil, List.nil_append, stringPieces.eq_def]
        exact if_pos rfl
      · simp [joinPieces]
  | cons c others ih =>
      obtain ⟨pieces, read, joined⟩ := ih
      obtain ⟨piece, stands, first⟩ := stringPieces_escapeChar c
        ((others.flatMap Json.escapeChar).map Glyph.char ++ .char '"' :: rest)
      refine ⟨piece :: pieces, ?_, fun cut damaged done => ?_⟩
      · rw [List.flatMap_cons, List.map_append, List.append_assoc, first, read]
        rfl
      · rw [stands, joined, List.reverse_cons, List.append_assoc]
        rfl

/-- A string body is read as the string. -/
theorem joined_body (text : String) (rest : List Glyph) :
    ∃ pieces,
      stringPieces ((text.toList.flatMap Json.escapeChar).map Glyph.char ++ .char '"' :: rest) =
          (pieces, .ok rest) ∧
        joined pieces (.ok rest) = .ok text := by
  obtain ⟨pieces, read, stands⟩ := stringPieces_body text.toList rest
  refine ⟨pieces, read, ?_⟩
  simp only [joined, stands, List.reverse_nil, List.nil_append, String.ofList_toList]

/-- A string is read back. -/
theorem readString_stringChars (text : String) (rest : List Glyph) :
    readString ((text.toList.flatMap Json.escapeChar).map Glyph.char ++ .char '"' :: rest) =
      (Draft.sound (.string text), some rest) := by
  obtain ⟨pieces, read, stands⟩ := joined_body text rest
  simp only [readString, read, stands]
  rfl

/-! ## Values -/

/-- What the text of a number is read as. -/
def rereadNumber (number : Number) : Draft :=
  (readValue 1 (number.text.map Glyph.char)).1

mutual

/-- What the compact text of a value is read as. -/
def reread : Json → Draft
  | .null => Draft.sound .null
  | .bool value => Draft.sound (.bool value)
  | .number value => rereadNumber value
  | .string value => Draft.sound (.string value)
  | .array items => .array (rereadItems items) none
  | .object fields => .object (rereadFields fields) none

/-- What the texts of items are read as. -/
def rereadItems : List Json → List Draft
  | [] => []
  | item :: rest => reread item :: rereadItems rest

/-- What the texts of fields are read as. -/
def rereadFields : List (String × Json) → List (Except Fault String × Draft)
  | [] => []
  | (key, value) :: rest => (.ok key, reread value) :: rereadFields rest

end

/-- Nothing stands behind the end of a text. -/
theorem delimited_nil : Delimited [] := by
  rintro c tail ⟨⟩

/-- A comma or a closing mark delimits. -/
theorem delimited_cons {c : Char} (mark : c = ',' ∨ c = ']' ∨ c = '\x7d') (rest : List Glyph) :
    Delimited (.char c :: rest) := by
  rintro _ _ ⟨⟩
  exact mark

/-- The text of a number is read as a whole. -/
theorem readValue_number (fuel : Nat) (number : Number) {rest : List Glyph}
    (delimited : Delimited rest) :
    readValue (fuel + 1) (number.text.map Glyph.char ++ rest) =
      (rereadNumber number, some rest) := by
  unfold rereadNumber
  rcases number.text_cases with word | ⟨numeral, written⟩
  · rw [word]
    rfl
  · have alone := readValue_text 0 numeral delimited_nil
    rw [List.append_nil] at alone
    rw [written, readValue_text fuel numeral delimited, alone]
    rfl

/-- An integer of 64 bits is read back as it was written. -/
theorem rereadNumber_int {value : Int} (lower : -(Nat.pow 2 63 : Int) ≤ value)
    (upper : value ≤ maxWord) : rereadNumber (.int value) = Draft.sound (.number (.int value)) := by
  have written : (Number.int value).text = _ := Number.intText_eq value
  have read := fun numeral => readValue_text 0 numeral delimited_nil
  simp only [List.append_nil] at read
  rw [rereadNumber, written, read]
  show (numberDraft (integerOf (value < 0) (digitValues (digitText value.natAbs))) []).1 = _
  rw [integerOf_digitText lower upper]
  rfl

/-- A value starts with neither a blank nor a comma nor a closing mark. -/
theorem compactChars_start (value : Json) :
    ∃ c tail, value.compactChars = c :: tail ∧
      c ∉ [' ', '\n', '\t', '\r', ',', ']', '\x7d'] := by
  cases value with
  | null => exact ⟨_, _, rfl, by decide⟩
  | bool value => cases value <;> exact ⟨_, _, rfl, by decide⟩
  | string value => exact ⟨_, _, rfl, by decide⟩
  | array items => exact ⟨_, _, rfl, by decide⟩
  | object fields => exact ⟨_, _, rfl, by decide⟩
  | number value =>
      rw [Json.compactChars]
      rcases value.text_cases with word | ⟨numeral, written⟩
      · exact ⟨_, _, word, by decide⟩
      · rw [written, Numeral.text]
        cases numeral.negative with
        | true => exact ⟨_, _, rfl, by decide⟩
        | false =>
            obtain ⟨first, others, whole⟩ := List.exists_cons_of_ne_nil numeral.wholeDigits.ne_nil
            have digit := numeral.wholeDigits.digits first (whole ▸ List.mem_cons_self)
            refine ⟨first, _, by simp only [Numeral.unsigned, whole]; rfl, fun member => ?_⟩
            simp only [List.mem_cons, List.not_mem_nil, or_false] at member
            rcases member with rfl | rfl | rfl | rfl | rfl | rfl | rfl <;> cases digit

/-- The text behind an item of an array. -/
def behindItem : List Json → List Char
  | [] => []
  | item :: rest => ',' :: Json.compactItems (item :: rest)

/-- What stands behind an item delimits it. -/
theorem delimited_behindItem (others : List Json) (rest : List Glyph) :
    Delimited ((behindItem others).map Glyph.char ++ .char ']' :: rest) := by
  cases others with
  | nil => exact delimited_cons (.inr (.inl rfl)) rest
  | cons item others => exact delimited_cons (.inl rfl) _

/-- The text of items starts with the first of them. -/
theorem compactItems_cons (item : Json) (rest : List Json) :
    Json.compactItems (item :: rest) = item.compactChars ++ behindItem rest := by
  cases rest <;> simp [Json.compactItems, behindItem]

/-- The text behind a field of an object. -/
def behindField : List (String × Json) → List Char
  | [] => []
  | field :: rest => ',' :: Json.compactFields (field :: rest)

/-- What stands behind a field delimits it. -/
theorem delimited_behindField (others : List (String × Json)) (rest : List Glyph) :
    Delimited ((behindField others).map Glyph.char ++ .char '\x7d' :: rest) := by
  cases others with
  | nil => exact delimited_cons (.inr (.inr rfl)) rest
  | cons field others => exact delimited_cons (.inl rfl) _

/-- The text of fields starts with the key of the first of them. -/
theorem compactFields_cons (key : String) (value : Json) (rest : List (String × Json)) :
    Json.compactFields ((key, value) :: rest) =
      '"' :: (key.toList.flatMap Json.escapeChar ++
        '"' :: ':' :: (value.compactChars ++ behindField rest)) := by
  cases rest <;> simp [Json.compactFields, behindField, Json.stringChars]

/-- No value is written without a character. -/
theorem length_compactChars_pos (value : Json) : 0 < value.compactChars.length := by
  obtain ⟨c, tail, starts, _⟩ := compactChars_start value
  simp [starts]

/-- No blank stands in front of a value. -/
theorem skipBlank_compact (value : Json) (rest : List Glyph) :
    skipBlank (value.compactChars.map Glyph.char ++ rest) =
      value.compactChars.map Glyph.char ++ rest := by
  obtain ⟨c, tail, starts, noMark⟩ := compactChars_start value
  rw [starts, List.map_cons, List.cons_append, skipBlank, if_neg]
  intro blank
  exact noMark (by rcases blank with rfl | rfl | rfl | rfl <;> decide)

/-- An array is read by its items. -/
theorem readValue_array {fuel : Nat} {input rest : List Glyph} {items : List Draft}
    (read : readItems fuel true input = ⟨items, none, some rest⟩) :
    readValue (fuel + 1) (.char '[' :: input) = (.array items none, some rest) := by
  have whole : readValue (fuel + 1) (.char '[' :: input) =
      (.array (readItems fuel true input).parts (readItems fuel true input).stop,
        (readItems fuel true input).rest) := rfl
  rw [whole, read]

/-- An object is read by its fields. -/
theorem readValue_object {fuel : Nat} {input rest : List Glyph}
    {fields : List (Except Fault String × Draft)}
    (read : readFields fuel true input = ⟨fields, none, some rest⟩) :
    readValue (fuel + 1) (.char '\x7b' :: input) = (.object fields none, some rest) := by
  have whole : readValue (fuel + 1) (.char '\x7b' :: input) =
      (.object (readFields fuel true input).parts (readFields fuel true input).stop,
        (readFields fuel true input).rest) := rfl
  rw [whole, read]

/-- Behind a bracket the first item is read, and then the others. -/
theorem readItems_first {fuel : Nat} {item : Json} {input behind : List Glyph} {value : Draft}
    (read : readValue fuel (item.compactChars.map Glyph.char ++ input) = (value, some behind)) :
    readItems (fuel + 2) true (item.compactChars.map Glyph.char ++ input) =
      ⟨value :: (readItems fuel false behind).parts, (readItems fuel false behind).stop,
        (readItems fuel false behind).rest⟩ := by
  obtain ⟨c, tail, starts, noMark⟩ := compactChars_start item
  have noClose : Glyph.char c ≠ .char ']' := by
    rintro ⟨⟩
    exact noMark (by decide)
  have skipped := skipBlank_compact item input
  rw [starts, List.map_cons, List.cons_append] at read skipped ⊢
  rw [readItems, skipped]
  simp only [noClose, if_false, if_true]
  rw [readItem, read]

/-- Behind a comma the next item is read, and then the others. -/
theorem readItems_next {fuel : Nat} {item : Json} {input behind : List Glyph} {value : Draft}
    (read : readValue fuel (item.compactChars.map Glyph.char ++ input) = (value, some behind)) :
    readItems (fuel + 2) false (.char ',' :: (item.compactChars.map Glyph.char ++ input)) =
      ⟨value :: (readItems fuel false behind).parts, (readItems fuel false behind).stop,
        (readItems fuel false behind).rest⟩ := by
  obtain ⟨c, tail, starts, noMark⟩ := compactChars_start item
  have noClose : Glyph.char c ≠ .char ']' := by
    rintro ⟨⟩
    exact noMark (by decide)
  have comma : ∀ rest, skipBlank (.char ',' :: rest) = .char ',' :: rest := fun _ => rfl
  have commaOpens : Glyph.char ',' ≠ .char ']' := by decide
  have skipped := skipBlank_compact item input
  rw [starts, List.map_cons, List.cons_append] at read skipped ⊢
  rw [readItems, comma]
  simp only [commaOpens, skipped, noClose, Bool.false_eq_true, if_false, if_true]
  rw [readItem, read]

/-- A field is read as its key and its value, and then the others. -/
theorem readField_eq {fuel : Nat} {key : String} {input behind : List Glyph} {value : Draft}
    (read : readValue fuel input = (value, some behind)) :
    readField (fuel + 1) ((key.toList.flatMap Json.escapeChar).map Glyph.char ++
        .char '"' :: .char ':' :: input) =
      ⟨(.ok key, value) :: (readFields fuel false behind).parts,
        (readFields fuel false behind).stop, (readFields fuel false behind).rest⟩ := by
  obtain ⟨pieces, keyRead, keyIs⟩ := joined_body key (.char ':' :: input)
  have colon : ∀ rest, skipBlank (.char ':' :: rest) = .char ':' :: rest := fun _ => rfl
  rw [readField, keyRead]
  simp only [colon, keyIs, if_true, read]

/-- Behind a brace a field is read first. -/
theorem readFields_first (fuel : Nat) (input : List Glyph) :
    readFields (fuel + 1) true (.char '"' :: input) = readField fuel input := rfl

/-- Behind a comma the next field is read. -/
theorem readFields_next (fuel : Nat) (input : List Glyph) :
    readFields (fuel + 1) false (.char ',' :: .char '"' :: input) = readField fuel input := rfl

mutual

/-- The text of a value is read as a whole. -/
theorem readValue_compact (value : Json) {rest : List Glyph} (delimited : Delimited rest)
    {fuel : Nat} (enough : 3 * value.compactChars.length ≤ fuel) :
    readValue fuel (value.compactChars.map Glyph.char ++ rest) = (reread value, some rest) := by
  have some := length_compactChars_pos value
  obtain ⟨fuel, rfl⟩ : ∃ less, fuel = less + 1 := ⟨fuel - 1, by omega⟩
  cases value with
  | null => rfl
  | bool value => cases value <;> rfl
  | number value => exact readValue_number fuel value delimited
  | string value =>
      have read := readString_stringChars value rest
      simp only [Json.compactChars, Json.stringChars, List.map_cons, List.map_append,
        List.map_nil, List.append_assoc, List.cons_append, List.nil_append]
      exact read
  | array items =>
      simp only [Json.compactChars, List.length_cons, List.length_append, List.length_nil] at enough
      simp only [Json.compactChars, List.map_cons, List.map_append, List.map_nil,
        List.append_assoc, List.cons_append, List.nil_append]
      obtain ⟨fuel, rfl⟩ : ∃ less, fuel = less + 2 := ⟨fuel - 2, by omega⟩
      refine readValue_array ?_
      cases items with
      | nil => rfl
      | cons item others =>
          rw [compactItems_cons, List.length_append] at enough
          rw [compactItems_cons, List.map_append, List.append_assoc,
            readItems_first (readValue_compact item (delimited_behindItem others rest) (by omega)),
            readItems_compact others rest (by omega)]
          rfl
  | object fields =>
      simp only [Json.compactChars, List.length_cons, List.length_append, List.length_nil] at enough
      simp only [Json.compactChars, List.map_cons, List.map_append, List.map_nil,
        List.append_assoc, List.cons_append, List.nil_append]
      obtain ⟨fuel, rfl⟩ : ∃ less, fuel = less + 2 := ⟨fuel - 2, by omega⟩
      refine readValue_object ?_
      cases fields with
      | nil => rfl
      | cons field others =>
          obtain ⟨key, value⟩ := field
          rw [compactFields_cons] at enough ⊢
          simp only [List.length_cons, List.length_append] at enough
          simp only [List.map_cons, List.map_append, List.cons_append, List.append_assoc]
          rw [readFields_first,
            readField_eq (readValue_compact value (delimited_behindField others rest) (by omega)),
            readFields_compact others rest (by omega)]
          rfl

/-- The texts behind an item are read item by item. -/
theorem readItems_compact (others : List Json) (rest : List Glyph) {fuel : Nat}
    (enough : 3 * (behindItem others).length + 1 ≤ fuel) :
    readItems fuel false ((behindItem others).map Glyph.char ++ .char ']' :: rest) =
      ⟨rereadItems others, none, some rest⟩ := by
  cases others with
  | nil =>
      obtain ⟨fuel, rfl⟩ : ∃ less, fuel = less + 1 := ⟨fuel - 1, by omega⟩
      rfl
  | cons item others =>
      rw [behindItem, compactItems_cons, List.length_cons, List.length_append] at enough
      obtain ⟨fuel, rfl⟩ : ∃ less, fuel = less + 2 := ⟨fuel - 2, by omega⟩
      rw [behindItem, compactItems_cons, List.map_cons, List.map_append, List.cons_append,
        List.append_assoc,
        readItems_next (readValue_compact item (delimited_behindItem others rest) (by omega)),
        readItems_compact others rest (by omega)]
      rfl

/-- The texts behind a field are read field by field. -/
theorem readFields_compact (others : List (String × Json)) (rest : List Glyph) {fuel : Nat}
    (enough : 3 * (behindField others).length + 1 ≤ fuel) :
    readFields fuel false ((behindField others).map Glyph.char ++ .char '\x7d' :: rest) =
      ⟨rereadFields others, none, some rest⟩ := by
  cases others with
  | nil =>
      obtain ⟨fuel, rfl⟩ : ∃ less, fuel = less + 1 := ⟨fuel - 1, by omega⟩
      rfl
  | cons field others =>
      obtain ⟨key, value⟩ := field
      rw [behindField, compactFields_cons] at enough ⊢
      simp only [List.length_cons, List.length_append] at enough
      simp only [List.map_cons, List.map_append, List.cons_append, List.append_assoc]
      obtain ⟨fuel, rfl⟩ : ∃ less, fuel = less + 2 := ⟨fuel - 2, by omega⟩
      rw [readFields_next,
        readField_eq (readValue_compact value (delimited_behindField others rest) (by omega)),
        readFields_compact others rest (by omega)]
      rfl

end

end Reader

open Reader

/-- The draft of the compact text of a value. -/
theorem DraftText.ofGlyphs_compact (value : Json) :
    ofGlyphs (value.compactChars.map Glyph.char) = ⟨reread value, none⟩ := by
  have read := readValue_compact value delimited_nil
    (show 3 * value.compactChars.length ≤ 3 * (value.compactChars.map Glyph.char).length + 3 by
      rw [List.length_map]
      omega)
  rw [List.append_nil] at read
  rw [ofGlyphs, read]
  rfl

/-- The draft of the bytes of the compact text of a value. -/
theorem DraftText.ofBytes_compact (value : Json) :
    ofBytes (bytesOf value.compact) = ⟨reread value, none⟩ := by
  rw [ofBytes, glyphsOfBytes_bytesOf, glyphsOf, Json.compact, String.toList_ofList,
    ofGlyphs_compact]

end EventFlow
