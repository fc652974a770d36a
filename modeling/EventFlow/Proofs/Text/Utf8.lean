import EventFlow.Text.Utf8

/-!
# Texts as bytes and back

The bytes of a text are read as the characters of the text: no piece of it is lost
or strays.
-/

namespace EventFlow.Text

/-- A byte made of a number in its range is that number. -/
theorem toNat_byte {n : Nat} (small : n < 256) : (UInt8.ofNat n).toNat = n := by
  rw [UInt8.toNat_ofNat', Nat.mod_eq_of_lt small]

/-- The six low bits of a code point travel in a continuation byte. -/
theorem tailBits_byte (v : Nat) : tailBits (UInt8.ofNat (v % 64 + 128)) = v % 64 := by
  rw [tailBits, toNat_byte (by omega)]
  omega

/-- A byte that carries six bits continues a character. -/
theorem isTail_byte (v : Nat) : isTail (UInt8.ofNat (v % 64 + 128)) = true := by
  have value := toNat_byte (show v % 64 + 128 < 256 by omega)
  simp only [isTail, Bool.and_eq_true, decide_eq_true_iff, UInt8.le_iff_toNat_le, value]
  constructor
  · show 128 ≤ v % 64 + 128
    omega
  · show v % 64 + 128 ≤ 191
    omega

section FirstGlyph

variable {lead b c d : UInt8} {rest : List UInt8}

/-- A character of one byte. -/
theorem firstGlyph_one (ascii : lead.toNat < 128) :
    firstGlyph lead rest = .char (Char.ofNat lead.toNat) := by
  have small : lead < 0x80 := UInt8.lt_iff_toNat_lt.mpr ascii
  simp only [firstGlyph, small, if_true]

/-- A character of two bytes. -/
theorem firstGlyph_two (low : 0xC2 ≤ lead.toNat) (high : lead.toNat ≤ 0xDF)
    (second : isTail b = true) :
    firstGlyph lead (b :: rest) = .char (Char.ofNat (lead.toNat % 32 * 64 + tailBits b)) := by
  have notOne : ¬ lead < 0x80 := by
    rw [UInt8.lt_iff_toNat_lt]
    exact Nat.not_lt.mpr (Nat.le_trans (by decide) low)
  have two : (0xC2 ≤ lead && lead ≤ 0xDF) = true := by
    simp only [Bool.and_eq_true, decide_eq_true_iff, UInt8.le_iff_toNat_le]
    exact ⟨low, high⟩
  simp only [firstGlyph, notOne, if_false, two, if_true, second]

/-- A character of three bytes. -/
theorem firstGlyph_three (low : 0xE0 ≤ lead.toNat) (high : lead.toNat ≤ 0xEF)
    (second : fitsLead lead b = true) (third : isTail c = true) :
    firstGlyph lead (b :: c :: rest) =
      .char (Char.ofNat ((lead.toNat % 16 * 64 + tailBits b) * 64 + tailBits c)) := by
  have notOne : ¬ lead < 0x80 := by
    rw [UInt8.lt_iff_toNat_lt]
    exact Nat.not_lt.mpr (Nat.le_trans (by decide) low)
  have notTwo : (0xC2 ≤ lead && lead ≤ 0xDF) = false := by
    rw [Bool.and_eq_false_iff]
    refine .inr (decide_eq_false ?_)
    rw [UInt8.le_iff_toNat_le]
    exact Nat.not_le.mpr (Nat.lt_of_lt_of_le (by decide) low)
  have three : (0xE0 ≤ lead && lead ≤ 0xEF) = true := by
    simp only [Bool.and_eq_true, decide_eq_true_iff, UInt8.le_iff_toNat_le]
    exact ⟨low, high⟩
  simp [firstGlyph, notOne, notTwo, three, second, third]

/-- A character of four bytes. -/
theorem firstGlyph_four (low : 0xF0 ≤ lead.toNat) (high : lead.toNat ≤ 0xF4)
    (second : fitsLead lead b = true) (third : isTail c = true) (fourth : isTail d = true) :
    firstGlyph lead (b :: c :: d :: rest) =
      .char (Char.ofNat
        (((lead.toNat % 8 * 64 + tailBits b) * 64 + tailBits c) * 64 + tailBits d)) := by
  have notOne : ¬ lead < 0x80 := by
    rw [UInt8.lt_iff_toNat_lt]
    exact Nat.not_lt.mpr (Nat.le_trans (by decide) low)
  have notTwo : (0xC2 ≤ lead && lead ≤ 0xDF) = false := by
    rw [Bool.and_eq_false_iff]
    refine .inr (decide_eq_false ?_)
    rw [UInt8.le_iff_toNat_le]
    exact Nat.not_le.mpr (Nat.lt_of_lt_of_le (by decide) low)
  have notThree : (0xE0 ≤ lead && lead ≤ 0xEF) = false := by
    rw [Bool.and_eq_false_iff]
    refine .inr (decide_eq_false ?_)
    rw [UInt8.le_iff_toNat_le]
    exact Nat.not_le.mpr (Nat.lt_of_lt_of_le (by decide) low)
  have four : (0xF0 ≤ lead && lead ≤ 0xF4) = true := by
    simp only [Bool.and_eq_true, decide_eq_true_iff, UInt8.le_iff_toNat_le]
    exact ⟨low, high⟩
  simp [firstGlyph, notOne, notTwo, notThree, four, second, third, fourth]

end FirstGlyph

/-- What the second byte of a character has to be, in numbers. -/
theorem fitsLead_byte {lead second : Nat} (small : lead < 256) (tail : second < 64)
    (overlong3 : lead = 0xE0 → 32 ≤ second) (surrogate : lead = 0xED → second < 32)
    (overlong4 : lead = 0xF0 → 16 ≤ second) (last : lead = 0xF4 → second < 16) :
    fitsLead (UInt8.ofNat lead) (UInt8.ofNat (second + 128)) = true := by
  have leadIs : ∀ n : Nat, n < 256 → (UInt8.ofNat lead = UInt8.ofNat n ↔ lead = n) := by
    intro n bound
    rw [← UInt8.toNat_inj, toNat_byte small, toNat_byte bound]
  have value := toNat_byte (show second + 128 < 256 by omega)
  have isTailed : isTail (UInt8.ofNat (second + 128)) = true := by
    have carried := isTail_byte second
    rwa [Nat.mod_eq_of_lt tail] at carried
  have between : ∀ low high : Nat, low ≤ second + 128 → second + 128 ≤ high →
      (decide (low ≤ second + 128) && decide (second + 128 ≤ high)) = true := by
    intro low high above below
    simp [above, below]
  simp only [fitsLead, UInt8.le_iff_toNat_le, value, isTailed]
  split
  · rename_i is
    have lead := (leadIs 0xE0 (by omega)).mp is
    exact between 0xA0 0xBF (by omega) (by omega)
  · split
    · rename_i is
      have lead := (leadIs 0xED (by omega)).mp is
      exact between 0x80 0x9F (by omega) (by omega)
    · split
      · rename_i is
        have lead := (leadIs 0xF0 (by omega)).mp is
        exact between 0x90 0xBF (by omega) (by omega)
      · split
        · rename_i is
          have lead := (leadIs 0xF4 (by omega)).mp is
          exact between 0x80 0x8F (by omega) (by omega)
        · rfl

/-- The first piece of the bytes of a character is the character. -/
theorem firstGlyph_utf8EncodeChar (c : Char) :
    ∃ lead tail, String.utf8EncodeChar c = lead :: tail ∧
      ∀ rest, firstGlyph lead (tail ++ rest) = .char c := by
  have valid := c.valid
  have back : Char.ofNat c.val.toNat = c := Char.ofNat_toNat c
  simp only [UInt32.isValidChar, Nat.isValidChar] at valid
  unfold String.utf8EncodeChar
  generalize c.val.toNat = v at valid back
  dsimp only
  split
  · refine ⟨_, _, rfl, fun rest => ?_⟩
    have value := toNat_byte (show v < 256 by omega)
    rw [firstGlyph_one (by omega), value, back]
  · split
    · refine ⟨_, _, rfl, fun rest => ?_⟩
      have value := toNat_byte (show v / 64 % 32 + 192 < 256 by omega)
      rw [List.cons_append, firstGlyph_two (by omega) (by omega) (isTail_byte v), value,
        tailBits_byte]
      have whole : (v / 64 % 32 + 192) % 32 * 64 + v % 64 = v := by omega
      rw [whole, back]
    · split
      · refine ⟨_, _, rfl, fun rest => ?_⟩
        have value := toNat_byte (show v / 4096 % 16 + 224 < 256 by omega)
        rw [List.cons_append, List.cons_append, firstGlyph_three (by omega) (by omega)
          (fitsLead_byte (by omega) (by omega) (by omega) (by omega) (by omega) (by omega))
          (isTail_byte v), value, tailBits_byte, tailBits_byte]
        have whole : ((v / 4096 % 16 + 224) % 16 * 64 + v / 64 % 64) * 64 + v % 64 = v := by omega
        rw [whole, back]
      · refine ⟨_, _, rfl, fun rest => ?_⟩
        have value := toNat_byte (show v / 262144 % 8 + 240 < 256 by omega)
        rw [List.cons_append, List.cons_append, List.cons_append,
          firstGlyph_four (by omega) (by omega)
            (fitsLead_byte (by omega) (by omega) (by omega) (by omega) (by omega) (by omega))
            (isTail_byte _) (isTail_byte v), value, tailBits_byte, tailBits_byte, tailBits_byte]
        have whole : (((v / 262144 % 8 + 240) % 8 * 64 + v / 4096 % 64) * 64 + v / 64 % 64) * 64 +
            v % 64 = v := by omega
        rw [whole, back]

/-- The bytes of characters are read as these characters. -/
theorem glyphsWithin_flatMap (chars : List Char) (fuel : Nat)
    (enough : (chars.flatMap String.utf8EncodeChar).length ≤ fuel) :
    glyphsWithin fuel (chars.flatMap String.utf8EncodeChar) = chars.map Glyph.char := by
  induction chars generalizing fuel with
  | nil => cases fuel <;> rfl
  | cons c rest ih =>
      obtain ⟨lead, tail, encoded, first⟩ := firstGlyph_utf8EncodeChar c
      have size : tail.length + 1 = c.utf8Size := by
        rw [← String.length_utf8EncodeChar, encoded, List.length_cons]
      rw [List.flatMap_cons, encoded, List.cons_append] at enough ⊢
      rw [List.length_cons, List.length_append] at enough
      cases fuel with
      | zero => omega
      | succ fuel =>
          have behind : (tail ++ rest.flatMap String.utf8EncodeChar).drop (c.utf8Size - 1) =
              rest.flatMap String.utf8EncodeChar := by
            rw [← size, Nat.add_sub_cancel, List.drop_left]
          rw [glyphsWithin, first, Glyph.width, behind, ih fuel (by omega), List.map_cons]

/-- A byte array is listed from its first byte to its last. -/
theorem toList_eq_data (bytes : ByteArray) : bytes.toList = bytes.data.toList := by
  have size : bytes.size = bytes.data.toList.length := rfl
  have loop : ∀ (remaining i : Nat) (found : List UInt8), bytes.size - i = remaining →
      ByteArray.toList.loop bytes i found = found.reverse ++ bytes.data.toList.drop i := by
    intro remaining
    induction remaining with
    | zero =>
        intro i found done
        have beyond : ¬ i < bytes.size := by omega
        rw [ByteArray.toList.loop, if_neg beyond, List.drop_eq_nil_of_le (by omega),
          List.append_nil]
    | succ remaining ih =>
        intro i found left
        have inside : i < bytes.size := by omega
        have read : bytes.get! i = bytes.data.toList[i] := getElem!_pos bytes.data i inside
        have next : bytes.data.toList.drop i =
            bytes.data.toList[i] :: bytes.data.toList.drop (i + 1) :=
          List.drop_eq_getElem_cons inside
        rw [ByteArray.toList.loop, if_pos inside, ih _ _ (by omega), next, read]
        simp
  simpa [ByteArray.toList] using loop bytes.size 0 [] rfl

/-- The bytes of a text are those of its characters, one after the other. -/
theorem bytesOf_eq_flatMap (text : String) :
    bytesOf text = text.toList.flatMap String.utf8EncodeChar := by
  rw [bytesOf, String.toUTF8_eq_toByteArray, ← String.utf8Encode_toList, List.utf8Encode,
    toList_eq_data, List.data_toByteArray]

/-- The pieces of the bytes of a text are the characters of the text. -/
theorem glyphsOfBytes_bytesOf (text : String) : glyphsOfBytes (bytesOf text) = glyphsOf text := by
  rw [glyphsOfBytes, bytesOf_eq_flatMap, glyphsWithin_flatMap _ _ (Nat.le_refl _), glyphsOf]

/-- Different texts have different bytes. -/
theorem bytesOf_injective {first second : String} (same : bytesOf first = bytesOf second) :
    first = second := by
  have glyphs : glyphsOf first = glyphsOf second := by
    rw [← glyphsOfBytes_bytesOf, same, glyphsOfBytes_bytesOf]
  exact String.toList_injective ((List.map_inj_right fun _ _ => Glyph.char.inj).mp glyphs)

end EventFlow.Text
