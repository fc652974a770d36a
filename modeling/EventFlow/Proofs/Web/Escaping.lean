import EventFlow.Proofs.Text.Utf8
import EventFlow.Web.Percent

/-!
# Percent encoding and back

Where the percent sign itself is encoded, an encoded text is decoded to the bytes of the text, and
so different texts differ in their encoded forms. Of the characters that are encoded, an encoded
text holds none but percent signs and hexadecimal digits.
-/

namespace EventFlow.Web.Percent

open Text

/-- A hexadecimal digit is read back. -/
theorem hexValue?_hexDigit {n : Nat} (small : n < 16) : hexValue? (hexDigit n) = some n := by
  have all : ∀ n < 16, hexValue? (hexDigit n) = some n := by decide
  exact all n small

/-- An encoded byte is decoded. -/
theorem decode_encodeByte (byte : UInt8) (rest : List Char) :
    decode (encodeByte byte ++ rest) = byte :: decode rest := by
  have bound : byte.toNat < 256 := byte.toNat_lt
  have high := hexValue?_hexDigit (show byte.toNat / 16 < 16 by omega)
  have low := hexValue?_hexDigit (show byte.toNat % 16 < 16 by omega)
  have whole : byte.toNat / 16 * 16 + byte.toNat % 16 = byte.toNat := by omega
  simp only [encodeByte, List.cons_append, List.nil_append, decode, high, low, whole,
    UInt8.ofNat_toNat]

/-- Encoded bytes are decoded. -/
theorem decode_encodeBytes (bytes : List UInt8) (rest : List Char) :
    decode (bytes.flatMap encodeByte ++ rest) = bytes ++ decode rest := by
  induction bytes with
  | nil => rfl
  | cons byte bytes ih =>
      rw [List.flatMap_cons, List.append_assoc, decode_encodeByte, ih, List.cons_append]

/-- The bytes of a single character. -/
theorem bytesOf_singleton (c : Char) : bytesOf (String.singleton c) = String.utf8EncodeChar c := by
  rw [bytesOf_eq_flatMap, String.toList_singleton, List.flatMap_singleton]

/-- A character other than the percent sign stands for itself. -/
theorem decode_cons {c : Char} (plain : c ≠ '%') (rest : List Char) :
    decode (c :: rest) = String.utf8EncodeChar c ++ decode rest := by
  rw [← bytesOf_singleton]
  cases rest with
  | nil => simp [decode]
  | cons a rest => cases rest <;> simp [decode, plain]

/-- An encoded text is decoded to the bytes of the text. -/
theorem decode_encodeChars {encoded : Encoded} (marks : encoded '%' = true) (chars : List Char) :
    decode (encodeChars encoded chars) = chars.flatMap String.utf8EncodeChar := by
  induction chars with
  | nil => rfl
  | cons c chars ih =>
      rw [encodeChars, List.flatMap_cons, List.flatMap_cons, ← ih]
      cases hidden : encoded c with
      | true =>
          rw [if_pos rfl, encodeChar, decode_encodeBytes, bytesOf_singleton]
          rfl
      | false =>
          have plain : c ≠ '%' := by
            rintro rfl
            rw [marks] at hidden
            cases hidden
          rw [if_neg Bool.false_ne_true, List.singleton_append, decode_cons plain]
          rfl

/-- Encoded texts are decoded to the bytes of the text. -/
theorem decode_encode {encoded : Encoded} (marks : encoded '%' = true) (text : String) :
    decode (encode encoded text.toList).toList = bytesOf text := by
  rw [encode, String.toList_ofList, decode_encodeChars marks, bytesOf_eq_flatMap]

/-- Different texts differ in their encoded forms. -/
theorem encode_injective {encoded : Encoded} (marks : encoded '%' = true) {first second : String}
    (same : encode encoded first.toList = encode encoded second.toList) : first = second := by
  apply bytesOf_injective
  rw [← decode_encode marks, same, decode_encode marks]

/-- A character that is encoded, and with which no byte is written, is not in an encoded text. -/
theorem not_mem_encodeChars {encoded : Encoded} {c : Char} (hidden : encoded c = true)
    (noMark : c ≠ '%') (noDigit : ∀ n < 16, c ≠ hexDigit n) (chars : List Char) :
    c ∉ encodeChars encoded chars := by
  intro member
  obtain ⟨d, -, inside⟩ := List.mem_flatMap.mp member
  split at inside
  · obtain ⟨byte, -, written⟩ := List.mem_flatMap.mp inside
    have bound : byte.toNat < 256 := byte.toNat_lt
    simp only [encodeByte, List.mem_cons, List.not_mem_nil, or_false] at written
    rcases written with mark | high | low
    · exact noMark mark
    · exact noDigit _ (by omega) high
    · exact noDigit _ (by omega) low
  · next shown =>
    cases List.mem_singleton.mp inside
    exact shown hidden

end EventFlow.Web.Percent
