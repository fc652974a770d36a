import EventFlow.Json.Reader
import EventFlow.Proofs.Decimal.Numerals

/-!
# Reading numerals

The reader takes a numeral as a whole, up to the first piece behind it that cannot
belong to it, and makes of it what its digits say. The digits of an integer of 64 bits
give this integer back.
-/

namespace EventFlow

open Decimal Text

namespace Reader

/-- What may stand behind a value: nothing, or a piece that separates or closes. -/
def Delimited (rest : List Glyph) : Prop :=
  ∀ c tail, rest = .char c :: tail → c = ',' ∨ c = ']' ∨ c = '\x7d'

/-- The values of digits. -/
def digitValues (text : List Char) : List Nat :=
  text.map fun c => c.toNat - 48

/-- A digit lies between zero and nine. -/
theorem isDigit_iff {c : Char} : c.isDigit = true ↔ '0' ≤ c ∧ c ≤ '9' := by
  simp [Char.isDigit, Char.le_def]

/-- Digits are taken up to the first piece that is none. -/
theorem spanDigits_append {text : List Char} {rest : List Glyph}
    (digits : ∀ c ∈ text, c.isDigit = true)
    (stops : ∀ c tail, rest = .char c :: tail → c.isDigit = false) :
    spanDigits (text.map Glyph.char ++ rest) = (digitValues text, rest) := by
  induction text with
  | nil =>
      rw [List.map_nil, List.nil_append]
      unfold spanDigits
      split
      · rename_i c tail
        have noDigit : ¬ ('0' ≤ c ∧ c ≤ '9') := by
          rw [← isDigit_iff, stops c tail rfl]
          simp
        rw [if_neg noDigit]
        rfl
      · rfl
  | cons c text ih =>
      have digit := isDigit_iff.mp (digits c List.mem_cons_self)
      rw [List.map_cons, List.cons_append, spanDigits, if_pos digit,
        ih fun other member => digits other (List.mem_cons_of_mem _ member)]
      rfl

/-- A delimiter ends a run of digits. -/
theorem Delimited.stops {rest : List Glyph} (delimited : Delimited rest) :
    ∀ c tail, rest = .char c :: tail → c.isDigit = false := by
  intro c tail starts
  rcases delimited c tail starts with rfl | rfl | rfl <;> decide

/-- An exponent is read with its sign. -/
theorem exponentPart_scaled {down : Bool} {digits : List Char} {rest : List Glyph}
    (written : IsDigits digits) (delimited : Delimited rest) :
    exponentPart (((if down then '-' else '+') :: digits).map Glyph.char ++ rest) =
      ((down, digitValues digits), rest) := by
  have spanned := spanDigits_append written.digits delimited.stops
  cases down <;> simp [exponentPart, spanned]

/-- Digits have values. -/
theorem digitValues_ne_nil {text : List Char} (digits : IsDigits text) : digitValues text ≠ [] := by
  simpa [digitValues] using digits.ne_nil

/-- The digits of a whole number are taken as such. -/
theorem digitValues_lead {whole : List Char} (written : IsWhole whole) :
    ∃ first rest, digitValues whole = first :: rest ∧ (first = 0 → rest = []) := by
  rcases written.lead with rfl | ⟨first, rest, rfl, lead⟩
  · exact ⟨0, [], by decide, fun _ => rfl⟩
  · refine ⟨_, _, rfl, fun zero => absurd ?_ lead⟩
    have digit := isDigit_iff.mp (written.digits first List.mem_cons_self)
    have atLeast : '0'.toNat ≤ first.toNat := digit.1
    refine Char.toNat_inj.mp (Nat.le_antisymm ?_ atLeast)
    exact Nat.sub_eq_zero_iff_le.mp zero

/-- What a whole number with a fraction but no exponent stands for. -/
def plainValue (negative : Bool) (whole : List Nat) : Option (List Nat) → Except Fault Number
  | some digits => doubleOf negative whole digits none
  | none => integerOf negative whole

/-- The digits behind a point, if there is one, and what follows them. -/
def behindPoint : List Glyph → Option (List Nat) × List Glyph
  | .char '.' :: rest => (some (spanDigits rest).1, (spanDigits rest).2)
  | rest => (none, rest)

/-- The digits behind a point, as the reader has them. -/
theorem behindPoint_eq (middle : List Glyph) :
    behindPoint middle =
      match middle with
      | .char '.' :: rest => (some (spanDigits rest).1, (spanDigits rest).2)
      | _ => (none, middle) := by
  unfold behindPoint
  split <;> rfl

/-- The number of these digits, or of these digits with the exponent that follows. -/
def scaledNumber (negative : Bool) (whole : List Nat) (fraction : Option (List Nat)) :
    List Glyph → Draft × Option (List Glyph)
  | .char c :: tail =>
    if c = 'e' ∨ c = 'E' then
      let (exponent, rest) := exponentPart tail
      if exponent.2.isEmpty then brokenNumber rest
      else numberDraft (doubleOf negative whole (fraction.getD []) (some exponent)) rest
    else numberDraft (plainValue negative whole fraction) (.char c :: tail)
  | rest => numberDraft (plainValue negative whole fraction) rest

/-- The end of a number, as the reader has it. -/
theorem eq_scaledNumber (negative : Bool) (whole : List Nat) (fraction : Option (List Nat))
    (rest : List Glyph) :
    (match rest with
      | .char c :: tail =>
        if c = 'e' ∨ c = 'E' then
          let (exponent, rest) := exponentPart tail
          if exponent.2.isEmpty then brokenNumber rest
          else numberDraft (doubleOf negative whole (fraction.getD []) (some exponent)) rest
        else
          match fraction with
          | some digits => numberDraft (doubleOf negative whole digits none) rest
          | none => numberDraft (integerOf negative whole) rest
      | _ =>
        match fraction with
        | some digits => numberDraft (doubleOf negative whole digits none) rest
        | none => numberDraft (integerOf negative whole) rest) =
      scaledNumber negative whole fraction rest := by
  unfold scaledNumber
  split
  · split
    · rfl
    · cases fraction <;> rfl
  · cases fraction <;> rfl

/-- A number is read from its whole digits, those behind the point, if there are some
wherever there have to be, and the exponent. -/
theorem readNumber_eq {negative : Bool} {input middle rest : List Glyph} {whole : List Nat}
    {fraction : Option (List Nat)} (spanned : spanDigits input = (whole, middle))
    (nonempty : whole ≠ []) (lead : ∀ others, whole = 0 :: others → others = [])
    (pointed : behindPoint middle = (fraction, rest)) (behind : fraction ≠ some []) :
    readNumber negative input = scaledNumber negative whole fraction rest := by
  rw [← eq_scaledNumber]
  unfold readNumber
  rw [spanned]
  dsimp only
  split
  · exact absurd rfl nonempty
  · cases lead _ rfl
  · split
    · next broken =>
      cases pointed.symm.trans ((behindPoint_eq middle).trans broken)
      exact absurd rfl behind
    · next parted =>
      cases pointed.symm.trans ((behindPoint_eq middle).trans parted)
      rfl

/-- What digits and an exponent stand for. -/
def numberOf (negative : Bool) (whole : List Nat) (fraction : Option (List Nat)) :
    Option (Bool × List Nat) → Except Fault Number
  | some exponent => doubleOf negative whole (fraction.getD []) (some exponent)
  | none => plainValue negative whole fraction

/-- The number that a numeral stands for. -/
def valueOf (numeral : Numeral) : Except Fault Number :=
  numberOf numeral.negative (digitValues numeral.whole) (numeral.fraction.map digitValues)
    (numeral.exponent.map fun scaling => (scaling.1, digitValues scaling.2))

/-- The digits behind a point are taken up to the first piece that is none. -/
theorem behindPoint_pointed {fraction : Option (List Char)} {rest : List Glyph}
    (digits : ∀ text, fraction = some text → IsDigits text)
    (stops : ∀ c tail, rest = .char c :: tail → c.isDigit = false)
    (noPoint : ∀ tail, rest ≠ .char '.' :: tail) :
    behindPoint ((Numeral.pointed fraction).map Glyph.char ++ rest) =
      (fraction.map digitValues, rest) := by
  cases fraction with
  | none =>
      rw [Numeral.pointed, List.map_nil, List.nil_append]
      unfold behindPoint
      split
      · exact absurd rfl (noPoint _)
      · rfl
  | some text =>
      rw [Numeral.pointed, List.map_cons, List.cons_append, behindPoint,
        spanDigits_append (digits text rfl).digits stops]
      rfl

/-- An exponent is taken with the digits before it. -/
theorem scaledNumber_scaled (negative : Bool) (whole : List Nat) (fraction : Option (List Nat))
    {exponent : Option (Bool × List Char)} {rest : List Glyph}
    (written : ∀ down text, exponent = some (down, text) → IsDigits text)
    (delimited : Delimited rest) :
    scaledNumber negative whole fraction ((Numeral.scaled exponent).map Glyph.char ++ rest) =
      numberDraft (numberOf negative whole fraction
        (exponent.map fun scaling => (scaling.1, digitValues scaling.2))) rest := by
  cases exponent with
  | none =>
      rw [Numeral.scaled, List.map_nil, List.nil_append]
      unfold scaledNumber
      split
      · rename_i c tail
        have noExponent : ¬ (c = 'e' ∨ c = 'E') := by
          rcases delimited c tail rfl with rfl | rfl | rfl <;> decide
        rw [if_neg noExponent]
        rfl
      · rfl
  | some scaling =>
      obtain ⟨down, text⟩ := scaling
      have digits := written down text rfl
      have nonempty : (digitValues text).isEmpty = false :=
        List.isEmpty_eq_false_iff.mpr (digitValues_ne_nil digits)
      rw [Numeral.scaled, List.map_cons, List.cons_append, scaledNumber, if_pos (.inl rfl),
        exponentPart_scaled digits delimited]
      simp only [nonempty, Bool.false_eq_true, if_false, Option.map_some, numberOf]

/-- Behind its sign a numeral is read as a whole. -/
theorem readNumber_unsigned (numeral : Numeral) {rest : List Glyph} (delimited : Delimited rest) :
    readNumber numeral.negative (numeral.unsigned.map Glyph.char ++ rest) =
      numberDraft (valueOf numeral) rest := by
  obtain ⟨negative, whole, fraction, exponent, wholeDigits, fractionDigits, exponentDigits⟩ := numeral
  have behindDigits : ∀ c tail, (Numeral.scaled exponent).map Glyph.char ++ rest = .char c :: tail →
      c.isDigit = false := by
    cases exponent with
    | none => exact delimited.stops
    | some scaling =>
        rintro c tail ⟨⟩
        decide
  have behindWhole : ∀ c tail, (Numeral.pointed fraction).map Glyph.char ++
      ((Numeral.scaled exponent).map Glyph.char ++ rest) = .char c :: tail → c.isDigit = false := by
    cases fraction with
    | none => exact behindDigits
    | some digits =>
        rintro c tail ⟨⟩
        decide
  have noPoint : ∀ tail, (Numeral.scaled exponent).map Glyph.char ++ rest ≠ .char '.' :: tail := by
    cases exponent with
    | none =>
        intro tail starts
        rcases delimited '.' tail starts with mark | mark | mark <;> cases mark
    | some scaling => rintro tail ⟨⟩
  have taken : fraction.map digitValues ≠ some [] := by
    cases fraction with
    | none => simp
    | some digits => simpa using digitValues_ne_nil (fractionDigits digits rfl)
  obtain ⟨first, others, values, lead⟩ := digitValues_lead wholeDigits
  have noZero : ∀ tail, digitValues whole = 0 :: tail → tail = [] := by
    intro tail starts
    rw [values, List.cons.injEq] at starts
    exact starts.2 ▸ lead starts.1
  simp only [Numeral.unsigned, List.map_append, List.append_assoc]
  rw [readNumber_eq (spanDigits_append wholeDigits.digits behindWhole)
    (digitValues_ne_nil wholeDigits.toIsDigits) noZero
    (behindPoint_pointed fractionDigits behindDigits noPoint) taken,
    scaledNumber_scaled negative _ _ exponentDigits delimited]
  rfl

/-- A value that starts with a digit is a number. -/
theorem readValue_digit (fuel : Nat) {c : Char} (digit : c.isDigit = true) (rest : List Glyph) :
    readValue (fuel + 1) (.char c :: rest) = readNumber false (.char c :: rest) := by
  have between := isDigit_iff.mp digit
  have other : ∀ mark : Char, mark.isDigit = false → c ≠ mark := by
    rintro mark none rfl
    rw [digit] at none
    cases none
  have notBlank : skipBlank (.char c :: rest) = .char c :: rest := by
    simp [skipBlank, other]
  simp [readValue, notBlank, other, between]

/-- A numeral is read as a value. -/
theorem readValue_text (fuel : Nat) (numeral : Numeral) {rest : List Glyph}
    (delimited : Delimited rest) :
    readValue (fuel + 1) (numeral.text.map Glyph.char ++ rest) =
      numberDraft (valueOf numeral) rest := by
  have read := readNumber_unsigned numeral delimited
  unfold Numeral.text
  cases sign : numeral.negative with
  | true =>
      rw [sign] at read
      rw [← read]
      rfl
  | false =>
      rw [sign] at read
      rw [← read]
      obtain ⟨first, others, whole⟩ := List.exists_cons_of_ne_nil numeral.wholeDigits.ne_nil
      have digit := numeral.wholeDigits.digits first (whole ▸ List.mem_cons_self)
      simp only [Numeral.unsigned, whole]
      exact readValue_digit fuel digit _

/-! ## Integers -/

/-- Digits that follow do not make a number smaller. -/
theorem le_ofDigitChars (text : List Char) (significand : Nat) :
    significand ≤ Nat.ofDigitChars 10 text significand := by
  induction text generalizing significand with
  | nil => exact Nat.le_refl _
  | cons c text ih =>
      have grown : significand ≤ 10 * significand + (c.toNat - '0'.toNat) := by omega
      exact Nat.le_trans grown (ih _)

/-- Digits that stand for a word are gathered as a whole. -/
theorem gather_digitValues {text : List Char} {significand : Nat}
    (word : Nat.ofDigitChars 10 text significand ≤ maxWord) :
    gather significand (digitValues text) = (Nat.ofDigitChars 10 text significand, []) := by
  induction text generalizing significand with
  | nil => rfl
  | cons c text ih =>
      have step : Nat.ofDigitChars 10 (c :: text) significand =
          Nat.ofDigitChars 10 text (significand * 10 + (c.toNat - 48)) := by
        rw [Nat.mul_comm]
        rfl
      rw [step] at word ⊢
      have within := Nat.le_trans (le_ofDigitChars text _) word
      show gather significand ((c.toNat - 48) :: digitValues text) = _
      rw [gather, if_neg (Nat.not_lt.mpr within), ih word]

/-- The digits of a word are read as an integer, with a sign if it is small enough. -/
theorem integerOf_digitText {value : Int} (lower : -(Nat.pow 2 63 : Int) ≤ value)
    (upper : value ≤ maxWord) :
    integerOf (value < 0) (digitValues (digitText value.natAbs)) = .ok (.int value) := by
  have read : Nat.ofDigitChars 10 (digitText value.natAbs) 0 = value.natAbs :=
    Nat.ofDigitChars_toDigits (by decide) (by decide)
  have small : Nat.pow 2 63 ≤ maxWord := by decide
  have word : value.natAbs ≤ maxWord := by omega
  unfold integerOf
  rw [gather_digitValues (read.symm ▸ word), read]
  by_cases negative : value < 0
  · have bound : ¬ (value.natAbs = 0 ∨ Nat.pow 2 63 < value.natAbs) := by omega
    have back : -(value.natAbs : Int) = value := by omega
    simp only [negative, decide_true, if_neg bound, back]
    rfl
  · have back : (value.natAbs : Int) = value := by omega
    simp [negative, back]

end Reader

end EventFlow
