import EventFlow.Json.Writer

/-!
# Numerals

Whatever number is written, its text is a numeral: digits without a needless zero in
front, and behind them digits after a point or an exponent, as the case may be. Only
doubles that are no numbers are written as a word.
-/

namespace EventFlow

namespace Decimal

/-- A text of digits, one at least. -/
structure IsDigits (text : List Char) : Prop where
  ne_nil : text ≠ []
  digits : ∀ c ∈ text, c.isDigit = true

/-- A zero is a digit. -/
theorem IsDigits.zero : IsDigits ['0'] :=
  ⟨by simp, List.forall_mem_singleton.mpr rfl⟩

/-- Digits that do not start with a zero, unless it is the only one. -/
structure IsWhole (text : List Char) : Prop extends IsDigits text where
  lead : text = ['0'] ∨ ∃ first rest, text = first :: rest ∧ first ≠ '0'

/-- The parts of a numeral. A sign of the exponent is always written. -/
structure Numeral where
  negative : Bool
  whole : List Char
  fraction : Option (List Char)
  exponent : Option (Bool × List Char)
  wholeDigits : IsWhole whole
  fractionDigits : ∀ digits, fraction = some digits → IsDigits digits
  exponentDigits : ∀ down digits, exponent = some (down, digits) → IsDigits digits

namespace Numeral

/-- The point and the digits behind it. -/
def pointed : Option (List Char) → List Char
  | none => []
  | some digits => '.' :: digits

/-- The exponent with its sign. -/
def scaled : Option (Bool × List Char) → List Char
  | none => []
  | some (down, digits) => 'e' :: (if down then '-' else '+') :: digits

/-- The text of a numeral behind its sign. -/
def unsigned (numeral : Numeral) : List Char :=
  numeral.whole ++ (pointed numeral.fraction ++ scaled numeral.exponent)

/-- The text of a numeral. -/
def text (numeral : Numeral) : List Char :=
  (if numeral.negative then ['-'] else []) ++ numeral.unsigned

end Numeral

/-- Digits stay digits when more of them follow. -/
theorem IsDigits.append {first second : List Char} (left : IsDigits first)
    (right : ∀ c ∈ second, c.isDigit = true) : IsDigits (first ++ second) where
  ne_nil := by simp [left.ne_nil]
  digits c member := (List.mem_append.mp member).elim (left.digits c) (right c)

/-- A natural number is written in digits. -/
theorem isDigits_digitText (n : Nat) : IsDigits (digitText n) where
  ne_nil := Nat.toDigits_ne_nil
  digits _ member := Nat.isDigit_of_mem_toDigits (by decide) (by decide) member

/-- A positive number does not start with a zero. -/
theorem digitText_lead {n : Nat} (positive : n ≠ 0) :
    ∃ first rest, digitText n = first :: rest ∧ first ≠ '0' := by
  induction n using Nat.strongRecOn with
  | ind n ih =>
      unfold digitText at ih ⊢
      by_cases small : n < 10
      · refine ⟨n.digitChar, [], Nat.toDigits_of_lt_base small, ?_⟩
        have all : ∀ m : Nat, m < 10 → m ≠ 0 → m.digitChar ≠ '0' := by decide
        exact all n small positive
      · obtain ⟨first, rest, written, lead⟩ := ih (n / 10) (by omega) (by omega)
        rw [Nat.toDigits_of_base_le (by decide) (by omega), written]
        exact ⟨first, rest ++ [(n % 10).digitChar], rfl, lead⟩

/-- A natural number is written without a needless zero in front. -/
theorem isWhole_digitText (n : Nat) : IsWhole (digitText n) where
  toIsDigits := isDigits_digitText n
  lead := by
    by_cases zero : n = 0
    · subst zero
      exact .inl (Nat.toDigits_zero 10)
    · exact .inr (digitText_lead zero)

/-- Digits that start with a positive number start with no zero. -/
theorem IsWhole.of_digitText {n : Nat} {whole behind : List Char} (positive : n ≠ 0)
    (start : whole ++ behind = digitText n) (some : whole ≠ []) : IsWhole whole where
  ne_nil := some
  digits c member :=
    (isDigits_digitText n).digits c (start ▸ List.mem_append_left behind member)
  lead := by
    obtain ⟨first, rest, written, lead⟩ := digitText_lead positive
    cases whole with
    | nil => exact absurd rfl some
    | cons head tail =>
        rw [written, List.cons_append, List.cons.injEq] at start
        exact .inr ⟨head, tail, rfl, start.1 ▸ lead⟩

/-- Zeros are digits. -/
theorem isDigit_of_mem_zeros {count : Nat} {c : Char} (member : c ∈ List.replicate count '0') :
    c.isDigit = true := by
  rw [List.eq_of_mem_replicate member]
  decide

/-- Positive digits without an exponent are a whole number with what follows digits
that need no point, or they have digits behind a point. -/
theorem Digits.positional_cases {d : Digits} (positive : d.digits ≠ 0) (suffix : List Char) :
    ∃ whole, IsWhole whole ∧ (d.positional suffix = whole ++ suffix ∨
      ∃ fraction, IsDigits fraction ∧ d.positional suffix = whole ++ '.' :: fraction) := by
  have digits := isDigits_digitText d.digits
  unfold positional
  dsimp only
  split
  · refine ⟨digitText d.digits ++ List.replicate d.exponent.toNat '0', ?_, .inl rfl⟩
    refine ⟨digits.append fun c member => isDigit_of_mem_zeros member, .inr ?_⟩
    obtain ⟨first, rest, written, lead⟩ := digitText_lead positive
    exact ⟨first, _, by rw [written, List.cons_append], lead⟩
  · rename_i small
    generalize places : (-d.exponent).toNat = count
    split
    · rename_i inside
      have split := List.take_append_drop ((digitText d.digits).length - count) (digitText d.digits)
      refine ⟨(digitText d.digits).take ((digitText d.digits).length - count),
        .of_digitText positive split ?_, .inr ⟨_, ⟨?_, ?_⟩, rfl⟩⟩
      · rw [← List.length_pos_iff, List.length_take]
        omega
      · rw [← List.length_pos_iff, List.length_drop]
        omega
      · exact fun c member => digits.digits c (List.mem_of_mem_drop member)
    · refine ⟨['0'], ⟨.zero, .inl rfl⟩, .inr ⟨_, ⟨?_, ?_⟩, rfl⟩⟩
      · simp [digits.ne_nil]
      · intro c member
        exact (List.mem_append.mp member).elim isDigit_of_mem_zeros (digits.digits c)

/-! ## The digits of doubles -/

/-- Dropping zeros at the end leaves a positive number positive. -/
theorem Digits.trim_ne_zero (fuel : Nat) {d : Digits} (positive : d.digits ≠ 0) :
    (d.trim fuel).digits ≠ 0 := by
  induction fuel generalizing d with
  | zero => exact positive
  | succ fuel ih =>
      unfold trim
      split
      · rename_i ends
        refine ih ?_
        show d.digits / 10 ≠ 0
        omega
      · exact positive

/-- A point of the grid that is chosen is positive. -/
theorem Window.best?_ne_zero {w : Window} {digits : Nat} (chosen : w.best? = some digits) :
    digits ≠ 0 := by
  unfold best? at chosen
  dsimp only at chosen
  split at chosen
  · rename_i below above
    have positive : 0 < w.middle / w.unit := by
      rw [Bool.and_eq_true] at below
      exact of_decide_eq_true below.2
    cases chosen
    split
    · omega
    · split
      · omega
      · split <;> omega
  · rename_i below _
    have positive : 0 < w.middle / w.unit := by
      rw [Bool.and_eq_true] at below
      exact of_decide_eq_true below.2
    cases chosen
    omega
  · cases chosen
    exact Nat.succ_ne_zero _
  · cases chosen

/-- The search for digits ends with a positive number. -/
theorem Binary.search_ne_zero {value : Binary} (positive : value.significand ≠ 0) (leading : Int)
    (fuel count : Nat) : (value.search leading fuel count).digits ≠ 0 := by
  induction fuel generalizing count with
  | zero => exact positive
  | succ fuel ih =>
      unfold search
      dsimp only
      split
      · rename_i chosen
        exact Digits.trim_ne_zero 20 (Window.best?_ne_zero chosen)
      · exact ih (count + 1)

/-- The digits of a double are those of a positive number. -/
theorem shortest?_ne_zero {value : Float} {d : Digits} (found : shortest? value = some d) :
    d.digits ≠ 0 := by
  obtain ⟨binary, made, rfl⟩ := Option.map_eq_some_iff.mp found
  refine Binary.search_ne_zero ?_ _ _ _
  unfold Binary.ofBits? at made
  dsimp only at made
  split at made
  · cases made
  · split at made
    · split at made
      · cases made
      · cases made
        assumption
    · cases made
      exact Nat.ne_of_gt (Nat.add_pos_right _ (Nat.pow_pos Nat.two_pos))

end Decimal

namespace Number

open Decimal

/-- The text of an integer is a numeral of digits only. -/
theorem intText_eq (value : Int) :
    intText value = Numeral.text {
      negative := value < 0
      whole := digitText value.natAbs
      fraction := none
      exponent := none
      wholeDigits := isWhole_digitText _
      fractionDigits := nofun
      exponentDigits := nofun } := by
  unfold intText
  by_cases negative : value < 0 <;>
    simp [Numeral.text, Numeral.unsigned, Numeral.pointed, Numeral.scaled, negative]

/-- Positive digits without an exponent of their own are a numeral, with or without
an exponent behind them. -/
theorem exists_numeral_positional {d : Digits} (positive : d.digits ≠ 0) (negative : Bool)
    (suffix : List Char) (after : suffix = [] ∨ suffix = ['.', '0'])
    (exponent : Option (Bool × List Char))
    (exponentDigits : ∀ down digits, exponent = some (down, digits) → IsDigits digits) :
    ∃ numeral : Numeral, (if negative then ['-'] else []) ++
      (d.positional suffix ++ Numeral.scaled exponent) = numeral.text := by
  obtain ⟨whole, wholeDigits, shape⟩ := d.positional_cases positive suffix
  have parts : ∃ fraction : Option (List Char), (∀ digits, fraction = some digits → IsDigits digits) ∧
      d.positional suffix = whole ++ Numeral.pointed fraction := by
    rcases shape with plain | ⟨fraction, digits, pointed⟩
    · rcases after with rfl | rfl
      · exact ⟨none, by simp, plain⟩
      · exact ⟨some ['0'], by rintro _ ⟨⟩; exact .zero, plain⟩
    · exact ⟨some fraction, by rintro _ ⟨⟩; exact digits, pointed⟩
  obtain ⟨fraction, fractionDigits, written⟩ := parts
  refine ⟨{ negative, whole, fraction, exponent, wholeDigits, fractionDigits, exponentDigits }, ?_⟩
  rw [written, Numeral.text, Numeral.unsigned, List.append_assoc]

/-- Every number is written as a numeral, unless it is none. -/
theorem text_cases (number : Number) :
    number.text = ['n', 'u', 'l', 'l'] ∨ ∃ numeral : Numeral, number.text = numeral.text := by
  cases number with
  | int value => exact .inr ⟨_, intText_eq value⟩
  | double value =>
      rw [text, doubleText]
      split
      · exact .inl rfl
      · right
        dsimp only
        split
        · refine ⟨{
            negative := isNegative value
            whole := ['0']
            fraction := some ['0']
            exponent := none
            wholeDigits := isWhole_digitText 0
            fractionDigits := by rintro _ ⟨⟩; exact isDigits_digitText 0
            exponentDigits := by simp }, ?_⟩
          cases isNegative value <;> rfl
        · rename_i d found
          have positive := shortest?_ne_zero found
          split
          · obtain ⟨numeral, written⟩ := exists_numeral_positional positive (isNegative value)
              ['.', '0'] (.inr rfl) none (by simp)
            exact ⟨numeral, by simpa [Numeral.scaled] using written⟩
          · have mantissa : (Digits.mk d.digits (1 - digitCount d.digits)).digits ≠ 0 := positive
            obtain ⟨numeral, written⟩ := exists_numeral_positional mantissa (isNegative value) []
              (.inl rfl) (some (decide (d.leadingPlace < 0), digitText d.leadingPlace.natAbs))
              (by rintro _ _ ⟨⟩; exact isDigits_digitText _)
            refine ⟨numeral, Eq.trans ?_ written⟩
            by_cases down : d.leadingPlace < 0 <;> simp [Numeral.scaled, down]

end Number

end EventFlow
