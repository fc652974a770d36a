/-!
# The shortest decimal that reads back

Every finite double other than zero is `significand * 2 ^ exponent`, and the
reals nearer to it than to any other double form an interval around it. The
shortest decimal of the double is the decimal inside that interval with the
fewest digits, and of several such the nearest. The search is exact: it works
on natural numbers only.
-/

namespace EventFlow.Decimal

/-- The positive number `digits * 10 ^ exponent`. -/
structure Digits where
  digits : Nat
  exponent : Int
deriving DecidableEq, Repr

/-- A positive double as `significand * 2 ^ exponent`. `lowerHalved` holds where
the gap below is half of the gap above, at the powers of two. -/
structure Binary where
  significand : Nat
  exponent : Int
  lowerHalved : Bool
deriving DecidableEq, Repr

/-- The magnitude of a finite double, from its bits; none for zeros,
infinities and NaN. -/
def Binary.ofBits? (bits : Nat) : Option Binary :=
  let fraction : Nat := bits % Nat.pow 2 52
  let biased : Nat := bits / Nat.pow 2 52 % Nat.pow 2 11
  if biased = 2047 then none
  else if biased = 0 then
    if fraction = 0 then none else some ⟨fraction, -1074, false⟩
  else some ⟨fraction + Nat.pow 2 52, (biased : Int) - 1075, fraction = 0 && biased > 1⟩

/-- How many decimal digits a natural number has. -/
def digitCount (n : Nat) : Nat :=
  (Nat.toDigits 10 n).length

/-- The interval of reals that round to a double, on the scale where the double
itself is `middle / unit` and a decimal `d` is `d`. -/
structure Window where
  low : Nat
  middle : Nat
  high : Nat
  unit : Nat
  closed : Bool

/-- The window of a double seen on the decimal grid of step `10 ^ step`. -/
def Binary.window (value : Binary) (step : Int) : Window :=
  let twos := value.exponent - 2
  let factor := Nat.pow 2 twos.toNat * Nat.pow 10 (-step).toNat
  { low := (4 * value.significand - if value.lowerHalved then 1 else 2) * factor
    middle := 4 * value.significand * factor
    high := (4 * value.significand + 2) * factor
    unit := Nat.pow 2 (-twos).toNat * Nat.pow 10 step.toNat
    closed := value.significand % 2 = 0 }

/-- Whether the point `d` of the grid lies in the window. -/
def Window.holds (w : Window) (d : Nat) : Bool :=
  if w.closed then w.low ≤ d * w.unit && d * w.unit ≤ w.high
  else w.low < d * w.unit && d * w.unit < w.high

/-- The nearer of the two neighbours of the double on the grid, among those in
the window. At an exact tie the even one is taken. -/
def Window.best? (w : Window) : Option Nat :=
  let below := w.middle / w.unit
  let above := below + 1
  match w.holds below && below > 0, w.holds above with
  | true, true =>
    let down := w.middle - below * w.unit
    let up := above * w.unit - w.middle
    some (if down < up then below else if up < down then above
      else if below % 2 = 0 then below else above)
  | true, false => some below
  | false, true => some above
  | false, false => none

/-- The place of the leading digit: the largest `s` with `10 ^ s` at most the
double. -/
def Binary.leadingPlace (value : Binary) : Int :=
  let numerator := value.significand * Nat.pow 2 value.exponent.toNat
  let denominator := Nat.pow 2 (-value.exponent).toNat
  if denominator ≤ numerator then (digitCount (numerator / denominator) : Int) - 1
  else
    let places := digitCount (denominator / numerator) - 1
    if denominator ≤ numerator * Nat.pow 10 places then -(places : Int) else -(places + 1 : Int)

/-- Drop trailing zeros, at most `fuel` of them. -/
def Digits.trim : Nat → Digits → Digits
  | 0, d => d
  | fuel + 1, d =>
    if d.digits ≠ 0 ∧ d.digits % 10 = 0 then trim fuel ⟨d.digits / 10, d.exponent + 1⟩ else d

/-- Try grids of ever more digits, starting with `count` digits. -/
def Binary.search (value : Binary) (leading : Int) : Nat → Nat → Digits
  | 0, _ => ⟨value.significand, 0⟩
  | fuel + 1, count =>
    let step := leading - count + 1
    match (value.window step).best? with
    | some digits => Digits.trim 20 ⟨digits, step⟩
    | none => search value leading fuel (count + 1)

/-- The shortest decimal that reads back as the double. Seventeen digits are
always enough. -/
def Binary.shortest (value : Binary) : Digits :=
  value.search value.leadingPlace 17 1

/-- The shortest decimal of the magnitude of a finite double other than zero. -/
def shortest? (value : Float) : Option Digits :=
  (Binary.ofBits? value.toBits.toNat).map Binary.shortest

/-- Whether the sign of a double is negative; minus zero counts. -/
def isNegative (value : Float) : Bool :=
  value.toBits.toNat / Nat.pow 2 63 % 2 = 1

/-- The decimal digits of a natural number. -/
def digitText (n : Nat) : List Char :=
  Nat.toDigits 10 n

/-- Digits written without an exponent: zeros fill up the places before the
point, and `fraction` is what follows digits that need no point. -/
def Digits.positional (d : Digits) (fraction : List Char) : List Char :=
  let text := digitText d.digits
  if 0 ≤ d.exponent then text ++ List.replicate d.exponent.toNat '0' ++ fraction
  else
    let places := (-d.exponent).toNat
    if places < text.length then
      text.take (text.length - places) ++ '.' :: text.drop (text.length - places)
    else '0' :: '.' :: (List.replicate (places - text.length) '0' ++ text)

/-- The place of the leading digit. -/
def Digits.leadingPlace (d : Digits) : Int :=
  d.exponent + digitCount d.digits - 1

end EventFlow.Decimal
