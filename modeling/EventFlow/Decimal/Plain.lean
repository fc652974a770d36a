import EventFlow.Decimal.Shortest

/-!
# Plain decimals

Doubles written without an exponent, with the fewest digits that read back, and
doubles read from the texts that people write for them.
-/

namespace EventFlow.Decimal

/-- A double without an exponent; whole ones have no point. -/
def plainText (value : Float) : List Char :=
  if value.isNaN then "NaN".toList
  else
    let sign := if isNegative value then ['-'] else []
    if value.isInf then sign ++ "inf".toList
    else
      match shortest? value with
      | none => sign ++ ['0']
      | some d => sign ++ d.positional []

/-- Split a sign off; without one the number is positive. -/
def splitSign : List Char → Bool × List Char
  | '-' :: rest => (true, rest)
  | '+' :: rest => (false, rest)
  | text => (false, text)

/-- The number that decimal digits name; there has to be one at least. -/
def natural? (text : List Char) : Option Nat :=
  if text.isEmpty || !text.all Char.isDigit then none
  else some (text.foldl (fun value c => value * 10 + (c.toNat - 48)) 0)

/-- The integer of a text with an optional sign. -/
def integer? (text : List Char) : Option Int :=
  let (negative, digits) := splitSign text
  (natural? digits).map fun value => if negative then -(value : Int) else value

/-- The nearest double of `digits * 10 ^ exponent`. Magnitudes far outside of the
range of doubles are settled without computing the power. -/
def nearestDouble (digits : Nat) (exponent : Int) : Float :=
  if digits = 0 then 0
  else
    let place := exponent + digitCount digits
    if place > 400 then 1.0 / 0.0
    else if place < -400 then 0
    else Float.ofScientific digits (exponent < 0) exponent.natAbs

/-- The double of digits with an optional point and an optional exponent. -/
def unsignedDouble? (text : List Char) : Option Float :=
  let (mantissa, tail) := text.span fun c => c ≠ 'e' ∧ c ≠ 'E'
  let (whole, fraction) := mantissa.span (· ≠ '.')
  let fraction := fraction.drop 1
  let exponent? :=
    match tail with
    | [] => some 0
    | _ :: digits => integer? digits
  match natural? (whole ++ fraction), exponent? with
  | some digits, some exponent => some (nearestDouble digits (exponent - fraction.length))
  | _, _ => none

/-- The double of a text: a number, or the name of infinity or of what is no
number, in any case. -/
def double? (text : List Char) : Option Float :=
  let (negative, magnitude) := splitSign text
  let name := String.ofList (magnitude.map Char.toLower)
  let value :=
    if name = "inf" ∨ name = "infinity" then some (1.0 / 0.0)
    else if name = "nan" then some (0.0 / 0.0)
    else unsignedDouble? magnitude
  value.map fun value => if negative then -value else value

end EventFlow.Decimal
