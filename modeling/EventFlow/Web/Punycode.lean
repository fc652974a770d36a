/-!
# Punycode

A domain label beyond ASCII is written with its ASCII characters first and then
the others as increments, in variable-length numbers of base 36 whose digit
thresholds adapt to the increments so far.
-/

namespace EventFlow.Web.Punycode

/-- The digit of a number below 36: the letters, then the decimal digits. -/
def digitChar (n : Nat) : Char :=
  Char.ofNat (if n < 26 then 97 + n else 22 + n)

/-- The value of a digit. -/
def digitValue? (c : Char) : Option Nat :=
  if 'a' ≤ c ∧ c ≤ 'z' then some (c.toNat - 97)
  else if 'A' ≤ c ∧ c ≤ 'Z' then some (c.toNat - 65)
  else if '0' ≤ c ∧ c ≤ '9' then some (c.toNat - 22)
  else none

/-- The threshold of the digit at a place. -/
def threshold (place bias : Nat) : Nat :=
  min 26 (max 1 (36 * (place + 1) - bias))

/-- Scale a large increment down, counting the divisions. -/
def scaleDown (steps delta : Nat) : Nat × Nat :=
  if h : 455 < delta then scaleDown (steps + 1) (delta / 35) else (steps, delta)
termination_by delta
decreasing_by omega

/-- The bias after an increment, given the number of characters placed. -/
def adapt (delta count : Nat) (isFirst : Bool) : Nat :=
  let delta := if isFirst then delta / 700 else delta / 2
  let (steps, delta) := scaleDown 0 (delta + delta / count)
  36 * steps + 36 * delta / (delta + 38)

/-- The digits of an increment, from a place on. -/
def incrementDigits (bias : Nat) : Nat → Nat → Nat → List Char
  | 0, _, _ => []
  | fuel + 1, place, value =>
    let t := threshold place bias
    if value < t then [digitChar value]
    else
      digitChar (t + (value - t) % (36 - t))
        :: incrementDigits bias fuel (place + 1) ((value - t) / (36 - t))

/-- How far an encoder or a decoder has come. -/
structure Progress where
  delta : Nat
  bias : Nat
  placed : Nat
  isFirst : Bool

/-- Pass over the label for one code point: smaller characters count, and each
one that is equal is written as the increment so far. -/
def encodeCode (code : Nat) : Progress → List Char → Progress × List Char
  | progress, [] => (progress, [])
  | progress, c :: rest =>
    if c.toNat < code then encodeCode code { progress with delta := progress.delta + 1 } rest
    else if c.toNat = code then
      let digits := incrementDigits progress.bias (progress.delta + 1) 0 progress.delta
      let next : Progress := {
        delta := 0
        bias := adapt progress.delta (progress.placed + 1) progress.isFirst
        placed := progress.placed + 1
        isFirst := false }
      let (progress, text) := encodeCode code next rest
      (progress, digits ++ text)
    else encodeCode code progress rest

/-- Write the characters of a label from a code point on, in ascending order of
the code points. -/
def encodeFrom (label : List Char) : List Nat → Nat → Progress → List Char
  | [], _, _ => []
  | code :: codes, next, progress =>
    let delta := progress.delta + (code - next) * (progress.placed + 1)
    let (progress, text) := encodeCode code { progress with delta } label
    text ++ encodeFrom label codes (code + 1) { progress with delta := progress.delta + 1 }

/-- A label in its ASCII form, without the mark in front of it. -/
def encode (label : List Char) : List Char :=
  let basic := label.filter fun c => c.toNat < 128
  let codes := (((label.map Char.toNat).filter (· ≥ 128)).mergeSort (· ≤ ·)).eraseDups
  let head := if basic.isEmpty then [] else basic ++ ['-']
  head ++ encodeFrom label codes 128 ⟨0, 72, basic.length, true⟩

/-- Read an increment: its value, and what follows. -/
def readIncrement (bias : Nat) : Nat → Nat → Nat → List Char → Option (Nat × List Char)
  | _, _, _, [] => none
  | place, weight, value, c :: rest =>
    match digitValue? c with
    | none => none
    | some digit =>
      let value := value + digit * weight
      let t := threshold place bias
      if digit < t then some (value, rest)
      else readIncrement bias (place + 1) (weight * (36 - t)) value rest

/-- Place the characters that the increments name into the label so far. Each
increment takes a digit at least. -/
def decodeFrom : Nat → Nat → Nat → Nat → Bool → List Char → List Char → Option (List Char)
  | _, _, _, _, _, done, [] => some done
  | 0, _, _, _, _, _, _ => none
  | fuel + 1, code, index, bias, isFirst, done, rest =>
    match readIncrement bias 0 1 index rest with
    | none => none
    | some (value, rest) =>
      let count := done.length + 1
      let code := code + value / count
      let place := value % count
      if 0x10FFFF < code ∨ (0xD800 ≤ code ∧ code ≤ 0xDFFF) then none
      else
        decodeFrom fuel code (place + 1) (adapt (value - index) count isFirst) false
          (done.take place ++ Char.ofNat code :: done.drop place) rest

/-- The parts before and behind the last hyphen. Without one, and if it comes
first, all is behind. -/
def splitLastHyphen (text : List Char) : List Char × List Char :=
  match text.reverse.span (· ≠ '-') with
  | (_, []) => ([], text)
  | (_, [_]) => ([], text)
  | (tail, _ :: head) => (head.reverse, tail.reverse)

/-- The label of an ASCII form, without the mark in front of it. -/
def decode? (text : List Char) : Option (List Char) :=
  let (head, tail) := splitLastHyphen text
  decodeFrom tail.length 128 0 72 true head tail

end EventFlow.Web.Punycode
