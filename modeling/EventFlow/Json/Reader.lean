import EventFlow.Json.Draft

/-!
# Reading JSON texts

The reader makes a draft of a text and never fails: what cannot be read is a
fault inside the draft. It works on the pieces of a byte text, so that bytes
which are no character are faults at their place as well.
-/

namespace EventFlow

open Text

namespace Reader

/-- Skip blanks, tabs and line ends. -/
def skipBlank : List Glyph → List Glyph
  | .char c :: rest =>
    if c = ' ' ∨ c = '\n' ∨ c = '\t' ∨ c = '\r' then skipBlank rest else .char c :: rest
  | other => other

/-! ## Strings -/

/-- A piece of a string body: a character, a 16-bit unit written as an escape,
bytes that are no character, or a character that may not stand there, on its own
or as an escape. -/
inductive Piece where
  | char (value : Char)
  | unit (value : Nat)
  | stray
  | wrong

/-- The value of a hexadecimal digit. -/
def hexValue? (c : Char) : Option Nat :=
  if '0' ≤ c ∧ c ≤ '9' then some (c.toNat - 48)
  else if 'a' ≤ c ∧ c ≤ 'f' then some (c.toNat - 87)
  else if 'A' ≤ c ∧ c ≤ 'F' then some (c.toNat - 55)
  else none

/-- The unit that four hexadecimal digits name. -/
def hexUnit? : Glyph → Glyph → Glyph → Glyph → Option Nat
  | .char a, .char b, .char c, .char d => do
    let a ← hexValue? a
    let b ← hexValue? b
    let c ← hexValue? c
    let d ← hexValue? d
    some (((a * 16 + b) * 16 + c) * 16 + d)
  | _, _, _, _ => none

/-- What a one-letter escape stands for. -/
def escaped? : Glyph → Option Char
  | .stray _ => none
  | .char c =>
    if c = '"' ∨ c = '\\' ∨ c = '/' then some c
    else if c = 'b' then some '\x08'
    else if c = 'f' then some '\x0c'
    else if c = 'n' then some '\n'
    else if c = 'r' then some '\r'
    else if c = 't' then some '\t'
    else none

/-- How many bytes the glyphs take. -/
def width (glyphs : List Glyph) : Nat :=
  glyphs.foldl (fun bytes glyph => bytes + glyph.width) 0

/-- Put a piece before those already found. -/
def pushPiece (piece : Piece) (found : List Piece × Except Fault (List Glyph)) :
    List Piece × Except Fault (List Glyph) :=
  (piece :: found.1, found.2)

/-- The pieces of a string body up to its closing mark, and what follows it, or
why there is no closing mark. A unit needs four bytes of text behind its `u`. -/
def stringPieces : List Glyph → List Piece × Except Fault (List Glyph)
  | [] => ([], .error .endInString)
  | .stray _ :: rest => pushPiece .stray (stringPieces rest)
  | .char c :: rest =>
    if c = '"' then ([], .ok rest)
    else if c = '\\' then
      match rest with
      | [] => ([], .error .endInString)
      | mark :: rest =>
        if mark = .char 'u' then
          match rest with
          | a :: b :: c :: d :: rest =>
            match hexUnit? a b c d with
            | some value => pushPiece (.unit value) (stringPieces rest)
            | none => ([], .error .invalidEscape)
          | few => ([], .error (if width few < 4 then .endInString else .invalidEscape))
        else
          match escaped? mark with
          | some value => pushPiece (.char value) (stringPieces rest)
          | none => ([.wrong], .error .invalidEscape)
    else if c.toNat < 32 then ([.wrong], .error .controlCharacter)
    else pushPiece (.char c) (stringPieces rest)

/-- The text of the pieces, given the fault of a body that ends behind a leading
surrogate, a leading surrogate that waits for its other half, whether bytes were
met that are no text, and the characters so far in reverse. Surrogates have to
come in pairs. -/
def joinPieces (cut : Fault) (lead : Option Nat) (damaged : Bool) (done : List Char) :
    List Piece → Except Fault (Bool × List Char)
  | [] => if lead.isSome then .error cut else .ok (damaged, done.reverse)
  | .char c :: rest =>
    if lead.isSome then .error .unfinishedSurrogate
    else joinPieces cut none damaged (c :: done) rest
  | .stray :: rest =>
    if lead.isSome then .error .unfinishedSurrogate
    else joinPieces cut none true done rest
  | .wrong :: rest =>
    if lead.isSome then .error .unfinishedSurrogate
    else joinPieces cut none damaged done rest
  | .unit value :: rest =>
    match lead with
    | some high =>
      if 0xDC00 ≤ value ∧ value ≤ 0xDFFF then
        joinPieces cut none damaged
          (Char.ofNat (0x10000 + (high - 0xD800) * 0x400 + (value - 0xDC00)) :: done) rest
      else .error .loneSurrogate
    | none =>
      if 0xDC00 ≤ value ∧ value ≤ 0xDFFF then .error .loneSurrogate
      else if 0xD800 ≤ value ∧ value ≤ 0xDBFF then joinPieces cut (some value) damaged done rest
      else joinPieces cut none damaged (Char.ofNat value :: done) rest

/-- The text of a string body. Surrogates that do not pair are reported before
whatever ends the body behind them. -/
def joined (pieces : List Piece) (ending : Except Fault (List Glyph)) : Except Fault String :=
  match ending with
  | .error fault =>
    match joinPieces fault none false [] pieces with
    | .error earlier => .error earlier
    | .ok _ => .error fault
  | .ok _ =>
    match joinPieces .unfinishedSurrogate none false [] pieces with
    | .error fault => .error fault
    | .ok (true, _) => .error .invalidCodePoint
    | .ok (false, chars) => .ok (String.ofList chars)

/-! ## Numbers -/

/-- The digits at the front, and the rest. -/
def spanDigits : List Glyph → List Nat × List Glyph
  | .char c :: rest =>
    if '0' ≤ c ∧ c ≤ '9' then
      let found := spanDigits rest
      ((c.toNat - 48) :: found.1, found.2)
    else ([], .char c :: rest)
  | other => ([], other)

/-- The largest unsigned 64-bit integer. -/
def maxWord : Nat := UInt64.size - 1

/-- Add digits to a significand as long as it stays a 64-bit word, and count the
digits left over. -/
def gather (significand : Nat) : List Nat → Nat × List Nat
  | [] => (significand, [])
  | digit :: rest =>
    if maxWord < significand * 10 + digit then (significand, digit :: rest)
    else gather (significand * 10 + digit) rest

/-- Scale by a power of ten in double arithmetic: one multiplication or division
by the nearest double of the power, after divisions by 1e308 where the exponent
is too small. Infinity is out of range. -/
def scale : Nat → Float → Int → Option Float
  | 0, value, _ => some value
  | fuel + 1, value, exponent =>
    if exponent.natAbs ≤ 308 then
      if 0 ≤ exponent then
        let scaled := value * Float.ofScientific 1 false exponent.toNat
        if scaled.isInf then none else some scaled
      else some (value / Float.ofScientific 1 false exponent.natAbs)
    else if value == 0 then some value
    else if 0 ≤ exponent then none
    else scale fuel (value / Float.ofScientific 1 false 308) (exponent + 308)

/-- The largest exponent that is read digit by digit. -/
def maxExponent : Nat := Nat.pow 2 31 - 1

/-- A double from the parts of its text. Digits beyond a 64-bit significand only
count as places before the point, and not at all after it. -/
def doubleOf (negative : Bool) (whole fraction : List Nat) (exponent : Option (Bool × List Nat)) :
    Except Fault Number :=
  let (high, leftOver) := gather 0 whole
  let (significand, dropped) := gather high fraction
  let places : Int := (leftOver.length : Int) - ((fraction.length - dropped.length : Nat) : Int)
  let written : Option (Bool × Nat) :=
    exponent.map fun e => (e.1, e.2.foldl (fun n digit => n * 10 + digit) 0)
  let magnitude : Option Float :=
    match written with
    | some (down, size) =>
      if maxExponent < size then
        if significand = 0 ∨ down then some 0 else none
      else scale 16 significand.toUInt64.toFloat (if down then places - size else places + size)
    | none => scale 16 significand.toUInt64.toFloat places
  match magnitude with
  | none => .error .numberOutOfRange
  | some value => .ok (.double (if negative then -value else value))

/-- An integer from its digits: exact where it fits 64 bits, signed or unsigned,
and a double otherwise. Minus zero is a double too. -/
def integerOf (negative : Bool) (digits : List Nat) : Except Fault Number :=
  let (value, leftOver) := gather 0 digits
  if leftOver ≠ [] then doubleOf negative digits [] none
  else if !negative then .ok (.int value)
  else if value = 0 ∨ Nat.pow 2 63 < value then .ok (.double (-value.toUInt64.toFloat))
  else .ok (.int (-value))

/-- A number broken off at this place: at the end of the text its reader lacks a
value, while one who skips calls the number invalid. -/
def brokenNumber (rest : List Glyph) : Draft × Option (List Glyph) :=
  (if rest.isEmpty then Draft.broken .endInScalar .invalidNumber
    else Draft.broken .invalidNumber .invalidNumber, none)

/-- A number that was read, and what follows. -/
def numberDraft (value : Except Fault Number) (rest : List Glyph) :
    Draft × Option (List Glyph) :=
  (.scalar (value.map Scalar.number) none, some rest)

/-- The exponent of a number and what follows it, after the letter. -/
def exponentPart (input : List Glyph) : (Bool × List Nat) × List Glyph :=
  match input with
  | .char c :: rest =>
    if c = '+' ∨ c = '-' then
      let (digits, rest) := spanDigits rest
      ((c = '-', digits), rest)
    else
      let (digits, rest) := spanDigits input
      ((false, digits), rest)
  | _ => ((false, []), input)

/-- Read a number after its sign. -/
def readNumber (negative : Bool) (input : List Glyph) : Draft × Option (List Glyph) :=
  let (whole, rest) := spanDigits input
  match whole with
  | [] => brokenNumber rest
  | 0 :: _ :: _ => (Draft.broken .invalidNumber .invalidNumber, none)
  | _ =>
    let afterPoint : Option (List Nat) × List Glyph :=
      match rest with
      | .char '.' :: rest =>
        let (digits, rest) := spanDigits rest
        (some digits, rest)
      | _ => (none, rest)
    match afterPoint with
    | (some [], rest) => brokenNumber rest
    | (fraction, rest) =>
      match rest with
      | .char c :: tail =>
        if c = 'e' ∨ c = 'E' then
          let (exponent, rest) := exponentPart tail
          if exponent.2.isEmpty then brokenNumber rest
          else numberDraft (doubleOf negative whole (fraction.getD []) (some exponent)) rest
        else
          match fraction with
          | some digits => numberDraft (doubleOf negative whole digits none) rest
          | none => numberDraft (integerOf negative whole) rest
      | _ =>
        match fraction with
        | some digits => numberDraft (doubleOf negative whole digits none) rest
        | none => numberDraft (integerOf negative whole) rest

/-! ## Values -/

/-- The rest of a word such as `null`, after its first letter. -/
def readWord (value : Scalar) : List Char → List Glyph → Draft × Option (List Glyph)
  | [], rest => (Draft.sound value, some rest)
  | _ :: _, [] => (Draft.broken .endInScalar .endInScalar, none)
  | letter :: letters, glyph :: rest =>
    if glyph = .char letter then readWord value letters rest
    else (Draft.broken .expectedWord .expectedWord, none)

/-- Read a string after its opening mark. -/
def readString (input : List Glyph) : Draft × Option (List Glyph) :=
  let (pieces, ending) := stringPieces input
  match ending with
  | .ok rest => (.scalar ((joined pieces ending).map Scalar.string) none, some rest)
  | .error fault => (.scalar ((joined pieces ending).map Scalar.string) (some fault), none)

/-- What was found inside a container: its parts, why it is not closed, and what
follows it. -/
structure Inside (α : Type) where
  parts : List α
  stop : Option Stop
  rest : Option (List Glyph)

/-- A container that ends here for a fault. -/
def Inside.stopped {α : Type} (stop : Stop) : Inside α :=
  ⟨[], some stop, none⟩

mutual

/-- Read a value. Every step takes fuel; three steps for each piece of the text
are enough. -/
def readValue : Nat → List Glyph → Draft × Option (List Glyph)
  | 0, _ => (Draft.broken .tooDeep .tooDeep, none)
  | fuel + 1, input =>
    match skipBlank input with
    | [] => (Draft.broken .endInValue .endInValue, none)
    | .stray _ :: _ => (Draft.broken .expectedValue .expectedValue, none)
    | .char c :: rest =>
      if c = '"' then readString rest
      else if c = '[' then
        let inside := readItems fuel true rest
        (.array inside.parts inside.stop, inside.rest)
      else if c = '\x7b' then
        let inside := readFields fuel true rest
        (.object inside.parts inside.stop, inside.rest)
      else if c = 'n' then readWord .null ['u', 'l', 'l'] rest
      else if c = 't' then readWord (.bool true) ['r', 'u', 'e'] rest
      else if c = 'f' then readWord (.bool false) ['a', 'l', 's', 'e'] rest
      else if c = '-' then readNumber true rest
      else if '0' ≤ c ∧ c ≤ '9' then readNumber false (.char c :: rest)
      else (Draft.broken .expectedValue .expectedValue, none)

/-- Read the items of an array, the first one or those behind a comma. -/
def readItems : Nat → Bool → List Glyph → Inside Draft
  | 0, _, _ => Inside.stopped (.same .tooDeep)
  | fuel + 1, first, input =>
    match skipBlank input with
    | [] => Inside.stopped (.same .endInArray)
    | glyph :: rest =>
      if glyph = .char ']' then ⟨[], none, some rest⟩
      else if first then readItem fuel (glyph :: rest)
      else if glyph = .char ',' then
        match skipBlank rest with
        | [] => Inside.stopped (.same .endInValue)
        | glyph :: rest =>
          if glyph = .char ']' then Inside.stopped ⟨.trailingComma, .expectedValue⟩
          else readItem fuel (glyph :: rest)
      else Inside.stopped (.same .expectedItemEnd)

/-- Read an item of an array and all that follow it. -/
def readItem : Nat → List Glyph → Inside Draft
  | 0, _ => Inside.stopped (.same .tooDeep)
  | fuel + 1, input =>
    match readValue fuel input with
    | (item, none) => ⟨[item], none, none⟩
    | (item, some rest) =>
      let inside := readItems fuel false rest
      ⟨item :: inside.parts, inside.stop, inside.rest⟩

/-- Read the fields of an object, the first one or those behind a comma. -/
def readFields : Nat → Bool → List Glyph → Inside (Except Fault String × Draft)
  | 0, _, _ => Inside.stopped (.same .tooDeep)
  | fuel + 1, first, input =>
    match skipBlank input with
    | [] => Inside.stopped (.same .endInObject)
    | glyph :: rest =>
      if glyph = .char '\x7d' then ⟨[], none, some rest⟩
      else if first then
        if glyph = .char '"' then readField fuel rest else Inside.stopped (.same .keyNotString)
      else if glyph = .char ',' then
        match skipBlank rest with
        | [] => Inside.stopped ⟨.endInValue, .endInObject⟩
        | glyph :: rest =>
          if glyph = .char '"' then readField fuel rest
          else if glyph = .char '\x7d' then Inside.stopped ⟨.trailingComma, .keyNotString⟩
          else Inside.stopped (.same .keyNotString)
      else Inside.stopped (.same .expectedFieldEnd)

/-- Read a field of an object, after the opening mark of its key, and all that
follow it. -/
def readField : Nat → List Glyph → Inside (Except Fault String × Draft)
  | 0, _ => Inside.stopped (.same .tooDeep)
  | fuel + 1, input =>
    let (pieces, ending) := stringPieces input
    let key := joined pieces ending
    match ending with
    | .error fault =>
      match key with
      | .error reading => Inside.stopped ⟨reading, fault⟩
      | .ok _ => Inside.stopped (.same fault)
    | .ok rest =>
      match skipBlank rest with
      | [] => ⟨[(key, Draft.broken .endInObject .endInObject)], none, none⟩
      | glyph :: rest =>
        if glyph = .char ':' then
          match readValue fuel rest with
          | (value, none) => ⟨[(key, value)], none, none⟩
          | (value, some rest) =>
            let inside := readFields fuel false rest
            ⟨(key, value) :: inside.parts, inside.stop, inside.rest⟩
        else ⟨[(key, Draft.broken .expectedColon .expectedColon)], none, none⟩

end

end Reader

/-- A whole text as a draft, and the fault behind it when something other than
blanks follows the value. -/
structure DraftText where
  draft : Draft
  trailing : Option Fault

/-- The draft of a byte text. -/
def DraftText.ofGlyphs (input : List Glyph) : DraftText :=
  match Reader.readValue (3 * input.length + 3) input with
  | (draft, none) => ⟨draft, none⟩
  | (draft, some rest) =>
    ⟨draft, if (Reader.skipBlank rest).isEmpty then none else some .trailingCharacters⟩

/-- The draft of a text. -/
def DraftText.ofText (text : String) : DraftText :=
  ofGlyphs (glyphsOf text)

/-- The draft of bytes that should be a text. -/
def DraftText.ofBytes (bytes : List UInt8) : DraftText :=
  ofGlyphs (glyphsOfBytes bytes)

end EventFlow
