import EventFlow.Json.Basic
import EventFlow.Text.Utf8

/-!
# Drafts of JSON values

Decoding is streaming: of several problems in a text the first one counts, and
what stands in a place that nobody asks for is only skipped. A `Draft` is a
value as far as its text can be read, with every problem at its place, so that a
decoder can walk it in the order of the text. Reading a value and skipping it
do not meet the same problems: skipping looks neither at the size of a number
nor at what an escape stands for.
-/

namespace EventFlow

/-- Why a JSON text cannot be read. A text may end inside a word or a number, or
where a value should begin: `endInScalar` and `endInValue`. -/
inductive Fault where
  | endInArray
  | endInObject
  | endInString
  | endInScalar
  | endInValue
  | expectedColon
  | expectedItemEnd
  | expectedFieldEnd
  | expectedWord
  | expectedValue
  | invalidEscape
  | invalidNumber
  | numberOutOfRange
  | invalidCodePoint
  | controlCharacter
  | keyNotString
  | loneSurrogate
  | unfinishedSurrogate
  | trailingComma
  | trailingCharacters
  | tooDeep
deriving DecidableEq, Repr

namespace Fault

/-- Whether the text only ends too early. -/
def isTruncation : Fault → Bool
  | .endInArray | .endInObject | .endInString | .endInScalar | .endInValue => true
  | _ => false

/-- The words for a fault. -/
def message : Fault → String
  | .endInArray => "EOF while parsing a list"
  | .endInObject => "EOF while parsing an object"
  | .endInString => "EOF while parsing a string"
  | .endInScalar | .endInValue => "EOF while parsing a value"
  | .expectedColon => "expected `:`"
  | .expectedItemEnd => "expected `,` or `]`"
  | .expectedFieldEnd => "expected `,` or `\x7d`"
  | .expectedWord => "expected ident"
  | .expectedValue => "expected value"
  | .invalidEscape => "invalid escape"
  | .invalidNumber => "invalid number"
  | .numberOutOfRange => "number out of range"
  | .invalidCodePoint => "invalid unicode code point"
  | .controlCharacter => "control character (\\u0000-\\u001F) found while parsing a string"
  | .keyNotString => "key must be a string"
  | .loneSurrogate => "lone leading surrogate in hex escape"
  | .unfinishedSurrogate => "unexpected end of hex escape"
  | .trailingComma => "trailing comma"
  | .trailingCharacters => "trailing characters"
  | .tooDeep => "recursion limit exceeded"

end Fault

/-- A value without parts. -/
inductive Scalar where
  | null
  | bool (value : Bool)
  | number (value : Number)
  | string (value : String)

/-- Why nothing more can be read inside a container, to one who reads it and to
one who skips it. -/
structure Stop where
  reading : Fault
  skipping : Fault
deriving DecidableEq, Repr

/-- The same fault either way. -/
def Stop.same (fault : Fault) : Stop :=
  ⟨fault, fault⟩

/-- A value as far as its text can be read.

* A scalar has a value or the fault met when reading it; `stop` is the fault met
  when skipping it, and nothing follows a scalar that has one.
* A container holds its parts in the order of the text. `stop` says why it is
  not closed. It is absent when the last part is itself broken. -/
inductive Draft where
  | scalar (value : Except Fault Scalar) (stop : Option Fault)
  | array (items : List Draft) (stop : Option Stop)
  | object (fields : List (Except Fault String × Draft)) (stop : Option Stop)

namespace Draft

/-- A value that breaks off at once. -/
def broken (reading skipping : Fault) : Draft :=
  .scalar (.error reading) (some skipping)

/-- A sound scalar. -/
def sound (value : Scalar) : Draft :=
  .scalar (.ok value) none

mutual

/-- The draft of a value that is already there: it has no faults. -/
def ofJson : Json → Draft
  | .null => sound .null
  | .bool value => sound (.bool value)
  | .number value => sound (.number value)
  | .string value => sound (.string value)
  | .array items => .array (ofItems items) none
  | .object fields => .object (ofFields fields) none

/-- The drafts of the items of an array. -/
def ofItems : List Json → List Draft
  | [] => []
  | item :: rest => ofJson item :: ofItems rest

/-- The drafts of the fields of an object. -/
def ofFields : List (String × Json) → List (Except Fault String × Draft)
  | [] => []
  | (key, value) :: rest => (.ok key, ofJson value) :: ofFields rest

end

mutual

/-- The fault that skipping the value meets, if any. -/
def skipFault? : Draft → Option Fault
  | .scalar _ stop => stop
  | .array items stop => (skipItems? items).or (stop.map Stop.skipping)
  | .object fields stop => (skipFields? fields).or (stop.map Stop.skipping)

/-- The first fault among the items of an array. -/
def skipItems? : List Draft → Option Fault
  | [] => none
  | item :: rest => (skipFault? item).or (skipItems? rest)

/-- The first fault among the fields of an object. -/
def skipFields? : List (Except Fault String × Draft) → Option Fault
  | [] => none
  | (_, value) :: rest => (skipFault? value).or (skipFields? rest)

end

mutual

/-- How deeply containers are nested: a bound for recursion along a draft. -/
def height : Draft → Nat
  | .scalar _ _ => 1
  | .array items _ => itemsHeight items + 1
  | .object fields _ => fieldsHeight fields + 1

/-- The greatest height among items. -/
def itemsHeight : List Draft → Nat
  | [] => 0
  | item :: rest => max (height item) (itemsHeight rest)

/-- The greatest height among fields. -/
def fieldsHeight : List (Except Fault String × Draft) → Nat
  | [] => 0
  | (_, value) :: rest => max (height value) (fieldsHeight rest)

end

end Draft

end EventFlow
