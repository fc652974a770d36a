import EventFlow.Json.Reader
import EventFlow.Json.Writer
import EventFlow.Text.Quoted

/-!
# Decoding JSON

A decoder turns the draft of a value into data of some type, or into the first
problem it meets on its way through the draft. It is used both on texts and on
values that are already there. Texts may nest containers 127 deep; values have
no such limit.
-/

namespace EventFlow

/-- What stands where something else was expected. -/
inductive Shape where
  | null
  | bool (value : Bool)
  | number (value : Number)
  | string (value : String)
  | sequence
  | map

/-- Why data cannot be decoded. -/
inductive DecodeError where
  | fault (cause : Fault)
  | wrongType (found : Shape) (expected : String)
  | wrongValue (found : Shape) (expected : String)
  | wrongLength (length : Nat) (expected : String)
  | missingField (name : String)
  | duplicateField (name : String)
  | unknownVariant (name : String) (known : List String)
  | duplicateState (name : String)

namespace Shape

/-- The words for what was found. -/
def message : Shape → String
  | .null => "null"
  | .bool value => "boolean `" ++ String.ofList (Json.boolChars value) ++ "`"
  | .number (.int value) => "integer `" ++ String.ofList (Number.intText value) ++ "`"
  | .number (.double value) => "floating point `" ++ String.ofList (Number.doubleText value) ++ "`"
  | .string value => "string " ++ Text.quoted value
  | .sequence => "sequence"
  | .map => "map"

end Shape

namespace DecodeError

/-- A name between back quotes. -/
def ticked (name : String) : String :=
  "`" ++ name ++ "`"

/-- The words for the variants that exist. -/
def oneOf : List String → String
  | [] => "there are no variants"
  | [a] => "expected " ++ ticked a
  | [a, b] => "expected " ++ ticked a ++ " or " ++ ticked b
  | known => "expected one of " ++ ", ".intercalate (known.map ticked)

/-- The words that announce a position. -/
def positionMark : List Char :=
  " at line ".toList

/-- What stands before and behind the last occurrence of a mark. -/
def splitLast? (mark : List Char) : List Char → Option (List Char × List Char)
  | [] => none
  | c :: rest =>
    match splitLast? mark rest with
    | some (before, behind) => some (c :: before, behind)
    | none =>
      if mark.isPrefixOf (c :: rest) then some ([], (c :: rest).drop mark.length) else none

/-- Whether characters are the decimal text of a 64-bit word. -/
def isWord (chars : List Char) : Bool :=
  !chars.isEmpty && chars.all Char.isDigit
    && chars.foldl (fun value c => value * 10 + (c.toNat - 48)) 0 < UInt64.size

/-- Whether characters name a line and a column. -/
def isPosition (chars : List Char) : Bool :=
  let line := chars.takeWhile Char.isDigit
  let rest := chars.dropWhile Char.isDigit
  let between := " column ".toList
  isWord line && between.isPrefixOf rest && isWord (rest.drop between.length)

/-- A text without the position at its end, if it ends in one. Messages carry
their positions apart, so that one inside their own words is taken for theirs. -/
def withoutPosition (text : String) : String :=
  match splitLast? positionMark text.toList with
  | some (before, behind) => if isPosition behind then String.ofList before else text
  | none => text

/-- The words for a decoding error. -/
def message : DecodeError → String
  | .fault cause => cause.message
  | .wrongType found expected => "invalid type: " ++ found.message ++ ", expected " ++ expected
  | .wrongValue found expected => "invalid value: " ++ found.message ++ ", expected " ++ expected
  | .wrongLength length expected =>
    "invalid length " ++ toString length ++ ", expected " ++ expected
  | .missingField name => "missing field " ++ ticked name
  | .duplicateField name => "duplicate field " ++ ticked name
  | .unknownVariant name known => "unknown variant " ++ ticked name ++ ", " ++ oneOf known
  | .duplicateState name => withoutPosition ("duplicate state " ++ name)

end DecodeError

/-- How a draft is read: as part of a text, with the number of container levels
that may still be opened, or as a value. -/
inductive Reading where
  | text (levels : Nat)
  | value

namespace Reading

/-- Open a container. -/
def enter : Reading → Except DecodeError Reading
  | .text 0 => .error (.fault .tooDeep)
  | .text (levels + 1) => .ok (.text levels)
  | .value => .ok .value

end Reading

/-- A way to decode drafts into data. -/
abbrev Decoder (α : Type) := Reading → Draft → Except DecodeError α

namespace Decode

/-- The shape of a scalar. -/
def scalarShape : Scalar → Shape
  | .null => .null
  | .bool value => .bool value
  | .number value => .number value
  | .string value => .string value

/-- The error for a draft that is of the wrong kind. Scalars are read first;
containers are not looked into. -/
def wrongKind {α : Type} (expected : String) : Draft → Except DecodeError α
  | .scalar (.error fault) _ => .error (.fault fault)
  | .scalar (.ok value) _ => .error (.wrongType (scalarShape value) expected)
  | .array _ _ => .error (.wrongType .sequence expected)
  | .object _ _ => .error (.wrongType .map expected)

/-- The end of a container whose parts were all read. -/
def close : Option Stop → Except DecodeError Unit
  | none => .ok ()
  | some stop => .error (.fault stop.reading)

/-- Pass over a value that nobody asks for. -/
def ignore (draft : Draft) : Except DecodeError Unit :=
  match draft.skipFault? with
  | none => .ok ()
  | some fault => .error (.fault fault)

/-- A key of an object. -/
def key : Except Fault String → Except DecodeError String
  | .ok name => .ok name
  | .error fault => .error (.fault fault)

/-! ## Scalars -/

/-- A string. -/
def string : Decoder String := fun _ draft =>
  match draft with
  | .scalar (.ok (.string value)) _ => .ok value
  | other => wrongKind "a string" other

/-- A truth value. -/
def bool : Decoder Bool := fun _ draft =>
  match draft with
  | .scalar (.ok (.bool value)) _ => .ok value
  | other => wrongKind "a boolean" other

/-- An unsigned 64-bit integer. -/
def nat : Decoder Nat := fun _ draft =>
  match draft with
  | .scalar (.ok (.number (.int value))) _ =>
    if 0 ≤ value then .ok value.toNat else .error (.wrongValue (.number (.int value)) "u64")
  | other => wrongKind "u64" other

/-- An optional value: null stands for an absent one. -/
def option {α : Type} (inner : Decoder α) : Decoder (Option α) := fun reading draft =>
  match draft with
  | .scalar (.ok .null) _ => .ok none
  | other => (inner reading other).map some

/-! ## Any value -/

mutual

/-- Any value. -/
def json (reading : Reading) : Draft → Except DecodeError Json
  | .scalar (.error fault) _ => .error (.fault fault)
  | .scalar (.ok .null) _ => .ok .null
  | .scalar (.ok (.bool value)) _ => .ok (.bool value)
  | .scalar (.ok (.number value)) _ => .ok (.number value)
  | .scalar (.ok (.string value)) _ => .ok (.string value)
  | .array items stop => do
    let inner ← reading.enter
    let items ← jsonItems inner items
    close stop
    .ok (.array items)
  | .object fields stop => do
    let inner ← reading.enter
    let fields ← jsonFields inner [] fields
    close stop
    .ok (.object fields)

/-- The items of an array. -/
def jsonItems (reading : Reading) : List Draft → Except DecodeError (List Json)
  | [] => .ok []
  | item :: rest => do
    let item ← json reading item
    let rest ← jsonItems reading rest
    .ok (item :: rest)

/-- The fields of an object, added to those decoded so far. Of two fields of one
name the later one counts. -/
def jsonFields (reading : Reading) (done : Dict Json) :
    List (Except Fault String × Draft) → Except DecodeError (Dict Json)
  | [] => .ok done
  | (name, value) :: rest => do
    let name ← key name
    let value ← json reading value
    jsonFields reading (Dict.insert done name value) rest

end

/-! ## Lists and dictionaries -/

/-- The items of a list, one after the other. -/
def items {α : Type} (item : Decoder α) (reading : Reading) :
    List Draft → Except DecodeError (List α)
  | [] => .ok []
  | draft :: rest => do
    let value ← item reading draft
    let values ← items item reading rest
    .ok (value :: values)

/-- A list. -/
def list {α : Type} (item : Decoder α) : Decoder (List α) := fun reading draft =>
  match draft with
  | .array drafts stop => do
    let inner ← reading.enter
    let values ← items item inner drafts
    close stop
    .ok values
  | other => wrongKind "a sequence" other

/-- Walk the fields of an object in their order, carrying a state along. -/
def foldFields {σ : Type} (step : σ → String → Reading → Draft → Except DecodeError σ)
    (reading : Reading) : σ → List (Except Fault String × Draft) → Except DecodeError σ
  | state, [] => .ok state
  | state, (name, value) :: rest => do
    let name ← key name
    let state ← step state name reading value
    foldFields step reading state rest

/-- An object, its fields walked in their order. -/
def fields {σ : Type} (expected : String) (start : σ)
    (step : σ → String → Reading → Draft → Except DecodeError σ) : Decoder σ :=
  fun reading draft =>
    match draft with
    | .object entries stop => do
      let inner ← reading.enter
      let state ← foldFields step inner start entries
      close stop
      .ok state
    | other => wrongKind expected other

/-- A dictionary. -/
def dict {α : Type} (value : Decoder α) : Decoder (Dict α) :=
  fields "a map" [] fun done name reading draft => do
    let value ← value reading draft
    .ok (Dict.insert done name value)

/-- Any object. -/
def object : Decoder (Dict Json) :=
  dict json

/-! ## Records -/

/-- Decode a field that may occur only once. -/
def once {α : Type} (name : String) (slot : Option α) (decoder : Decoder α) (reading : Reading)
    (draft : Draft) : Except DecodeError (Option α) :=
  match slot with
  | some _ => .error (.duplicateField name)
  | none => (decoder reading draft).map some

/-- The value of a field that must be there. -/
def required {α : Type} (name : String) : Option α → Except DecodeError α
  | some value => .ok value
  | none => .error (.missingField name)

/-- The unread end of an array whose items stand for the fields of a record. -/
structure Positions where
  drafts : List Draft
  stop : Option Stop

/-- The item at the next position, if there is one. -/
def nextItem {α : Type} (decoder : Decoder α) (reading : Reading) (rest : Positions) :
    Except DecodeError (Option α × Positions) :=
  match rest.drafts with
  | draft :: drafts => do
    let value ← decoder reading draft
    .ok (some value, { rest with drafts })
  | [] => do
    close rest.stop
    .ok (none, rest)

/-- The item at a position that must be there. -/
def requiredItem {α : Type} (position : Nat) (expected : String) (decoder : Decoder α)
    (reading : Reading) (rest : Positions) : Except DecodeError (α × Positions) := do
  match ← nextItem decoder reading rest with
  | (some value, rest) => .ok (value, rest)
  | (none, _) => .error (.wrongLength position expected)

/-- What closing an array early makes of its end: behind the last item that was
read there may be nothing but the closing mark. -/
def earlyClose (reading : Reading) (length : Nat) (rest : Positions) : Except DecodeError Unit :=
  match rest.drafts, rest.stop with
  | _ :: _, _ =>
    match reading with
    | .text _ => .error (.fault .trailingCharacters)
    | .value => .error (.wrongLength length "fewer elements in array")
  | [], some stop =>
    if stop.reading = .endInArray ∨ stop.reading = .trailingComma then
      .error (.fault stop.reading)
    else .error (.fault .trailingCharacters)
  | [], none => .ok ()

/-- A record that is written as an object of its fields or as an array of them.
`byName` decodes the first form and `byPosition` the second. -/
def record {α : Type} (expected : String) (byName : Decoder α)
    (byPosition : Reading → Positions → Except DecodeError (α × Positions)) : Decoder α :=
  fun reading draft =>
    match draft with
    | .array drafts stop => do
      let inner ← reading.enter
      let (value, rest) ← byPosition inner ⟨drafts, stop⟩
      earlyClose reading drafts.length rest
      .ok value
    | .object _ _ => byName reading draft
    | other => wrongKind expected other

/-! ## Plain choices -/

/-- The value of a choice from its name. -/
def byName {α : Type} (choices : List (String × α)) (name : String) : Except DecodeError α :=
  match Dict.get? choices name with
  | some value => .ok value
  | none => .error (.unknownVariant name (choices.map Prod.fst))

/-- The empty content of a plain choice. -/
def unit : Decoder Unit := fun _ draft =>
  match draft with
  | .scalar (.ok .null) _ => .ok ()
  | other => wrongKind "unit" other

/-- What a fault in the place of a choice is to its reader: what begins neither
a string nor an object is not looked into. -/
def choiceFault : Fault → Fault
  | .invalidNumber | .numberOutOfRange | .expectedWord | .endInScalar => .expectedValue
  | other => other

/-- A choice in a text: its name, or an object whose only key is its name. -/
def textChoice {α : Type} (choices : List (String × α)) (reading : Reading) :
    Draft → Except DecodeError α
  | .scalar (.ok (.string name)) _ => byName choices name
  | .scalar (.ok _) _ => .error (.fault .expectedValue)
  | .scalar (.error fault) _ => .error (.fault (choiceFault fault))
  | .array _ _ => .error (.fault .expectedValue)
  | .object [] none => do
    let _ ← reading.enter
    .error (.fault .keyNotString)
  | .object [] (some stop) => do
    let _ ← reading.enter
    .error (.fault stop.reading)
  | .object ((name, value) :: rest) stop => do
    let inner ← reading.enter
    let name ← key name
    let choice ← byName choices name
    unit inner value
    match rest, stop with
    | [], none => .ok choice
    | [], some stop =>
      .error (.fault (if stop.reading = .endInObject then .endInObject else .expectedValue))
    | _ :: _, _ => .error (.fault .expectedValue)

/-- A choice in a value: its name, or an object whose only key is its name. -/
def valueChoice {α : Type} (choices : List (String × α)) : Draft → Except DecodeError α
  | .scalar (.ok (.string name)) _ => byName choices name
  | .object [(name, value)] _ => do
    let name ← key name
    let choice ← byName choices name
    unit .value value
    .ok choice
  | .object _ _ => .error (.wrongValue .map "map with a single key")
  | other => wrongKind "string or map" other

/-- One of several plain choices. -/
def choice {α : Type} (choices : List (String × α)) : Decoder α := fun reading draft =>
  match reading with
  | .text _ => textChoice choices reading draft
  | .value => valueChoice choices draft

/-! ## Whole texts and values -/

/-- How many levels of containers a text may nest. -/
def textLevels : Nat := 127

/-- Decode a draft that is a whole text. -/
def draftText {α : Type} (decoder : Decoder α) (text : DraftText) : Except DecodeError α := do
  let value ← decoder (.text textLevels) text.draft
  match text.trailing with
  | some fault => .error (.fault fault)
  | none => .ok value

/-- Decode a text. -/
def text {α : Type} (decoder : Decoder α) (source : String) : Except DecodeError α :=
  draftText decoder (.ofText source)

/-- Decode bytes. -/
def bytes {α : Type} (decoder : Decoder α) (source : List UInt8) : Except DecodeError α :=
  draftText decoder (.ofBytes source)

/-- Decode a value. -/
def value {α : Type} (decoder : Decoder α) (source : Json) : Except DecodeError α :=
  decoder .value (.ofJson source)

end Decode

end EventFlow
