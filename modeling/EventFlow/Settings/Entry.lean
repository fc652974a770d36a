import EventFlow.Json.Decode
import EventFlow.Settings.KeyPath

/-!
# Entries of settings

An entry is a value that some layer of the settings holds, together with the
place it comes from. Entries are laid into one another: tables are merged, and
anything else replaces what was there.
-/

namespace EventFlow

namespace Settings

/-- A value among the settings. The origin says which layer it comes from; what
is only made to hold other entries has none. -/
inductive Entry where
  | scalar (value : Scalar) (origin : Option String)
  | list (items : List Entry) (origin : Option String)
  | table (fields : List (String × Entry)) (origin : Option String)

/-- The smallest and the largest integer that a setting is read as. -/
def wordRange : Int × Int := (Int64.minValue.toInt, Int64.maxValue.toInt)

/-- Whether an integer is in the range of words. -/
def isWord (value : Int) : Bool :=
  wordRange.1 ≤ value && value ≤ wordRange.2

/-- A number as settings hold it: an integer out of the range of words is a
double. -/
def settledNumber : Number → Number
  | .int value => if isWord value then .int value else .double (Float.ofInt value)
  | .double value => .double value

namespace Entry

mutual

/-- The entry of a JSON value. -/
def ofJson (origin : Option String) : Json → Entry
  | .null => .scalar .null origin
  | .bool value => .scalar (.bool value) origin
  | .number value => .scalar (.number (settledNumber value)) origin
  | .string value => .scalar (.string value) origin
  | .array items => .list (ofItems origin items) origin
  | .object fields => .table (ofFields origin fields) origin

/-- The entries of the items of an array. -/
def ofItems (origin : Option String) : List Json → List Entry
  | [] => []
  | item :: rest => ofJson origin item :: ofItems origin rest

/-- The entries of the fields of an object. -/
def ofFields (origin : Option String) : List (String × Json) → List (String × Entry)
  | [] => []
  | (name, value) :: rest => (name, ofJson origin value) :: ofFields origin rest

end

/-- Nothing at all. -/
def nothing : Entry :=
  .scalar .null none

/-- Where the entry comes from. -/
def origin : Entry → Option String
  | .scalar _ origin => origin
  | .list _ origin => origin
  | .table _ origin => origin

/-- What the entry looks like. -/
def shape : Entry → Shape
  | .scalar value _ => Decode.scalarShape value
  | .list _ _ => .sequence
  | .table _ _ => .map

/-- The fields of a table with its origin. Anything else gives way to an empty
table. -/
def asTable : Entry → List (String × Entry) × Option String
  | .table fields origin => (fields, origin)
  | _ => ([], none)

/-- The items of a list with its origin. Anything else gives way to an empty
list. -/
def asList : Entry → List Entry × Option String
  | .list items origin => (items, origin)
  | _ => ([], none)

/-! ## Laying entries into one another -/

mutual

/-- Put an entry under a name into a table. A table is merged into what stands
there. -/
def setField (root : Entry) (name : String) : Entry → Entry
  | .table incoming _ =>
    let target := (Dict.get? root.asTable.1 name).getD (.table [] none)
    .table (Dict.insert root.asTable.1 name (setFields target incoming)) root.asTable.2
  | .list items origin =>
    .table (Dict.insert root.asTable.1 name (.list items origin)) root.asTable.2
  | .scalar value origin =>
    .table (Dict.insert root.asTable.1 name (.scalar value origin)) root.asTable.2

/-- Put entries under their names, in lower case, into a table. -/
def setFields (target : Entry) : List (String × Entry) → Entry
  | [] => target
  | (name, value) :: rest => setFields (setField target (Text.lowercase name) value) rest

end

/-- The position of an index in a list of some length, unless it counts back
beyond the start. -/
def position? (index : Int) (length : Nat) : Option Nat :=
  if 0 ≤ index then some index.toNat
  else if index.natAbs ≤ length then some (length - index.natAbs)
  else none

/-- Put an entry at the end of a path. Whatever stands in the way gives way to
tables and lists, and a list grows as far as it has to. -/
def place (value : Entry) : Entry → KeyPath → Entry
  | _, [] => value
  | root, [.field name] => setField root name value
  | root, .field name :: rest =>
    let (fields, origin) := root.asTable
    .table (Dict.insert fields name
      (place value ((Dict.get? fields name).getD nothing) rest)) origin
  | root, .item index :: rest =>
    let (items, origin) := root.asList
    match position? index items.length with
    | none => root
    | some position =>
      let grown := items ++ List.replicate (position + 1 - items.length) nothing
      .list (grown.set position (place value (items.getD position nothing) rest)) origin

/-- Lay the fields of a table over an entry; their names are paths. -/
def layOver (base : Entry) (layer : List (String × Entry)) : Entry :=
  layer.foldl (fun base field => place field.2 base (KeyPath.ofText field.1)) base

end Entry

end Settings

end EventFlow
