import EventFlow.Dict

/-!
# JSON values

The dynamic data of the engine: event payloads, trigger contexts and stored
documents. Numbers are either integers or doubles and the two never compare
equal. An object is a list of fields; `Json.sorted` puts the fields of every
object into ascending order, which is the form that the engine holds.
-/

namespace EventFlow

/-- A JSON number. Readers make an `int` of whatever fits -2^63 to 2^64-1
without a fraction or an exponent, and a `double` of everything else. -/
inductive Number where
  | int (value : Int)
  | double (value : Float)

/-- A JSON value. -/
inductive Json where
  | null
  | bool (value : Bool)
  | number (value : Number)
  | string (value : String)
  | array (items : List Json)
  | object (fields : List (String × Json))

namespace Number

/-- Equality of values: of one kind and equal within it. -/
def same : Number → Number → Bool
  | .int a, .int b => a == b
  | .double a, .double b => a == b
  | _, _ => false

/-- The nearest double. -/
def toDouble : Number → Float
  | .int value => Float.ofInt value
  | .double value => value

end Number

namespace Json

instance : Inhabited Json := ⟨.null⟩

instance : Coe String Json := ⟨.string⟩

/-- An integer number. -/
def int (value : Int) : Json :=
  .number (.int value)

/-- A natural number. -/
def nat (value : Nat) : Json :=
  .number (.int value)

mutual

/-- Equality of values. Objects are compared field by field in order, so both
sides have to be sorted. -/
def same : Json → Json → Bool
  | .null, .null => true
  | .bool a, .bool b => a == b
  | .number a, .number b => a.same b
  | .string a, .string b => a == b
  | .array a, .array b => sameItems a b
  | .object a, .object b => sameFields a b
  | _, _ => false

/-- `same` for the items of two arrays. -/
def sameItems : List Json → List Json → Bool
  | [], [] => true
  | a :: as, b :: bs => same a b && sameItems as bs
  | _, _ => false

/-- `same` for the fields of two objects. -/
def sameFields : List (String × Json) → List (String × Json) → Bool
  | [], [] => true
  | (k, a) :: as, (l, b) :: bs => k == l && same a b && sameFields as bs
  | _, _ => false

end

mutual

/-- Put the fields of every object into ascending order; of two fields of one
name the later one counts. -/
def sorted : Json → Json
  | .array items => .array (sortedItems items)
  | .object fields => .object (sortedFields fields [])
  | other => other

/-- `sorted` for the items of an array. -/
def sortedItems : List Json → List Json
  | [] => []
  | item :: rest => sorted item :: sortedItems rest

/-- `sorted` for fields, inserted into those seen so far. -/
def sortedFields : List (String × Json) → Dict Json → Dict Json
  | [], done => done
  | (key, value) :: rest, done => sortedFields rest (Dict.insert done key (sorted value))

end

/-- The value of a field; only objects have fields. -/
def get? : Json → String → Option Json
  | .object fields, key => Dict.get? fields key
  | _, _ => none

/-- The text of a string. -/
def asString? : Json → Option String
  | .string value => some value
  | _ => none

/-- The truth value of a boolean. -/
def asBool? : Json → Option Bool
  | .bool value => some value
  | _ => none

/-- The items of an array. -/
def asArray? : Json → Option (List Json)
  | .array items => some items
  | _ => none

/-- A number as a double. -/
def asDouble? : Json → Option Float
  | .number value => some value.toDouble
  | _ => none

/-- A number that is an unsigned 64-bit integer. -/
def asNat? : Json → Option Nat
  | .number (.int value) => if 0 ≤ value then some value.toNat else none
  | _ => none

/-- The fields of an object, and none for anything else. -/
def fields : Json → Dict Json
  | .object fields => fields
  | _ => []

end Json

end EventFlow
