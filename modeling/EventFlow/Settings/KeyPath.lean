import EventFlow.Decimal.Plain
import EventFlow.Text.Lowercase

/-!
# Paths in keys of settings

The key of a setting names a way through tables and lists: `worker.refresh_every`
leads to a field of a table and `worker[1]` to an item of a list. A key that does
not follow the grammar is the name of one field as it stands. Names are in lower
case.
-/

namespace EventFlow

namespace Settings

/-- A step into a value: to a field by its name, or to an item by its index. A
negative index counts from the end. -/
inductive KeyStep where
  | field (name : String)
  | item (index : Int)
deriving DecidableEq, Repr

/-- A way into a value. -/
abbrev KeyPath := List KeyStep

namespace KeyPath

/-- Whether a name may hold the character. -/
def isNameChar (c : Char) : Bool :=
  c.isAlphanum || c = ' ' || c = '_' || c = '-'

/-- Whether the character may stand around an index. -/
def isGap (c : Char) : Bool :=
  c = ' ' || c = '\t'

/-- The step to a field, its name in lower case. -/
def fieldStep (name : List Char) : KeyStep :=
  .field (Text.lowercase (String.ofList name))

/-- The index between two brackets: a 64-bit integer. -/
def index? (inside : List Char) : Option Int :=
  let trimmed := ((inside.dropWhile isGap).reverse.dropWhile isGap).reverse
  let value :=
    match trimmed with
    | '-' :: digits => (Decimal.natural? digits).map fun size => -(size : Int)
    | digits => (Decimal.natural? digits).map fun size => (size : Int)
  value.filter fun index => Int64.minValue.toInt ≤ index && index ≤ Int64.maxValue.toInt

/-- The steps behind the first name: `.name` and `[index]`. -/
def steps? (text : List Char) : Option KeyPath :=
  match text with
  | [] => some []
  | '.' :: rest =>
    let name := rest.takeWhile isNameChar
    if name.isEmpty then none
    else (steps? (rest.dropWhile isNameChar)).map (fieldStep name :: ·)
  | '[' :: rest =>
    match _ : rest.dropWhile (· ≠ ']') with
    | [] => none
    | _ :: behind =>
      match index? (rest.takeWhile (· ≠ ']')) with
      | none => none
      | some index => (steps? behind).map (.item index :: ·)
  | _ => none
termination_by text.length
decreasing_by
  · have := (List.dropWhile_sublist isNameChar (l := rest)).length_le
    simp only [List.length_cons]
    omega
  · have := (List.dropWhile_sublist (fun c => decide (c ≠ ']')) (l := rest)).length_le
    rw [‹List.dropWhile _ rest = _›] at this
    simp only [List.length_cons] at this ⊢
    omega

/-- The path that a key stands for. -/
def ofText (key : String) : KeyPath :=
  let chars := key.toList
  let name := chars.takeWhile isNameChar
  match if name.isEmpty then none else steps? (chars.dropWhile isNameChar) with
  | some steps => fieldStep name :: steps
  | none => [fieldStep chars]

end KeyPath

end Settings

end EventFlow
