import EventFlow.Text.Parts
import EventFlow.Text.Ranges

/-!
# Tables of code points

A table is written as a text. Its entries stand between blanks, and each says
what becomes of some code points: `low-high/step>image` names every `step`-th code
point of a range with the image of the first one, which is a list of code points
between plus signs. Numbers are hexadecimal. Everything but the lowest code point
may be left out.
-/

namespace EventFlow.Text

/-- An entry of a table. -/
structure CodeRun where
  low : Nat
  high : Nat
  step : Nat
  image : List Nat
deriving DecidableEq, Repr

namespace CodeRun

/-- Whether the entry is about a code point. -/
def covers (run : CodeRun) (code : Nat) : Bool :=
  run.low ≤ code && code ≤ run.high && (code - run.low) % run.step = 0

/-- What becomes of a code point: its distance from the lowest one is kept. -/
def apply (run : CodeRun) (code : Nat) : List Nat :=
  match run.image with
  | [] => []
  | first :: rest => (first + (code - run.low)) :: rest

end CodeRun

/-- A table of code points. -/
abbrev CodeTable := List CodeRun

namespace CodeTable

/-- The entry for a code point. -/
def find? (table : CodeTable) (code : Nat) : Option CodeRun :=
  List.find? (fun run => run.covers code) table

/-- The value of a hexadecimal digit in lower case. -/
def digitValue (c : Char) : Nat :=
  if c.isDigit then c.toNat - 48 else c.toNat - 87

/-- The hexadecimal number of a text. -/
def hexNumber (digits : List Char) : Nat :=
  digits.foldl (fun value c => value * 16 + digitValue c) 0

/-- The entry of a text. -/
def readRun (text : List Char) : CodeRun :=
  let (codes, image) := text.span (· ≠ '>')
  let (bounds, step) := codes.span (· ≠ '/')
  let (low, high) := bounds.span (· ≠ '-')
  let behind := fun (part : List Char) => hexNumber (part.drop 1)
  { low := hexNumber low
    high := if high.isEmpty then hexNumber low else behind high
    step := if step.isEmpty then 1 else behind step
    image := if image.length ≤ 1 then [] else (parts (· = '+') (image.drop 1)).map hexNumber }

/-- The table of a text. -/
def ofText (text : String) : CodeTable :=
  ((parts (fun c => c = ' ' ∨ c = '\n') text.toList).filter fun word => !word.isEmpty).map readRun

/-- The ranges of the entries. -/
def ranges (table : CodeTable) : Ranges :=
  table.map fun run => (run.low, run.high)

end CodeTable

end EventFlow.Text
