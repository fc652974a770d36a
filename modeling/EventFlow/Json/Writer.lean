import EventFlow.Json.Basic
import EventFlow.Decimal.Shortest

/-!
# Writing JSON

Compact text has no blanks; laid-out text puts each item and each field on a
line of its own, two blanks deeper than its container. Only the quotation mark,
the backslash and the control characters below U+0020 are escaped.
-/

namespace EventFlow

open Decimal

namespace Number

/-- Doubles whose leading digit stands at the places -5 to 15 are written
positionally and always with a fraction; all others with a signed exponent. -/
def doubleText (value : Float) : List Char :=
  if value.isNaN || value.isInf then "null".toList
  else
    let sign := if isNegative value then ['-'] else []
    match shortest? value with
    | none => sign ++ "0.0".toList
    | some d =>
      let place := d.leadingPlace
      if -5 ≤ place && place < 16 then sign ++ d.positional ['.', '0']
      else
        let mantissa := (Digits.mk d.digits (1 - digitCount d.digits)).positional []
        let mark := if place < 0 then ['-'] else ['+']
        sign ++ mantissa ++ 'e' :: (mark ++ digitText place.natAbs)

/-- The text of an integer. -/
def intText (value : Int) : List Char :=
  if value < 0 then '-' :: digitText value.natAbs else digitText value.natAbs

/-- The text of a number. -/
def text : Number → List Char
  | .int value => intText value
  | .double value => doubleText value

end Number

namespace Json

/-- The hexadecimal digit of a number below 16, in lower case. -/
def hexDigit (n : Nat) : Char :=
  Char.ofNat (if n < 10 then 48 + n else 87 + n)

/-- A character inside a JSON string. -/
def escapeChar (c : Char) : List Char :=
  if c = '"' then ['\\', '"']
  else if c = '\\' then ['\\', '\\']
  else if c = '\x08' then ['\\', 'b']
  else if c = '\x0c' then ['\\', 'f']
  else if c = '\n' then ['\\', 'n']
  else if c = '\r' then ['\\', 'r']
  else if c = '\t' then ['\\', 't']
  else if c.toNat < 32 then
    ['\\', 'u', '0', '0', hexDigit (c.toNat / 16), hexDigit (c.toNat % 16)]
  else [c]

/-- A JSON string with its quotation marks. -/
def stringChars (value : String) : List Char :=
  '"' :: (value.toList.flatMap escapeChar ++ ['"'])

/-- The text of a truth value. -/
def boolChars (value : Bool) : List Char :=
  if value then ['t', 'r', 'u', 'e'] else ['f', 'a', 'l', 's', 'e']

mutual

/-- Compact text, as characters. -/
def compactChars : Json → List Char
  | .null => ['n', 'u', 'l', 'l']
  | .bool value => boolChars value
  | .number value => value.text
  | .string value => stringChars value
  | .array items => '[' :: (compactItems items ++ [']'])
  | .object fields => '\x7b' :: (compactFields fields ++ ['\x7d'])

/-- The items of an array, with commas between them. -/
def compactItems : List Json → List Char
  | [] => []
  | item :: rest =>
    match rest with
    | [] => compactChars item
    | _ :: _ => compactChars item ++ ',' :: compactItems rest

/-- The fields of an object, with commas between them. -/
def compactFields : List (String × Json) → List Char
  | [] => []
  | (key, value) :: rest =>
    match rest with
    | [] => stringChars key ++ ':' :: compactChars value
    | _ :: _ => stringChars key ++ ':' :: (compactChars value ++ ',' :: compactFields rest)

end

/-- Compact text. -/
def compact (value : Json) : String :=
  String.ofList value.compactChars

/-- A new line that is `depth` levels deep. -/
def newLine (depth : Nat) : List Char :=
  '\n' :: List.replicate (2 * depth) ' '

mutual

/-- Laid-out text at a depth, as characters. Empty containers stay on one
line. -/
def laidOutChars (depth : Nat) : Json → List Char
  | .array (item :: rest) =>
    '[' :: (newLine (depth + 1) ++ laidOutItems (depth + 1) (item :: rest) ++ newLine depth ++ [']'])
  | .object (field :: rest) =>
    '\x7b' ::
      (newLine (depth + 1) ++ laidOutFields (depth + 1) (field :: rest) ++ newLine depth ++ ['\x7d'])
  | .array [] => ['[', ']']
  | .object [] => ['\x7b', '\x7d']
  | .null => ['n', 'u', 'l', 'l']
  | .bool value => boolChars value
  | .number value => value.text
  | .string value => stringChars value

/-- The items of an array, each on its line. -/
def laidOutItems (depth : Nat) : List Json → List Char
  | [] => []
  | item :: rest =>
    match rest with
    | [] => laidOutChars depth item
    | _ :: _ => laidOutChars depth item ++ ',' :: (newLine depth ++ laidOutItems depth rest)

/-- The fields of an object, each on its line. -/
def laidOutFields (depth : Nat) : List (String × Json) → List Char
  | [] => []
  | (key, value) :: rest =>
    let entry := stringChars key ++ ':' :: ' ' :: laidOutChars depth value
    match rest with
    | [] => entry
    | _ :: _ => entry ++ ',' :: (newLine depth ++ laidOutFields depth rest)

end

/-- Laid-out text, two blanks a level. -/
def laidOut (value : Json) : String :=
  String.ofList (value.laidOutChars 0)

end Json

end EventFlow
