import EventFlow.Failure
import EventFlow.Web.Domain
import EventFlow.Web.Percent

/-!
# Hosts

The host of a URL is a name or an address. In URLs of special schemes a name is
a domain: it is decoded, brought to its ASCII form, and taken for an address if
it ends in a number.
-/

namespace EventFlow.Web

/-- The host of a URL. -/
inductive Host where
  | name (text : String)
  | ipv4 (address : Nat)
  | ipv6 (pieces : List Nat)

namespace Host

/-! ## Addresses of four bytes -/

/-- The number that digits of a base name. -/
def number (base : Nat) (digits : List Char) : Option Nat :=
  digits.foldlM (fun value c =>
    match Percent.hexValue? c with
    | some digit => if digit < base then some (value * base + digit) else none
    | none => none) 0

/-- A part of an address: hexadecimal behind `0x`, octal behind a zero, and
decimal otherwise. -/
def ipv4Number? : List Char → Option Nat
  | [] => none
  | '0' :: 'x' :: digits => number 16 digits
  | '0' :: 'X' :: digits => number 16 digits
  | '0' :: c :: digits => number 8 (c :: digits)
  | digits => number 10 digits

/-- The address of four numbers or fewer; the last one fills what the others
leave. -/
def ipv4Value? (numbers : List Nat) : Option Nat :=
  match numbers.reverse with
  | [] => none
  | last :: others =>
    if others.any (· > 255) ∨ last ≥ Nat.pow 256 (4 - others.length) then none
    else some ((others.reverse.foldl (fun value n => value * 256 + n) 0)
      * Nat.pow 256 (4 - others.length) + last)

/-- Parts without a last one that is empty. -/
def withoutEmptyLast (parts : List (List Char)) : List (List Char) :=
  match parts.reverse with
  | [] :: rest => rest.reverse
  | _ => parts

/-- The address that a domain is. -/
def ipv4? (domain : List Char) : Option Nat :=
  let parts := withoutEmptyLast (Domain.labels domain)
  if parts.length > 4 then none
  else (parts.mapM ipv4Number?).bind ipv4Value?

/-- Whether the last label of a domain is a number, which makes it an address. -/
def endsInNumber (domain : List Char) : Bool :=
  let parts := Domain.labels domain
  let last? :=
    match parts.reverse with
    | [] :: [] => none
    | [] :: last :: _ => some last
    | last :: _ => some last
    | [] => none
  match last? with
  | none => false
  | some last => (!last.isEmpty && last.all Char.isDigit) || (ipv4Number? last).isSome

/-! ## Addresses of eight pieces -/

/-- A decimal number below 256 without a zero in front. -/
def byteNumber? : List Char → Option Nat
  | ['0'] => some 0
  | '0' :: _ => none
  | [] => none
  | digits =>
    if digits.length > 3 then none
    else (number 10 digits).filter (· < 256)

/-- The two pieces that four bytes between points make. -/
def dottedPieces? (group : List Char) : Option (List Nat) :=
  match (Domain.labels group).mapM byteNumber? with
  | some [a, b, c, d] => some [a * 256 + b, c * 256 + d]
  | _ => none

/-- The piece of one to four hexadecimal digits. -/
def piece? (group : List Char) : Option Nat :=
  if group.isEmpty || group.length > 4 then none else number 16 group

/-- The pieces of groups; the last group may be four bytes. -/
def pieces? : List (List Char) → Option (List Nat)
  | [] => some []
  | [last] => if last.contains '.' then dottedPieces? last else (piece? last).map ([·])
  | group :: rest => do
    let piece ← piece? group
    let pieces ← pieces? rest
    some (piece :: pieces)

/-- Split at the first double colon. -/
def splitDoubleColon (before : List Char) : List Char → Option (List Char × List Char)
  | ':' :: ':' :: rest => some (before.reverse, rest)
  | c :: rest => splitDoubleColon (c :: before) rest
  | [] => none

/-- The groups of a text between colons; an empty text has none. -/
def groups (text : List Char) : List (List Char) :=
  if text.isEmpty then [] else Text.parts (· = ':') text

/-- The address of eight pieces that a text is. A double colon stands for one
or more zero pieces. -/
def ipv6? (text : List Char) : Option (List Nat) :=
  match splitDoubleColon [] text with
  | none => (pieces? (groups text)).filter (·.length = 8)
  | some (head, tail) => do
    if head.contains '.' then none
    let front ← pieces? (groups head)
    let back ← pieces? (groups tail)
    let count := front.length + back.length
    if count > 7 then none
    some (front ++ List.replicate (8 - count) 0 ++ back)

/-- The length of the run of zeros at the front. -/
def zeroRun : List Nat → Nat
  | 0 :: rest => zeroRun rest + 1
  | _ => 0

/-- The place and the length of the first longest run of zeros. -/
def longestZeros (place : Nat) : List Nat → Nat × Nat
  | [] => (0, 0)
  | piece :: rest =>
    let here := zeroRun (piece :: rest)
    let found := longestZeros (place + 1) rest
    if here ≥ found.2 then (place, here) else found

/-- Pieces between colons. -/
def piecesText (pieces : List Nat) : List Char :=
  [':'].intercalate (pieces.map (Nat.toDigits 16))

/-- An address of eight pieces, its first longest run of two or more zeros
replaced by a double colon. -/
def ipv6Text (pieces : List Nat) : List Char :=
  let (place, run) := longestZeros 0 pieces
  if run < 2 then piecesText pieces
  else piecesText (pieces.take place) ++ ':' :: ':' :: piecesText (pieces.drop (place + run))

/-! ## Texts -/

/-- The host of a URL of a special scheme. -/
def ofSpecial (text : List Char) : Except UrlError Host :=
  match text with
  | '[' :: rest =>
    match rest.reverse with
    | ']' :: inner =>
      match ipv6? inner.reverse with
      | some pieces => .ok (.ipv6 pieces)
      | none => .error .invalidIpv6
    | _ => .error .invalidIpv6
  | _ =>
    match (Text.text? (Percent.decode text)).bind fun decoded => Domain.ascii? decoded.toList with
    | none => .error .invalidDomain
    | some [] => .error .emptyHost
    | some domain =>
      if endsInNumber domain then
        match ipv4? domain with
        | some address => .ok (.ipv4 address)
        | none => .error .invalidIpv4
      else .ok (.name (String.ofList domain))

/-- The characters that no host of another scheme holds. -/
def isForbiddenElsewhere (c : Char) : Bool :=
  "\x00\t\n\r #/:<>?@[\\]^|".toList.contains c

/-- The host of a URL of another scheme. -/
def ofOther (text : List Char) : Except UrlError Host :=
  match text with
  | '[' :: _ => ofSpecial text
  | _ =>
    if text.any isForbiddenElsewhere then .error .invalidCharacter
    else .ok (.name (Percent.encode Percent.controls text))

/-- The bytes of an address, from the highest. -/
def ipv4Text (address : Nat) : List Char :=
  let byte := fun place => Nat.toDigits 10 (address / Nat.pow 256 place % 256)
  ['.'].intercalate [byte 3, byte 2, byte 1, byte 0]

/-- The text of a host. -/
def text : Host → String
  | .name text => text
  | .ipv4 address => String.ofList (ipv4Text address)
  | .ipv6 pieces => String.ofList ('[' :: (ipv6Text pieces ++ [']']))

end Host

end EventFlow.Web
