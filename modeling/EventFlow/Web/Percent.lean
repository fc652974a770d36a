import EventFlow.Text.Utf8

/-!
# Percent encoding

A part of a URL holds some characters as they are; each byte of every other
character is written as a percent sign and two hexadecimal digits. Which
characters are encoded depends on the part.
-/

namespace EventFlow.Web.Percent

open Text

/-- Characters that a part of a URL does not hold as they are. -/
abbrev Encoded := Char → Bool

/-- Control characters and everything beyond ASCII. -/
def controls : Encoded := fun c =>
  c.toNat < 32 || c.toNat ≥ 127

/-- The characters encoded in a fragment. -/
def fragment : Encoded := fun c =>
  controls c || " \"<>\x60".toList.contains c

/-- The characters encoded in the query of a scheme that is not special. -/
def query : Encoded := fun c =>
  controls c || " \"#<>".toList.contains c

/-- The characters encoded in the query of a special scheme. -/
def specialQuery : Encoded := fun c =>
  query c || c = '\''

/-- The characters encoded in a path. -/
def path : Encoded := fun c =>
  fragment c || "#?\x7b\x7d".toList.contains c

/-- The characters encoded in a user name or a password. -/
def userInfo : Encoded := fun c =>
  path c || "/:;=@[\\]^|".toList.contains c

/-- The characters encoded in a path segment that is added to a URL. -/
def segment : Encoded := fun c =>
  path c || "/%\\".toList.contains c

/-- A hexadecimal digit of a byte, in upper case. -/
def hexDigit (n : Nat) : Char :=
  Char.ofNat (if n < 10 then 48 + n else 55 + n)

/-- A byte in its encoded form. -/
def encodeByte (byte : UInt8) : List Char :=
  ['%', hexDigit (byte.toNat / 16), hexDigit (byte.toNat % 16)]

/-- A character in its encoded form. -/
def encodeChar (c : Char) : List Char :=
  (bytesOf (String.singleton c)).flatMap encodeByte

/-- Characters as a part of a URL writes them. -/
def encodeChars (encoded : Encoded) (chars : List Char) : List Char :=
  chars.flatMap fun c => if encoded c then encodeChar c else [c]

/-- A text as a part of a URL writes it. -/
def encode (encoded : Encoded) (chars : List Char) : String :=
  String.ofList (encodeChars encoded chars)

/-- The value of a hexadecimal digit. -/
def hexValue? (c : Char) : Option Nat :=
  if '0' ≤ c ∧ c ≤ '9' then some (c.toNat - 48)
  else if 'a' ≤ c ∧ c ≤ 'f' then some (c.toNat - 87)
  else if 'A' ≤ c ∧ c ≤ 'F' then some (c.toNat - 55)
  else none

/-- The bytes behind an encoded text. A percent sign that two digits do not
follow stands for itself. -/
def decode : List Char → List UInt8
  | '%' :: a :: b :: rest =>
    match hexValue? a, hexValue? b with
    | some high, some low => UInt8.ofNat (high * 16 + low) :: decode rest
    | _, _ => 37 :: decode (a :: b :: rest)
  | c :: rest => bytesOf (String.singleton c) ++ decode rest
  | [] => []

end EventFlow.Web.Percent
