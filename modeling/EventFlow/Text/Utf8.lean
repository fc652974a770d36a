/-!
# Bytes as text

Bytes are read as UTF-8. What cannot be read becomes a stray piece: the longest
run of bytes that could still have begun a character, or else one byte.
-/

namespace EventFlow.Text

/-- A piece of a byte text: a character, or bytes that are none. -/
inductive Glyph where
  | char (value : Char)
  | stray (width : Nat)
deriving DecidableEq

/-- How many bytes a piece takes. -/
def Glyph.width : Glyph → Nat
  | .char value => value.utf8Size
  | .stray width => width

/-- A piece as readers of damaged text show it. -/
def Glyph.shown : Glyph → Char
  | .char value => value
  | .stray _ => '\ufffd'

/-- The pieces of a text that is already known to be one. -/
def glyphsOf (text : String) : List Glyph :=
  text.toList.map Glyph.char

/-- The bytes of a text. -/
def bytesOf (text : String) : List UInt8 :=
  text.toUTF8.toList

/-- Whether a byte continues a character. -/
def isTail (b : UInt8) : Bool :=
  0x80 ≤ b && b ≤ 0xBF

/-- Whether the second byte fits the first one: it rules out overlong forms,
surrogates and code points beyond the last. -/
def fitsLead (lead second : UInt8) : Bool :=
  if lead = 0xE0 then 0xA0 ≤ second && second ≤ 0xBF
  else if lead = 0xED then 0x80 ≤ second && second ≤ 0x9F
  else if lead = 0xF0 then 0x90 ≤ second && second ≤ 0xBF
  else if lead = 0xF4 then 0x80 ≤ second && second ≤ 0x8F
  else isTail second

/-- The six payload bits of a continuation byte. -/
def tailBits (b : UInt8) : Nat :=
  b.toNat % 64

/-- The first piece of a nonempty byte sequence, given its first byte. -/
def firstGlyph (lead : UInt8) (rest : List UInt8) : Glyph :=
  if lead < 0x80 then .char (Char.ofNat lead.toNat)
  else if 0xC2 ≤ lead && lead ≤ 0xDF then
    match rest with
    | b :: _ => if isTail b then .char (Char.ofNat (lead.toNat % 32 * 64 + tailBits b)) else .stray 1
    | [] => .stray 1
  else if 0xE0 ≤ lead && lead ≤ 0xEF then
    match rest with
    | b :: c :: _ =>
      if !fitsLead lead b then .stray 1
      else if isTail c then
        .char (Char.ofNat ((lead.toNat % 16 * 64 + tailBits b) * 64 + tailBits c))
      else .stray 2
    | [b] => if fitsLead lead b then .stray 2 else .stray 1
    | [] => .stray 1
  else if 0xF0 ≤ lead && lead ≤ 0xF4 then
    match rest with
    | b :: c :: d :: _ =>
      if !fitsLead lead b then .stray 1
      else if !isTail c then .stray 2
      else if isTail d then
        .char (Char.ofNat
          (((lead.toNat % 8 * 64 + tailBits b) * 64 + tailBits c) * 64 + tailBits d))
      else .stray 3
    | [b, c] => if !fitsLead lead b then .stray 1 else if isTail c then .stray 3 else .stray 2
    | [b] => if fitsLead lead b then .stray 2 else .stray 1
    | [] => .stray 1
  else .stray 1

/-- Read pieces; each takes at least one byte, so as many steps as there are
bytes are enough. -/
def glyphsWithin : Nat → List UInt8 → List Glyph
  | 0, _ => []
  | _, [] => []
  | fuel + 1, lead :: rest =>
    let glyph := firstGlyph lead rest
    glyph :: glyphsWithin fuel (rest.drop (glyph.width - 1))

/-- The pieces of a byte sequence. -/
def glyphsOfBytes (bytes : List UInt8) : List Glyph :=
  glyphsWithin bytes.length bytes

/-- The bytes as text, with a replacement character for every stray piece. -/
def lossyText (bytes : List UInt8) : String :=
  String.ofList ((glyphsOfBytes bytes).map Glyph.shown)

/-- The bytes as text, if they are one. -/
def text? (bytes : List UInt8) : Option String :=
  let glyphs := glyphsOfBytes bytes
  if glyphs.all fun glyph => match glyph with | .char _ => true | .stray _ => false then
    some (String.ofList (glyphs.map Glyph.shown))
  else none

/-- A text without the mark of its byte order in front. -/
def withoutMark (text : String) : String :=
  match text.toList with
  | '\ufeff' :: rest => String.ofList rest
  | _ => text

end EventFlow.Text
