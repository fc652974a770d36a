import EventFlow.Text.Ranges

/-!
# White space

The characters that stand for nothing but a gap, line ends among them.
-/

namespace EventFlow.Text

/-- The code points of white space. -/
def whiteSpace : Ranges :=
  [
    (0x9, 0xd), (0x20, 0x20), (0x85, 0x85), (0xa0, 0xa0), (0x1680, 0x1680),
    (0x2000, 0x200a), (0x2028, 0x2029), (0x202f, 0x202f), (0x205f, 0x205f), (0x3000, 0x3000)]

/-- Whether the character is white space. -/
def isSpace (c : Char) : Bool :=
  whiteSpace.contains c.toNat

/-- The characters behind the white space at the front. -/
def trimStart (chars : List Char) : List Char :=
  chars.dropWhile isSpace

/-- The characters before the white space at the end. -/
def trimEnd (chars : List Char) : List Char :=
  (trimStart chars.reverse).reverse

end EventFlow.Text
