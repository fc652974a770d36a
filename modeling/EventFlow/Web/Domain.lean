import EventFlow.Text.Parts
import EventFlow.Web.Domain.Direction
import EventFlow.Web.Domain.Images
import EventFlow.Web.Domain.Joining
import EventFlow.Web.Domain.Marks
import EventFlow.Web.Punycode

/-!
# Domains

A domain is a list of labels between points. A label beyond ASCII has an ASCII
form, under which the domain is known to name servers. Domains that look alike
are brought to one form first, and labels that could mislead are turned down.
-/

namespace EventFlow.Web.Domain

/-- A label: its letters, and the form that consists of ASCII characters. -/
structure Label where
  letters : List Char
  text : List Char
deriving DecidableEq, Repr

/-- The ASCII characters that no domain holds. -/
def isForbidden (c : Char) : Bool :=
  c.toNat ≤ 32 || c.toNat = 127 || "%#/:<>?@[\\]^|".toList.contains c

/-- Whether all characters are ASCII. -/
def isAscii (chars : List Char) : Bool :=
  chars.all fun c => c.toNat < 128

/-- What stands before the ASCII form of a label. -/
def asciiMark : List Char := "xn--".toList

/-- How many characters a label beyond ASCII may have. -/
def longestLabel : Nat := 1000

/-- How many characters an ASCII form may have behind its mark. -/
def longestForm : Nat := 2000

/-- Whether a label beyond ASCII is sound: no mark comes first, and joiners stand
where they may. -/
def isSound (letters : List Char) : Bool :=
  !(letters.head?.map isMark).getD false && joinersFit [] letters
    && letters.length ≤ longestLabel

/-- The label of an ASCII form. It has to stand for letters that would be written
in this form. -/
def Label.ofForm? (form : List Char) : Option Label :=
  let body := form.drop asciiMark.length
  if form.getLast? = some '-' ∨ longestForm < body.length then none
  else
    match Punycode.decode? body with
    | none => none
    | some letters =>
      if letters.all isLetter && normal letters = letters && isSound letters then
        some ⟨letters, form⟩
      else none

/-- The label of some letters in their normal form. -/
def Label.ofLetters? (letters : List Char) : Option Label :=
  if asciiMark.isPrefixOf letters then
    if isAscii letters then ofForm? letters else none
  else if isAscii letters then some ⟨letters, letters⟩
  else if isSound letters then some ⟨letters, asciiMark ++ Punycode.encode letters⟩
  else none

/-- The parts of a domain between points. -/
def labels (text : List Char) : List (List Char) :=
  Text.parts (· = '.') text

/-- Whether directions matter in a domain, and some label has not one. -/
def misleads (found : List Label) : Bool :=
  found.any (fun label => runsLeft label.letters)
    && !found.all fun label => hasDirection label.letters

/-- The ASCII form of a domain. -/
def ascii? (text : List Char) : Option (List Char) := do
  let plain := normal (← imagesOf? text)
  if plain.any isForbidden then none
  let found ← (labels plain).mapM Label.ofLetters?
  if misleads found then none
  some (['.'].intercalate (found.map Label.text))

end EventFlow.Web.Domain
