import EventFlow.Text.Casing

/-!
# Lower case

Text in lower case, character by character. Two characters are special: the
capital I with a dot becomes two characters, and a capital sigma takes its final
form at the end of a word.
-/

namespace EventFlow.Text

/-- The small letter of a capital; every other code point is kept. -/
def smallCode (code : Nat) : Nat :=
  match capitalRuns.find? fun run =>
      run.1 ≤ code && code ≤ run.2.1 && (code - run.1) % run.2.2.1 = 0 with
  | some run => ((code : Int) + run.2.2.2).toNat
  | none => code

/-- Whether the first character that does not leave the matter open has case. -/
def meetsCasedLetter : List Char → Bool
  | [] => false
  | c :: rest =>
    if caseIgnorable.contains c.toNat then meetsCasedLetter rest
    else casedLetters.contains c.toNat

/-- Lower-case the rest of a text, given what stands before it in reverse. -/
def lowercaseFrom (before : List Char) : List Char → List Char
  | [] => []
  | c :: rest =>
    let small :=
      if c.toNat < 128 then [c.toLower]
      else if c = 'İ' then ['i', '\u0307']
      else if c = 'Σ' then
        if meetsCasedLetter before && !meetsCasedLetter rest then ['ς'] else ['σ']
      else [Char.ofNat (smallCode c.toNat)]
    small ++ lowercaseFrom (c :: before) rest

/-- The text in lower case. -/
def lowercase (text : String) : String :=
  String.ofList (lowercaseFrom [] text.toList)

end EventFlow.Text
