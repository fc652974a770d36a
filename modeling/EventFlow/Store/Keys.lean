import EventFlow.Failure

/-!
# Names in a message server

A message server restricts the names of its streams and the keys of its
key-value buckets. A stream is named after its subject, with every forbidden
character replaced; a document is refused where its key could not be read back
into a space and a document.
-/

namespace EventFlow.Keys

/-- Whether a character is an ASCII letter or an ASCII digit. -/
def isPlain (c : Char) : Bool :=
  c.isAlphanum

/-- A character as a stream name may hold it. -/
def streamChar (c : Char) : Char :=
  if isPlain c || c = '-' || c = '_' then c else '_'

/-- The stream that carries a subject. -/
def streamName (stem subject : String) : String :=
  stem ++ "_" ++ String.ofList (subject.toList.map streamChar)

/-- Whether a part of a key may hold the character. -/
def isKeyChar (c : Char) : Bool :=
  isPlain c || c = '-' || c = '_' || c = '=' || c = '/'

/-- Whether a text may be a part of a key. -/
def isKeyPart (part : String) : Bool :=
  !part.isEmpty && part.toList.all isKeyChar

/-- The key of a document of a space. -/
def documentKey (space document : String) : Except Failure String :=
  if isKeyPart space && isKeyPart document then .ok (space ++ "." ++ document)
  else .error (.rejected (.documentKey space document))

end EventFlow.Keys
