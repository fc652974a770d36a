import EventFlow.Json.Basic

/-!
# Paths into a document

A path such as `$.a.b` names a place inside a JSON document. Only objects are
entered; segments are field names. Main statement: what is written at a list of
segments is found there, whatever the document held before.
-/

namespace EventFlow

namespace Path

/-- The segments of a dotted text, given the segment under way in reverse. -/
def splitDots (current : List Char) : List Char → List String
  | [] => [String.ofList current.reverse]
  | c :: rest =>
    if c = '.' then String.ofList current.reverse :: splitDots [] rest
    else splitDots (c :: current) rest

/-- The segments of a dotted text that are not empty. -/
def segments (dotted : List Char) : List String :=
  (splitDots [] dotted).filter fun segment => !segment.isEmpty

/-- The segments that a path names for reading: it has to start with one dollar
sign, which is dropped. -/
def readSegments? (path : String) : Option (List String) :=
  match path.toList with
  | '$' :: rest => some (segments rest)
  | _ => none

/-- The segments that a path names for writing: all dollar signs in front are
dropped, and there may be none. -/
def writeSegments (path : String) : List String :=
  segments (path.toList.dropWhile (· = '$'))

end Path

namespace Json

/-- Follow field names from object to object. -/
def follow : Json → List String → Option Json
  | document, [] => some document
  | document, segment :: rest =>
    match document.get? segment with
    | some inner => follow inner rest
    | none => none

/-- Put a value at the end of a list of field names. Whatever is not an object
on the way is replaced by one. -/
def place (value : Json) : Json → List String → Json
  | _, [] => value
  | document, segment :: rest =>
    .object (Dict.insert document.fields segment
      (place value ((document.get? segment).getD .null) rest))

/-- The value at a path. -/
def lookup (document : Json) (path : String) : Option Json :=
  match Path.readSegments? path with
  | some segments => follow document segments
  | none => none

/-- The document with a value written at a path. -/
def write (document : Json) (path : String) (value : Json) : Json :=
  place value document (Path.writeSegments path)

section Laws

@[simp] theorem follow_nil (document : Json) : follow document [] = some document := by
  cases document <;> rfl

@[simp] theorem place_nil (value document : Json) : place value document [] = value := by
  cases document <;> rfl

theorem follow_cons (document : Json) (segment : String) (rest : List String) :
    follow document (segment :: rest) = (document.get? segment).bind (follow · rest) := by
  cases document <;> simp [follow, get?]
  split <;> simp [*]

theorem place_cons (value document : Json) (segment : String) (rest : List String) :
    place value document (segment :: rest) =
      .object (Dict.insert document.fields segment
        (place value ((document.get? segment).getD .null) rest)) := by
  cases document <;> rfl

/-- The fields of any value hold exactly what can be looked up in it. -/
theorem get?_fields (document : Json) (key : String) :
    Dict.get? document.fields key = document.get? key := by
  cases document <;> rfl

/-- What was placed is found at its place. -/
theorem follow_place (value document : Json) (segments : List String) :
    follow (place value document segments) segments = some value := by
  induction segments generalizing document with
  | nil => simp
  | cons segment rest ih => simp [place_cons, follow_cons, get?, ih]

end Laws

end Json

end EventFlow
