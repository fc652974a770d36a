import EventFlow.Trigger.Basic

/-!
# The source-events index

For every subject the ids of the triggers that wait for it, in the order in
which they were added. No id stands twice under one subject, and a subject with
no trigger has no entry.
-/

namespace EventFlow

/-- Ids of waiting triggers by subject. -/
abbrev SourceEvents := Dict (List String)

namespace SourceEvents

/-- The ids under a subject. -/
def waiting (index : SourceEvents) (subject : String) : List String :=
  (Dict.get? index subject).getD []

/-- List an id under a subject, at the end, unless it is there. -/
def addUnder (id : String) (index : SourceEvents) (subject : String) : SourceEvents :=
  let ids := waiting index subject
  Dict.insert index subject (if ids.contains id then ids else ids ++ [id])

/-- List a trigger under every subject that it waits for. -/
def add (index : SourceEvents) (trigger : Trigger) : SourceEvents :=
  trigger.subjects.foldl (addUnder trigger.id) index

/-- Take an id away from a subject, and the subject with its last id. -/
def removeUnder (id : String) (index : SourceEvents) (subject : String) : SourceEvents :=
  match Dict.get? index subject with
  | none => index
  | some ids =>
    let rest := ids.filter (· ≠ id)
    if rest.isEmpty then Dict.erase index subject else Dict.insert index subject rest

/-- Take a trigger away from every subject that it waits for. -/
def remove (index : SourceEvents) (trigger : Trigger) : SourceEvents :=
  trigger.subjects.foldl (removeUnder trigger.id) index

/-- The index of a list of triggers. -/
def ofTriggers (triggers : List Trigger) : SourceEvents :=
  triggers.foldl add []

/-- The index as a JSON value. -/
def toJson (index : SourceEvents) : Json :=
  .object (index.map fun entry => (entry.1, .array (entry.2.map .string)))

/-- Decode an index. -/
def decoder : Decoder SourceEvents :=
  Decode.dict (Decode.list Decode.string)

end SourceEvents

end EventFlow
