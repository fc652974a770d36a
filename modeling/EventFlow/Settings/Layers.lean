import EventFlow.Folder
import EventFlow.Settings.Fit
import EventFlow.Settings.Variables

/-!
# Layers of settings

Settings come from a file and from environment variables, laid over each other
and over the defaults, and are then fitted to what they should hold. A file of
variables adds to the environment before.
-/

namespace EventFlow

namespace Settings

/-! ## The environment -/

/-- What the names of environment variables for settings start with, in lower
case. -/
def variableStem : List Char := "triggerflow__".toList

/-- The value of a variable: a truth value, an integer, a double, or else a
text. -/
def variableValue (text : String) : Scalar :=
  let small := Text.lowercase text
  if small = "true" then .bool true
  else if small = "false" then .bool false
  else
    match (Decimal.integer? text.toList).filter isWord with
    | some value => .number (.int value)
    | none =>
      match Decimal.double? text.toList with
      | some value => .number (.double value)
      | none => .string text

/-- Two underscores in a row stand for a point. -/
def withPoints : List Char → List Char
  | '_' :: '_' :: rest => '.' :: withPoints rest
  | c :: rest => c :: withPoints rest
  | [] => []

/-- The key of a variable, if it is one for settings. -/
def variableKey? (name : String) : Option String :=
  let small := (Text.lowercase name).toList
  if variableStem.isPrefixOf small then
    some (String.ofList (withPoints (small.drop variableStem.length)))
  else none

/-- Where the settings of environment variables come from. -/
def environmentOrigin : String := "the environment"

/-- The settings of environment variables. -/
def environmentLayer (environment : List (String × String)) : Dict Entry :=
  Dict.ofList (environment.filterMap fun (name, text) =>
    (variableKey? name).map fun key =>
      (key, .scalar (variableValue text) (some environmentOrigin)))

/-! ## Files -/

/-- A settings file: its path and its text. -/
structure File where
  path : String
  text : String

/-- The text of each file that can be read, by its path. -/
abbrev Files := String → Option String

/-- The path of the settings file that is used if it is there. -/
def defaultFile : String := "triggerflow.toml"

/-- The path of the file that adds variables to the environment. -/
def variablesFile : String := ".env"

/-- The ending of settings files. -/
def fileEnding : String := "json"

/-- The paths under which a settings file is looked for. -/
def candidates (path : String) : List String :=
  path :: (Folder.addEnding path fileEnding).toList

/-- Find the settings file of a path: the file itself, or the one with the ending
added. -/
def findFile (files : Files) (path : String) : Except Failure File :=
  match files path with
  | some text =>
    if Folder.ending? path = some fileEnding then .ok ⟨Folder.plainPath path, text⟩
    else .error (.settings (.fileFormat path))
  | none =>
    let found := (Folder.addEnding path fileEnding).bind fun ended =>
      (files ended).map fun text => File.mk (Folder.plainPath ended) text
    match found with
    | some file => .ok file
    | none => .error (.settings (.fileMissing path))

/-- The table in a settings file. -/
def fileLayer (file : File) : Except Failure (List (String × Entry)) :=
  match Decode.text Decode.json (Text.withoutMark file.text) with
  | .error cause => .error (.settings (.unreadable cause))
  | .ok value =>
    match Entry.ofJson (some file.path) value with
    | .table fields _ => .ok fields
    | other => .error (.settings (.notTable other.shape file.path))

/-! ## Loading -/

/-- Settings from the defaults, an optional file, and environment variables. -/
def ofLayers (file : Option File) (environment : List (String × String)) :
    Except Failure Settings := do
  let layer ←
    match file with
    | none => Except.ok []
    | some file => fileLayer file
  let standard := Entry.ofJson none ({} : Settings).encode.sorted
  fit ((standard.layOver layer).layOver (environmentLayer environment))

/-- The environment with what the file of variables adds to it. -/
def fullEnvironment (files : Files) (environment : List (String × String)) :
    List (String × String) :=
  match files variablesFile with
  | some text => Variables.addFile environment text
  | none => environment

/-- Load settings. A named file has to be there; without a name the default file
is used if it is there. -/
def load (files : Files) (path : Option String) (environment : List (String × String)) :
    Except Failure Settings :=
  let environment := fullEnvironment files environment
  match path with
  | some path => do
    let file ← findFile files path
    ofLayers (some file) environment
  | none =>
    match findFile files defaultFile with
    | .ok file => ofLayers (some file) environment
    | .error (.settings (.fileMissing _)) => ofLayers none environment
    | .error cause => .error cause

end Settings

end EventFlow
