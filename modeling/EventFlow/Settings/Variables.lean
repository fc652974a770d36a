import EventFlow.Text.Alphanumeric
import EventFlow.Text.Space

/-!
# Files of environment variables

A file of variables has lines such as `NAME=value`, with blanks around the equals
sign, an optional `export` in front, quotation marks, backslash escapes, comments,
and other variables inserted by `$NAME` or `${NAME}`. Variables that exist keep
their values, and nothing behind a line that cannot be read counts.
-/

namespace EventFlow

namespace Settings

namespace Variables

/-- The value of a variable; one that does not exist is empty. -/
def valueOf (environment : List (String × String)) (name : List Char) : List Char :=
  match environment.find? fun entry => entry.1 = String.ofList name with
  | some entry => entry.2.toList
  | none => []

/-! ## Values -/

/-- The quotation mark that is open. -/
inductive Quote where
  | none
  | single
  | double
deriving DecidableEq, Repr

/-- The name of a variable to be inserted, in reverse, as far as it was read. -/
inductive Naming where
  | none
  | bare (name : List Char)
  | braced (name : List Char)
deriving DecidableEq, Repr

/-- What was read of a value: its characters in reverse, and what is open. -/
structure Progress where
  done : List Char := []
  quote : Quote := .none
  naming : Naming := .none
  escaped : Bool := false
  ended : Bool := false

namespace Progress

/-- Take up a character. -/
def push (state : Progress) (c : Char) : Progress :=
  { state with done := c :: state.done }

/-- Insert a variable. -/
def insert (environment : List (String × String)) (state : Progress) (name : List Char) :
    Progress :=
  { state with
    done := (valueOf environment name.reverse).reverse ++ state.done
    naming := .none }

/-- Read a character behind a backslash. -/
def afterBackslash (state : Progress) (c : Char) : Option Progress :=
  let state := { state with escaped := false }
  if c = '\\' ∨ c = '\x27' ∨ c = '"' ∨ c = '$' ∨ c = ' ' then some (state.push c)
  else if c = 'n' then some (state.push '\n')
  else none

/-- Read a character behind a name without braces. Whatever ends the name stands
for itself, but for a dollar sign. -/
def afterBare (environment : List (String × String)) (state : Progress) (name : List Char)
    (c : Char) : Progress :=
  if Text.isAlphanumeric c then { state with naming := .bare (c :: name) }
  else if c = '\x7b' ∧ name.isEmpty then { state with naming := .braced [] }
  else
    let state := state.insert environment name
    if c = '$' then { state with naming := .bare [] } else state.push c

/-- Read a character where nothing is open but a double quotation mark. -/
def plain (state : Progress) (c : Char) : Progress :=
  if c = '$' then { state with naming := .bare [] }
  else if c = '\\' then { state with escaped := true }
  else if state.quote = .double then
    if c = '"' then { state with quote := .none } else state.push c
  else if c = '\x27' then { state with quote := .single }
  else if c = '"' then { state with quote := .double }
  else if c = ' ' ∨ c = '\t' then { state with ended := true }
  else state.push c

/-- Read a character of a value. -/
def step (environment : List (String × String)) (state : Progress) (c : Char) :
    Option Progress :=
  if state.escaped then state.afterBackslash c
  else if state.quote = .single then
    some (if c = '\x27' then { state with quote := .none } else state.push c)
  else
    match state.naming with
    | .bare name => some (state.afterBare environment name c)
    | .braced name =>
      some (if c = '\x7d' then state.insert environment name
        else { state with naming := .braced (c :: name) })
    | .none => some (state.plain c)

/-- The value at its end. Quotation marks and braces have to be closed. -/
def finish (environment : List (String × String)) (state : Progress) : Option (List Char) :=
  if state.quote ≠ .none then none
  else
    match state.naming with
    | .braced _ => none
    | .bare name => some (state.insert environment name).done.reverse
    | .none => some state.done.reverse

end Progress

/-- Read a value. Blanks end it, and nothing but a comment may follow them. -/
def readValue (environment : List (String × String)) (state : Progress) :
    List Char → Option (List Char)
  | [] => state.finish environment
  | c :: rest =>
    if state.ended then
      if c = ' ' ∨ c = '\t' then readValue environment state rest
      else if c = '#' then state.finish environment
      else none
    else
      match state.step environment c with
      | some state => readValue environment state rest
      | none => none

/-! ## Lines -/

/-- What a line says. -/
inductive Line where
  | blank
  | variable (name value : String)
  | unreadable
deriving DecidableEq, Repr

/-- Whether a name may start with the character. -/
def startsName (c : Char) : Bool :=
  c.isAlpha || c = '_'

/-- Whether a name may hold the character. -/
def isNameChar (c : Char) : Bool :=
  c.isAlphanum || c = '_' || c = '.'

/-- The name at the front, and what follows it and the blanks behind it. -/
def splitName? : List Char → Option (List Char × List Char)
  | [] => none
  | c :: rest =>
    if startsName c then
      some (c :: rest.takeWhile isNameChar, Text.trimStart (rest.dropWhile isNameChar))
    else none

/-- What stands behind the equals sign at the front. -/
def afterEquals? : List Char → Option (List Char)
  | '=' :: rest => some (Text.trimStart rest)
  | _ => none

/-- The name of a line, and what stands behind its equals sign. The word `export`
in front of a name is passed over. -/
def splitLine? (line : List Char) : Option (List Char × List Char) := do
  let (name, rest) ← splitName? line
  match afterEquals? rest with
  | some value => some (name, value)
  | none =>
    if name = "export".toList then do
      let (name, rest) ← splitName? rest
      let value ← afterEquals? rest
      some (name, value)
    else none

/-- Whether nothing but a comment is left. -/
def isVoid : List Char → Bool
  | [] => true
  | c :: _ => c = '#'

/-- Read a line. -/
def readLine (environment : List (String × String)) (line : List Char) : Line :=
  let line := Text.trimStart (Text.trimEnd line)
  if isVoid line then .blank
  else
    match splitLine? line with
    | none => .unreadable
    | some (name, value) =>
      if isVoid value then .variable (String.ofList name) ""
      else
        match readValue environment {} value with
        | some value => .variable (String.ofList name) (String.ofList value)
        | none => .unreadable

/-- The environment with the variables of some lines. -/
def addLines (environment : List (String × String)) : List String → List (String × String)
  | [] => environment
  | line :: rest =>
    match readLine environment line.toList with
    | .blank => addLines environment rest
    | .unreadable => environment
    | .variable name value =>
      if (environment.map Prod.fst).contains name then addLines environment rest
      else addLines (environment ++ [(name, value)]) rest

/-- The environment with the variables of a file. -/
def addFile (environment : List (String × String)) (text : String) : List (String × String) :=
  addLines environment (text.splitOn "\n")

end Variables

end Settings

end EventFlow
