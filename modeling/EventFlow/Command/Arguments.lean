/-!
# Command-line arguments

A command line names a command with its arguments and options. Options come in
any order before or behind the arguments; an option with a value takes it from
behind an equals sign or from the next word, which must not look like an option.
No option may be given twice, and no command takes a second argument. Words are
read in their order, so that the first one out of place counts; an option that
takes the next word is settled only behind that word, and in front of a command
only behind the command's own words.
-/

namespace EventFlow

/-- What can be asked for. -/
inductive Command where
  | compile (file space initial : String) (commit : Bool)
  | createNamespace (name : String) (globalContext subject : Option String)
  | deleteNamespace (name : String) (confirm : Bool)
deriving DecidableEq, Repr

/-- A command with what applies to every command. -/
structure Invocation where
  settingsFile : Option String
  verbose : Bool
  command : Command
deriving DecidableEq, Repr

/-- A command line that names no command to be performed. -/
inductive Halt where
  | version
  | help
  | usage
deriving DecidableEq, Repr

namespace Arguments

/-- The options of one level of the command line. -/
structure Level where
  flags : List String
  options : List String
  /-- Whether the level ends with its first word. -/
  endsAtWord : Bool := false
  /-- Whether the version can be asked for. -/
  hasVersion : Bool := false

/-- What was found on a level. -/
structure Found where
  flags : List String := []
  values : List (String × String) := []
  words : List String := []
  /-- Whether the option that took the last word had been given before. -/
  repeated : Bool := false

/-- Whether a word looks like an option. -/
def looksLikeOption (word : String) : Bool :=
  match word.toList with
  | '-' :: _ :: _ => true
  | _ => false

/-- Take up a flag. -/
def addFlag (level : Level) (found : Found) (name : String) : Except Halt Found :=
  if name = "help" then .error .help
  else if name = "version" ∧ level.hasVersion then .error .version
  else if !level.flags.contains name || found.flags.contains name then .error .usage
  else .ok { found with flags := name :: found.flags }

/-- Take up the value of an option. -/
def addValue (found : Found) (name value : String) : Except Halt Found :=
  if (found.values.map Prod.fst).contains name then .error .usage
  else .ok { found with values := (name, value) :: found.values }

/-- Take up the value of an option that stood in a word of its own. In front of a
command a repetition is only noted. -/
def addWord (level : Level) (found : Found) (name value : String) : Except Halt Found :=
  match addValue found name value with
  | .ok found => .ok found
  | .error halt => if level.endsAtWord then .ok { found with repeated := true } else .error halt

/-- The flag of a letter. -/
def flagOfLetter (c : Char) : String :=
  if c = 'v' then "verbose" else if c = 'h' then "help" else if c = 'V' then "version" else ""

/-- What a word is. -/
inductive Token where
  | separator
  | long (name : String) (value : Option String)
  | letters (list : List Char)
  | word (text : String)

/-- The kind of a word. -/
def token (word : String) : Token :=
  match word.toList with
  | ['-', '-'] => .separator
  | '-' :: '-' :: rest =>
    match rest.span (· ≠ '=') with
    | (name, _ :: value) => .long (String.ofList name) (some (String.ofList value))
    | (name, []) => .long (String.ofList name) none
  | '-' :: c :: rest => .letters (c :: rest)
  | _ => .word word

/-- Read the words of a level. The result is what was found, and the words
behind the end of the level. -/
def scan (level : Level) (found : Found) : List String → Except Halt (Found × List String)
  | [] => .ok (found, [])
  | word :: rest =>
    match token word with
    | .separator =>
      if level.endsAtWord then .error .usage
      else .ok ({ found with words := found.words ++ rest }, [])
    | .word text =>
      if level.endsAtWord then .ok ({ found with words := [text] }, rest)
      else if found.words.isEmpty then scan level { found with words := [text] } rest
      else .error .usage
    | .letters letters =>
      if found.repeated then .error .usage
      else
        match letters.foldlM (fun found c => addFlag level found (flagOfLetter c)) found with
        | .error halt => .error halt
        | .ok found => scan level found rest
    | .long name value =>
      if found.repeated then .error .usage
      else if level.options.contains name then
        match value with
        | some value =>
          match addValue found name value with
          | .error halt => .error halt
          | .ok found => scan level found rest
        | none =>
          match rest with
          | [] => .error .usage
          | next :: behind =>
            if looksLikeOption next then .error .usage
            else
              match addWord level found name next with
              | .error halt => .error halt
              | .ok found => scan level found behind
      else if value.isSome then .error .usage
      else
        match addFlag level found name with
        | .error halt => .error halt
        | .ok found => scan level found rest
termination_by words => words.length

/-- The value of an option. -/
def Found.value? (found : Found) (name : String) : Option String :=
  (found.values.find? fun entry => entry.1 = name).map Prod.snd

/-- Whether a flag was given. -/
def Found.has (found : Found) (name : String) : Bool :=
  found.flags.contains name

/-- The one word of a level. -/
def Found.onlyWord (found : Found) : Except Halt String :=
  match found.words with
  | [word] => .ok word
  | _ => .error .usage

/-- The level in front of the command. -/
def outer : Level where
  flags := ["verbose"]
  options := ["config"]
  endsAtWord := true
  hasVersion := true

/-- The level behind a command with flags and options of its own. -/
def inner (flags options : List String) : Level where
  flags := "verbose" :: flags
  options := "config" :: options

/-- The levels behind the commands, by the commands' names. -/
def commandLevel? (name : String) : Option Level :=
  match name with
  | "compile" => some (inner ["commit"] ["namespace", "init-event"])
  | "create-namespace" => some (inner [] ["global-context", "subject"])
  | "delete-namespace" => some (inner ["confirm"] [])
  | _ => none

/-- The command of a name with what was found behind it. -/
def commandOf (name : String) (found : Found) (initial : String) : Except Halt Command := do
  let word ← found.onlyWord
  match name with
  | "compile" =>
    .ok (.compile word ((found.value? "namespace").getD "local")
      ((found.value? "init-event").getD initial) (found.has "commit"))
  | "create-namespace" =>
    .ok (.createNamespace word (found.value? "global-context") (found.value? "subject"))
  | "delete-namespace" => .ok (.deleteNamespace word (found.has "confirm"))
  | _ => .error .usage

/-- What asking for help on some words comes to: there is help on the whole, on
each command, and on asking for help. -/
def helpOn : List String → Halt
  | [] => .help
  | [word] => if (commandLevel? word).isSome ∨ word = "help" then .help else .usage
  | _ => .usage

/-- Read a command line, given the event that workflows start on by default. -/
def parse (initial : String) (words : List String) : Except Halt Invocation := do
  let (front, rest) ← scan outer {} words
  let name ← front.onlyWord
  if name = "help" then .error (helpOn rest)
  else
    match commandLevel? name with
    | none => .error .usage
    | some level => do
      let (found, _) ← scan level {} rest
      let command ← commandOf name found initial
      if front.repeated then .error .usage
      else
        .ok {
          settingsFile := (found.value? "config").or (front.value? "config")
          verbose := found.has "verbose" || front.has "verbose"
          command }

end Arguments

end EventFlow
