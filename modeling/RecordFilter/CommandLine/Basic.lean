import RecordFilter.Json.Member
import RecordFilter.Text.Search

/-! Commands and their options, and reading them from the arguments of a call. -/

namespace RecordFilter

/-- What a call asks for; its strings are paths of files. -/
inductive Command
  | check (filter schema : String)
  | run (filter schema : String) (records : Option String) (countOnly : Bool)
  | print (filter : String)
  deriving DecidableEq, Repr

/-- A command, and the environment file under which it is to run. -/
structure Invocation where
  environmentFile : Option String
  command : Command
  deriving DecidableEq, Repr

namespace CommandLine

/-- A command whose options are not known yet. -/
inductive CommandName
  | check
  | run
  | print
  deriving DecidableEq, Repr

/-- The command of a name. -/
def CommandName.ofText? : String → Option CommandName
  | "check" => some .check
  | "run" => some .run
  | "print" => some .print
  | _ => none

/-- What help can be asked about. -/
inductive Topic
  | program
  | command (name : CommandName)
  | help
  deriving DecidableEq, Repr

/-- The topic of a name. -/
def Topic.ofText? (name : String) : Option Topic :=
  if name = "help" then some .help else (CommandName.ofText? name).map .command

/-- Why arguments lead to no command: a question about the program, or a mistake. -/
inductive Stop
  | version
  | help (topic : Topic)
  | misused
  deriving DecidableEq, Repr

/-- An option that has a value. -/
inductive Setting
  | environmentFile
  | filter
  | schema
  | records
  deriving DecidableEq, Repr

/-- The option of a name. -/
def Setting.ofText? : String → Option Setting
  | "env-file" => some .environmentFile
  | "filter" => some .filter
  | "schema" => some .schema
  | "records" => some .records
  | _ => none

/-- The option may be given after a command, or before any. -/
def Setting.allowed : Setting → Option CommandName → Bool
  -- The environment file may be named anywhere.
  | .environmentFile, _ => true
  | .filter, some _ => true
  | .schema, some .check => true
  | .schema, some .run => true
  | .records, some .run => true
  | _, _ => false

/-- What the arguments so far have said; an option that has been named waits for what follows it. -/
structure Progress where
  outerFile : Option (Option String)
  command : Option CommandName
  waiting : Option (Setting × Option String)
  closed : Bool
  environmentFile : Option String
  filter : Option String
  schema : Option String
  records : Option String
  countOnly : Bool
  deriving DecidableEq, Repr

/-- What is said before the first argument: nothing. -/
def Progress.start : Progress :=
  ⟨some none, none, none, false, none, none, none, none, false⟩

namespace Progress

/-- The value of an option is known; an option may not be repeated. -/
def assign? (progress : Progress) (setting : Setting) (value : String) : Option Progress :=
  match setting with
  | .environmentFile =>
    (Json.fill? progress.environmentFile (some value)).map fun environmentFile =>
      { progress with environmentFile }
  | .filter =>
    (Json.fill? progress.filter (some value)).map fun filter => { progress with filter }
  | .schema =>
    (Json.fill? progress.schema (some value)).map fun schema => { progress with schema }
  | .records =>
    (Json.fill? progress.records (some value)).map fun records => { progress with records }

/-- Enters the value of the option that waits, if there is one; it must have a value by now. -/
def settled? (progress : Progress) : Option Progress :=
  match progress.waiting with
  | none => some progress
  | some (_, none) => none
  | some (setting, some value) => { progress with waiting := none }.assign? setting value

/-- Something that makes sense only after the option before it is complete. -/
def after (progress : Progress) (next : Progress → Except Stop Progress) : Except Stop Progress :=
  match progress.settled? with
  | some progress => next progress
  | none => .error .misused

/-- What help is about at this point. -/
def topic (progress : Progress) : Topic :=
  progress.command.elim .program .command

/-- An option by its name after two hyphens, with the value attached to it if there is one. -/
def takeLong (progress : Progress) (name : String) (value : Option String) :
    Except Stop Progress :=
  -- The version can be asked for before a command only.
  match Setting.ofText? name with
  | some setting =>
    if !setting.allowed progress.command then .error .misused
    else progress.after fun progress =>
      match value with
      | none => .ok { progress with waiting := some (setting, none) }
      | some value =>
        match progress.assign? setting value with
        | some progress => .ok progress
        | none => .error .misused
  | none =>
    if value.isSome then .error .misused
    else progress.after fun progress =>
      if name = "help" then .error (.help progress.topic)
      else if name = "version" ∧ progress.command = none then .error .version
      else if name = "count" ∧ progress.command = some .run ∧ progress.countOnly = false then
        .ok { progress with countOnly := true }
      else .error .misused

/-- Letters after one hyphen, of which the first decides. -/
def takeShort (progress : Progress) (letter : Char) : Except Stop Progress :=
  progress.after fun progress =>
    if letter = 'h' then .error (.help progress.topic)
    else if letter = 'V' ∧ progress.command = none then .error .version
    else .error .misused

/-- An argument that is no option: the name of the command, which is given once. -/
def takeWord (progress : Progress) (word : String) : Except Stop Progress :=
  -- The environment file may be named again after the command; that it was named twice shows last.
  match progress.command, CommandName.ofText? word with
  | none, some command =>
    .ok { Progress.start with
      command := some command, outerFile := progress.settled?.map Progress.environmentFile }
  | _, _ => .error .misused

/-- The next argument; two hyphens alone end the options, after which nothing may follow. -/
def take (progress : Progress) (argument : String) : Except Stop Progress :=
  if progress.closed then .error .misused
  else match argument.toList, progress.waiting with
    | '-' :: _ :: _, some (_, none) => .error .misused
    | _, some (setting, none) => .ok { progress with waiting := some (setting, some argument) }
    | ['-', '-'], _ => .ok { progress with closed := true }
    | '-' :: '-' :: chars, _ =>
      match Text.cut? ['='] chars with
      | some (name, value) =>
        progress.takeLong (String.ofList name) (some (String.ofList value))
      | none => progress.takeLong (String.ofList chars) none
    | '-' :: letter :: _, _ => progress.takeShort letter
    | _, _ => progress.takeWord argument

/-- The next argument may be the name of a command. -/
def expectsCommand (progress : Progress) : Bool :=
  progress.command.isNone && !progress.closed &&
    progress.waiting.all fun (_, value) => value.isSome

/-- The command with the options that it needs. -/
def command? (progress : Progress) : Option Command := do
  match ← progress.command with
  | .check => return .check (← progress.filter) (← progress.schema)
  | .run =>
    return .run (← progress.filter) (← progress.schema) progress.records progress.countOnly
  | .print => return .print (← progress.filter)

/-- The invocation that the arguments make up when there are no more of them. -/
def finish? (progress : Progress) : Option Invocation := do
  let progress ← progress.settled?
  let outerFile ← progress.outerFile
  return ⟨progress.environmentFile <|> outerFile, ← progress.command?⟩

end Progress

/-- What a request for help by its own command is about, which is at most one name. -/
def helpOn : List String → Stop
  | [] => .help .program
  | [name] => (Topic.ofText? name).elim .misused .help
  | _ => .misused

/-- Reads arguments from left to right, given what has been said before them. -/
def readAfter (progress : Progress) : List String → Except Stop Invocation
  | [] =>
    match progress.finish? with
    | some invocation => .ok invocation
    | none => .error .misused
  | argument :: rest =>
    if argument = "help" ∧ progress.expectsCommand then .error (helpOn rest)
    else do readAfter (← progress.take argument) rest

/-- Reads the arguments of a call. -/
def read (arguments : List String) : Except Stop Invocation :=
  readAfter .start arguments

end CommandLine

end RecordFilter
