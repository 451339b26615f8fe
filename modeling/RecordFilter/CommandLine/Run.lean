import RecordFilter.CommandLine.Basic
import RecordFilter.Environment
import RecordFilter.Filter.Json
import RecordFilter.Filter.Outline
import RecordFilter.Schema.Json
import RecordFilter.Stream

/-! Running commands; files, input and output are reached through a host. -/

namespace RecordFilter

/-- What a command needs from the system that it runs on. -/
structure Host (m : Type → Type) where
  fileText? : String → m (Option String)
  readInput : m String
  write : String → m Unit

/-- Why a command fails. -/
inductive CommandError
  | unreadable (path : String)
  | notJson (path : String)
  | stream (cause : StreamError)
  | compile (cause : CompileError)
  | configuration (cause : ConfigurationError)
  deriving Repr

/-- The wording of a command error. -/
def CommandError.message (error : CommandError) (reasons : Reasons := .untold) : String :=
  match error with
  | .unreadable path => "I/O error: " ++ reasons.file path
  | .notJson path => "Failed to read '" ++ path ++ "' as JSON: " ++ reasons.document path
  | .stream cause => cause.message reasons
  | .compile cause => "Failed to compile the filter: " ++ cause.message reasons
  | .configuration cause => "Configuration error: " ++ cause.message reasons

namespace Host

variable {m : Type → Type} [Monad m]

/-- A result as part of a command, with its error as the command's own. -/
def settle (cause : ε → CommandError) (result : Except ε α) : ExceptT CommandError m α :=
  ExceptT.mk (pure (result.mapError cause))

/-- The text of a file. -/
def text (host : Host m) (path : String) : ExceptT CommandError m String := do
  match ← host.fileText? path with
  | some text => return text
  | none => throw (.unreadable path)

/-- What the text of a file stands for. -/
def document (host : Host m) (read? : String → Option α) (path : String) :
    ExceptT CommandError m α := do
  match read? (← host.text path) with
  | some content => return content
  | none => throw (.notJson path)

/-- The environment with the variables of a file, if one is named. -/
def environment (host : Host m) (base : Environment) (file : Option String) :
    ExceptT CommandError m Environment := do
  match file with
  | none => return base
  | some path =>
    match ← host.fileText? path with
    | none => throw (.configuration (.unreadableFile path))
    | some text =>
      let (environment, outcome) := base.load text
      settle .configuration outcome
      return environment

/-- The schema and the predicate of two files. -/
def predicate (host : Host m) (environment : Environment) (filter schema : String) :
    ExceptT CommandError m (Schema × Predicate) := do
  -- The settings are looked at before any file is.
  let settings ← settle .configuration environment.settings
  let filter ← host.document Filter.read? filter
  let schema ← host.document Schema.read? schema
  let predicate ← settle .compile (filter.compile settings schema)
  return (schema, predicate)

/-- The text of the records: of a file, or of the input if none or a hyphen is named. -/
def records (host : Host m) (path : Option String) : ExceptT CommandError m String := do
  match path with
  | none => host.readInput
  | some "-" => host.readInput
  | some path => host.text path

/-- Filters records and writes what comes of it, also where a record fails. -/
def filterRecords (host : Host m) (environment : Environment) (filter schema : String)
    (records : Option String) (countOnly : Bool) : ExceptT CommandError m Summary := do
  let (schema, predicate) ← host.predicate environment filter schema
  let text ← host.records records
  let filtered := predicate.filterText schema countOnly text
  host.write filtered.written
  settle .stream filtered.outcome

/-- Runs a command under an environment. -/
def execute (host : Host m) (environment : Environment) : Command → ExceptT CommandError m Unit
  | .check filter schema => do
    let _ ← host.predicate environment filter schema
  | .run filter schema records countOnly => do
    let _ ← host.filterRecords environment filter schema records countOnly
  | .print filter => do
    let filter ← host.document Filter.read? filter
    host.write (filter.outline 0)

/-- Runs an invocation: its environment file is loaded before anything else. -/
def invoke (host : Host m) (base : Environment) (invocation : Invocation) :
    ExceptT CommandError m Unit := do
  let environment ← host.environment base invocation.environmentFile
  host.execute environment invocation.command

end Host

end RecordFilter
