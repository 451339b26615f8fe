import RecordFilter.CommandLine.Basic

/-! The pages of help. -/

namespace RecordFilter.CommandLine

/-- What something is called on a page of help, and what it is for. -/
structure Explained where
  label : String
  purpose : String
  deriving DecidableEq, Repr

/-- A page of help: what it is about, how that is called, and what there is to choose from. -/
structure Page where
  purpose : String
  usage : String
  sections : List (String × List Explained)
  deriving DecidableEq, Repr

namespace Page

/-- The lines of a section, in which all purposes begin in the same column. -/
def sectionLines (heading : String) (explained : List Explained) : List String :=
  let width := (explained.map fun item => item.label.length).foldl max 0
  (heading ++ ":") :: explained.map fun item =>
    "  " ++ item.label ++ String.ofList (List.replicate (width - item.label.length) ' ') ++ "  " ++
      item.purpose

/-- The text of a page; an empty line stands before every section. -/
def text (page : Page) : String :=
  let sections := page.sections.flatMap fun (heading, explained) =>
    "" :: sectionLines heading explained
  String.join
    (([page.purpose, "", "Usage: " ++ page.usage] ++ sections).map fun line => line ++ "\n")

end Page

/-- The name of a command. -/
def CommandName.text : CommandName → String
  | .check => "check"
  | .run => "run"
  | .print => "print"

/-- A command reads back from its name. -/
theorem CommandName.ofText?_text (name : CommandName) : ofText? name.text = some name := by
  -- There are only three of them.
  cases name <;> rfl

/-- What a command is for. -/
def CommandName.purpose : CommandName → String
  | .check => "Compile a filter against a schema without evaluating it"
  | .run => "Filter JSON-lines records, printing the ones that match"
  | .print => "Print a filter tree in its indented text form"

/-- What the request for help is for. -/
def helpPurpose : String :=
  "Print this message or the help of the given subcommand(s)"

/-- The option that names an environment file. -/
def explainedFile : Explained :=
  ⟨"    --env-file <ENV_FILE>",
    "Load SIEVE_* settings from this .env file in addition to the environment"⟩

/-- The option that asks for help. -/
def explainedHelp : Explained :=
  ⟨"-h, --help", "Print help"⟩

/-- The options of a command alone. -/
def CommandName.options : CommandName → List Explained
  | .check => [filter, schema]
  | .run =>
    [filter, schema,
      ⟨"    --records <RECORDS>",
        "JSON-lines file with one record per line; reads stdin when omitted or '-'"⟩,
      ⟨"    --count", "Print only the number of matching records"⟩]
  | .print => [filter]
where
  filter : Explained := ⟨"    --filter <FILTER>", "Filter tree file (JSON)"⟩
  schema : Explained := ⟨"    --schema <SCHEMA>", "Record schema file (JSON)"⟩

/-- How the options that a command needs are given. -/
def CommandName.usage : CommandName → String
  | .print => "--filter <FILTER>"
  | _ => "--filter <FILTER> --schema <SCHEMA>"

/-- The page on a topic. -/
def Topic.page : Topic → Page
  | .program =>
    { purpose := "Compile and apply record filters"
      usage := "sieve [OPTIONS] <COMMAND>"
      sections :=
        [("Commands",
            ([.check, .run, .print].map fun name => ⟨CommandName.text name, name.purpose⟩) ++
              [⟨"help", helpPurpose⟩]),
          ("Options", [explainedFile, explainedHelp, ⟨"-V, --version", "Print version"⟩])] }
  | .command name =>
    { purpose := name.purpose
      usage := "sieve " ++ name.text ++ " [OPTIONS] " ++ name.usage
      sections := [("Options", explainedFile :: name.options ++ [explainedHelp])] }
  | .help =>
    { purpose := helpPurpose
      usage := "sieve help [COMMAND]..."
      sections := [("Arguments", [⟨"[COMMAND]...", "Print help for the subcommand(s)"⟩])] }

end RecordFilter.CommandLine
