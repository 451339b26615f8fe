import RecordFilter.Fields
import RecordFilter.Numeral.Integer
import RecordFilter.Reasons
import RecordFilter.Settings.Basic
import RecordFilter.Text.Lines
import RecordFilter.Text.Search

/-! Environment variables, files that set them, and the settings that they make. -/

namespace RecordFilter

/-- Environment variables by their exact names. -/
structure Environment where
  bindings : List (String × String)
  deriving DecidableEq, Repr

/-- What is wrong with an environment file or with the settings in the environment. -/
inductive ConfigurationError
  | unreadableFile (path : String)
  | malformedLine (number : Nat)
  | emptyKey (number : Nat)
  | emptyGroups (cause : UnknownPolicy)
  | patternLimit (raw : String) (cause : Numeral.IntegerError)
  deriving DecidableEq, Repr

namespace Environment

/-- The variable that tells what becomes of empty groups. -/
def emptyGroupsKey : String :=
  "SIEVE_EMPTY_GROUPS"

/-- The variable that limits the size of patterns. -/
def patternLimitKey : String :=
  "SIEVE_REGEX_SIZE_LIMIT"

end Environment

/-- The wording of a configuration error. -/
def ConfigurationError.message (error : ConfigurationError) (reasons : Reasons := .untold) :
    String :=
  match error with
  | .unreadableFile path => "Failed to read env file " ++ path ++ ": " ++ reasons.file path
  | .malformedLine number =>
    "Invalid env file: malformed line " ++ toString number ++ " (expected KEY=VALUE)"
  | .emptyKey number => "Invalid env file: empty key at line " ++ toString number
  | .emptyGroups cause => Environment.emptyGroupsKey ++ ": " ++ cause.message
  | .patternLimit raw cause =>
    Environment.patternLimitKey ++ ": '" ++ raw ++ "' is not a byte count: " ++ cause.message

namespace Environment

/-- The value of a variable. -/
def get? (environment : Environment) (key : String) : Option String :=
  Fields.getExact? key environment.bindings

/-- Sets a variable. -/
def set (environment : Environment) (key value : String) : Environment :=
  ⟨Fields.set key value environment.bindings⟩

/-- The characters between two equal quotes of a kind, if the text begins and ends with them. -/
def betweenQuotes? (quote : Char) : List Char → Option (List Char)
  -- A single quote character cannot be both.
  | first :: rest =>
    if first = quote ∧ rest.getLast? = some quote then some rest.dropLast else none
  | [] => none

/-- The value of a line: without blanks at its ends, and then without one pair of quotes. -/
def unquoted (chars : List Char) : List Char :=
  let trimmed := Text.trimChars chars
  ((betweenQuotes? '"' trimmed) <|> (betweenQuotes? '\'' trimmed)).getD trimmed

/-- What a line of an environment file says: nothing, or the value of a key. -/
def readLine (number : Nat) (line : String) :
    Except ConfigurationError (Option (String × String)) :=
  -- Blank lines and comments say nothing.
  let chars := Text.trimChars line.toList
  if chars.isEmpty ∨ chars.head? = some '#' then .ok none
  else match Text.cut? ['='] chars with
    | none => .error (.malformedLine number)
    | some (before, after) =>
      let key := Text.trimChars before
      if key.isEmpty then .error (.emptyKey number)
      else .ok (some (String.ofList key, String.ofList (unquoted after)))

/-- Sets the variables of lines from a line number on, up to the first line that is wrong. -/
def loadLines (environment : Environment) :
    Nat → List String → Environment × Except ConfigurationError Unit
  | _, [] => (environment, .ok ())
  | number, line :: rest =>
    match readLine number line with
    | .error cause => (environment, .error cause)
    | .ok none => environment.loadLines (number + 1) rest
    | .ok (some (key, value)) => (environment.set key value).loadLines (number + 1) rest

/-- Sets the variables of the text of an environment file; those before a wrong line stay set. -/
def load (environment : Environment) (text : String) :
    Environment × Except ConfigurationError Unit :=
  environment.loadLines 1 (Text.lines text)

/-- The treatment of empty groups in an environment. -/
def emptyGroups (environment : Environment) : Except ConfigurationError EmptyGroups :=
  match environment.get? emptyGroupsKey with
  | none => .ok Settings.standard.emptyGroups
  | some raw => (EmptyGroups.read raw).mapError .emptyGroups

/-- The limit for patterns in an environment; zero stands for the standard one. -/
def patternLimit (environment : Environment) : Except ConfigurationError UInt64 :=
  match environment.get? patternLimitKey with
  | none => .ok Settings.standard.patternLimit
  | some raw =>
    match Numeral.readUInt64 (Text.trim raw) with
    | .error cause => .error (.patternLimit raw cause)
    | .ok limit => .ok (if limit = 0 then Settings.standard.patternLimit else limit)

/-- The settings in an environment. -/
def settings (environment : Environment) : Except ConfigurationError Settings := do
  return ⟨← environment.emptyGroups, ← environment.patternLimit⟩

end Environment

end RecordFilter
