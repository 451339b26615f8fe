import RecordFilter.CommandLine.Help
import RecordFilter.CommandLine.Run

/-! A whole call of the program: what it writes, and the status that it ends with. -/

namespace RecordFilter

/-- How a call ends: with nothing more to say, after a mistake in its arguments, or in an error. -/
inductive Outcome
  | done
  | misused
  | failed (cause : CommandError)
  deriving Repr

namespace Outcome

/-- The status that a call leaves to the system. -/
def status : Outcome → UInt8
  | .done => 0
  | .failed _ => 1
  | .misused => 2

end Outcome

namespace CommandLine

/-- The name and the version of the program. -/
def versionText : String :=
  "sieve 0.1.0\n"

/-- Runs the program with arguments, in an environment. -/
def call {m : Type → Type} [Monad m] (host : Host m) (environment : Environment)
    (arguments : List String) : m Outcome := do
  match read arguments with
  | .ok invocation =>
    match ← host.invoke environment invocation with
    | .ok () => return .done
    | .error cause => return .failed cause
  | .error .version =>
    host.write versionText
    return .done
  | .error (.help topic) =>
    host.write topic.page.text
    return .done
  | .error .misused => return .misused

end CommandLine

end RecordFilter
