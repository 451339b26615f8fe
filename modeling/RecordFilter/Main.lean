import RecordFilter.CommandLine.Outcome

/-! The program on a real system: files, standard input and output, and environment variables. -/

namespace RecordFilter.CommandLine

/-- The host that reads files and standard input, and writes to standard output. -/
def systemHost : Host IO where
  fileText? path := do
    try return some (← IO.FS.readFile path)
    catch _ => return none
  readInput := do (← IO.getStdin).readToEnd
  write text := do
    let output ← IO.getStdout
    output.putStr text
    output.flush

/-- The variables of the system that the program looks at. -/
def systemEnvironment : IO Environment := do
  let found ← [Environment.emptyGroupsKey, Environment.patternLimitKey].filterMapM fun key => do
    return (← IO.getEnv key).map fun value => (key, value)
  return ⟨found⟩

end RecordFilter.CommandLine

/-- Runs the program and reports an error on the standard error output. -/
def main (arguments : List String) : IO UInt32 := do
  let environment ← RecordFilter.CommandLine.systemEnvironment
  let outcome ←
    RecordFilter.CommandLine.call RecordFilter.CommandLine.systemHost environment arguments
  match outcome with
  | .done => pure ()
  | .misused => IO.eprint RecordFilter.CommandLine.Topic.program.page.text
  | .failed cause => IO.eprintln cause.message
  return outcome.status.toUInt32
