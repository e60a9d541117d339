import Perfmon.Command
/-!
# The program

Reads the arguments, the environment and the files, hands them to the command, and prints what comes
back.
-/

namespace Perfmon

/-- The environment variables that the program looks at. -/
def environmentNames : List String :=
  ["REGSCOPE_CONFIG", "REGSCOPE_WINDOW_BYTES", "REGSCOPE_MAX_REG_OPS", "REGSCOPE_MAX_ARG_SIZE"]

/-- Those of the variables that are set. -/
def readEnvironment : IO Environment :=
  environmentNames.filterMapM fun name => do
    let value ← IO.getEnv name
    return value.map fun text => (name, text)

/-- Those of the files that can be read. -/
def readFiles (paths : List String) : IO Files :=
  paths.filterMapM fun (path : String) => do
    try
      return some (path, ← IO.FS.readFile path)
    catch _ =>
      return none

/-- Prints what a command has come to. -/
def printResult (r : CommandResult) : IO Unit := do
  for line in r.lines do
    if line.isFailure then IO.eprintln line.text else IO.println line.text
  for text in Cause.explain (r.failure.getD []) do
    IO.eprintln text

/-- Does what the arguments ask for. -/
def runInvocation (env : Environment) : Invocation → IO UInt32
  | .refused => do
    Invocation.usage.forM fun line => IO.eprintln line
    return 2
  | .help => do
    Invocation.usage.forM fun line => IO.println line
    return 0
  | .version => do
    IO.println Invocation.versionText
    return 0
  | .command c => do
    let result := c.execute env (← readFiles c.paths)
    printResult result
    return result.exitCode

end Perfmon

/-- The program. -/
def main (args : List String) : IO UInt32 := do
  let env ← Perfmon.readEnvironment
  Perfmon.runInvocation env (.ofArgs env args)
