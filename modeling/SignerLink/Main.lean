import SignerLink.Cli.Run
/-!
The command line program.
-/

namespace SignerLink

def knownVariables : List String :=
  ["HOME", "HWLINK_AUTO_CONNECT", "HWLINK_AUTO_CONNECT__ENABLED",
    "HWLINK_AUTO_CONNECT__MAX_RETRIES", "HWLINK_AUTO_CONNECT__MAX_RETRY_DELAY_MS",
    "HWLINK_AUTO_CONNECT__RETRY_DELAY_MS", "HWLINK_CONFIG", "HWLINK_LOGGING",
    "HWLINK_LOGGING__JSON", "HWLINK_LOGGING__LEVEL", "HWLINK_OUTPUT", "XDG_CONFIG_HOME"]

def readEnvironment : IO Environment :=
  knownVariables.filterMapM fun name => do
    return (← IO.getEnv name).map fun text => (name, text)

def readText? (path : String) : IO (Option String) := do
  try return some (← IO.FS.readFile path)
  catch _ => return none

def readInput : IO (Option String) := do
  try return some (← (← IO.getStdin).readToEnd)
  catch _ => return none

end SignerLink

open SignerLink in
def main (arguments : List String) : IO UInt32 := do
  let environment ← readEnvironment
  let path :=
    match Cli.Invocation.ofArguments environment arguments with
    | .ok invocation => invocation.settingsFile environment
    | .error _ => environment.settingsPath
  let text ← readText? path
  let input ← if arguments.contains "-" then readInput else pure (some "")
  let surroundings : Cli.Surroundings :=
    { environment := environment, file := fun other => if other = path then text else none,
      input := input }
  match Cli.run surroundings arguments with
  | .ok output =>
      IO.print output
      return 0
  | .error failure =>
      IO.eprintln (failure.message?.getD "failed")
      return failure.exitCode.toUInt32
