import Garage.Program

/-!
The programs on a real command line. They run in an empty folder that is gone afterwards: what they write
and their exit code are real.
-/

namespace Garage.Main

/-- The variables that the programs look at. -/
def consulted : List String :=
  (Options.serverCommand.switches ++ Options.registerCommand.switches).map (·.envName)

/-- The environment, as far as the programs look at it. -/
def environment : IO Options.Environment :=
  consulted.eraseDups.filterMapM fun name => do
    return (← IO.getEnv name).map fun value => (name, value)

end Garage.Main

/-- Runs `register_vehicle` if that is the first argument, and the server otherwise. -/
def main (arguments : List String) : IO UInt32 := do
  let env ← Garage.Main.environment
  let files := Garage.Location.FileTree.ofDirectories ["home"] []
  let exit := match arguments with
    | "register_vehicle" :: rest => (Garage.Program.register rest env files).1
    | _ => (Garage.Program.serve arguments env files).1
  (← IO.getStdout).putStr exit.output
  (← IO.getStderr).putStr exit.errors
  return exit.code.toUInt32
