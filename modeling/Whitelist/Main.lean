import Whitelist.CommandLine.Program

/-!
# The executable

Reads the command line, the environment and the files that the command line needs, runs the program
and prints what it leaves behind. No server can be reached from here.
-/

set_option autoImplicit false
namespace Whitelist

/-- The variables that the program looks at. -/
def variableNames : List String :=
  CommandLine.settingSwitches.filterMap (·.variableName)
    ++ Settings.names.map Environment.variableOf

/-- The variables of the environment that are set. -/
def readEnvironment : IO Environment := do
  let mut found : Environment := []
  for name in variableNames do
    if let some value ← IO.getEnv name then found := found ++ [(name, value)]
  return found

/-- The number of an error of the system, where it may come from reading a file. -/
def errorNumber? : IO.Error → Option UInt32
  | .noFileOrDirectory _ code _ | .inappropriateType _ code _ | .invalidArgument _ code _ =>
    some code
  | _ => none

/-- What comes of reading a file. Whatever else goes wrong counts as a missing file. -/
def readFile (path : String) : IO (Except FileError String) := do
  try
    return .ok (← IO.FS.readFile path)
  catch e =>
    let cause := FileError.all.find? fun cause => some (.ofNat cause.number) = errorNumber? e
    return .error (cause.getD .missing)

/-- What comes of reading the files at these paths. -/
def readFiles (paths : List String) : IO Files := do
  let mut found : List (String × Except FileError String) := []
  for path in paths do
    found := found ++ [(path, ← readFile path)]
  let answers := found
  return fun path => (answers.lookup path).getD (.error .missing)

end Whitelist

open Whitelist in
/-- The program as a process. -/
def main (words : List String) : IO UInt32 := do
  let environment ← readEnvironment
  let files ← readFiles (CommandLine.filesNamed environment words)
  let (exit, ()) := CommandLine.program .unreachable () environment files words
  IO.print exit.output
  IO.eprint exit.errors
  return exit.status
