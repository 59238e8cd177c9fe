/-
This file is the program itself: it hands the arguments, the environment and the file of the
executable to an invocation in a fresh world, writes what the invocation reports, and exits with its
status.
-/

import ShellSmoke.Invocation
import ShellSmoke.Log.Plain
import ShellSmoke.Machine.Run
import ShellSmoke.Tools

namespace ShellSmoke.Main

/-- The name by which the program is called. -/
def calledName : String := "micro-checker"

/-- The variables that matter to the program. -/
def variableNames : List String :=
  ["MICRO_CHECK_TIMEOUT_MS", "MICRO_CHECK_LOG", "RUST_LOG", "NO_COLOR", "COLOR", "CLICOLOR_FORCE"]

/-- The time at which a world begins, as the log shows it. -/
def stamp : String := "1970-01-01T00:00:00.000000Z"

/-- The variables that matter, as the program was started with them. -/
def readEnvironment : IO Environment := do
  let found ← variableNames.filterMapM fun name => do
    return (← IO.getEnv name).map fun value => (name, Bytes.ofString value)
  return ⟨found⟩

/-- The name of a file of the working directory that a path leads to. -/
def placedName (path : Bytes) : Bytes :=
  if path.take 2 = Bytes.ofString "./" then path.drop 2 else path

/-- The file of the executable, if it can be read. -/
def readExecutable (words : List Bytes) : IO (List Machine.PlacedFile) := do
  match CommandLine.read words with
  | .error _ => return []
  | .ok options =>
    try
      let content ← IO.FS.readBinFile (Text.decode options.executable)
      return [⟨placedName options.executable, content.toList, true⟩]
    catch _ => return []

/-- Runs the program; the value is its exit status. -/
def run (arguments : List String) : IO UInt32 := do
  let words := arguments.map Bytes.ofString
  let world := Machine.World.fresh tools (← readExecutable words)
  let (report, _) := Invocation.run .plain Machine.World.run (Bytes.ofString calledName) words
    (← readEnvironment) stamp {} world
  let output ← IO.getStdout
  output.write ⟨report.output.toArray⟩
  output.flush
  let errors ← IO.getStderr
  errors.write ⟨report.errors.toArray⟩
  errors.flush
  return report.seenStatus.toUInt32

end ShellSmoke.Main

/-- The program. -/
def main (arguments : List String) : IO UInt32 := ShellSmoke.Main.run arguments
