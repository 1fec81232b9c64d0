import SelectCypher.CommandLine.Run

/-!
# The command

Reads the environment, a configuration file and the standard input when a run
asks for them, and writes its outcome.
-/

open SelectCypher

/-- The surroundings of a process. -/
def processSurroundings : CommandLine.Surroundings IO where
  environment name := IO.getEnv name
  file path := do
    try
      return some (← IO.FS.readFile path)
    catch _ =>
      return none
  input := do
    let input ← IO.getStdin
    let bytes ← input.readBinToEnd
    return String.fromUTF8? bytes

/-- Run the arguments of a process and write the outcome. -/
def main (arguments : List String) : IO UInt32 := do
  let outcome ← CommandLine.run processSurroundings arguments
  match outcome with
  | .success output =>
      IO.print output
  | .failure cause =>
      IO.eprintln ("Error: " ++ cause.message)
  | .usage error =>
      IO.eprintln ("error: " ++ error.message)
  return outcome.exitCode.toUInt32
