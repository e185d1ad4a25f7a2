import Propositional.CommandLine
/-!
# Propositional.Main

The command `truth-table`.
-/

/-- Runs the command, and prints what it answers. -/
def main (arguments : List String) : IO UInt32 := do
  let outcome := Propositional.CommandLine.run arguments
  (← IO.getStdout).putStr outcome.stdout
  (← IO.getStderr).putStr outcome.stderr
  return outcome.exitCode
