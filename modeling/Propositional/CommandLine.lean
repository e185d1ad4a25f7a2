import Propositional.CommandLine.Arguments
import Propositional.Tabulation
/-!
# Propositional.CommandLine

What the command does.

The command tabulates a formula, or converts it to a notation. It answers with the text for
standard output, the text for standard error and the exit code: 0 for success, 1 for a formula
that has an error, 2 for arguments that are refused.
-/

namespace Propositional.CommandLine

/-- The text that an invocation produces. Conversion never fails. -/
def Invocation.output (i : Invocation) : Except Error Text :=
  match i.target? with
  | some target => .ok (i.formula.convert i.style target ++ ['\n'])
  | none => (Table.tabulateText i.config i.style i.formula).map (Table.render i.format)

/-- How the command ends. -/
structure Outcome where
  exitCode : UInt32
  stdout : String
  stderr : String
  deriving DecidableEq, Repr

/-- The name and the version of the program. -/
def version : String := "algoviz-lib-logic 0.1.0"

/-- The reminder for arguments that are refused. -/
def usage : String :=
  "Usage: truth-table [-n symbolic|word] [-f grid|tsv|csv] [-m LIMIT] [-c symbolic|word] FORMULA"

/-- How the command ends for given arguments. -/
def run (arguments : List String) : Outcome :=
  match request? (arguments.map (·.toList)) with
  | none => ⟨2, "", usage ++ "\n"⟩
  | some .version => ⟨0, version ++ "\n", ""⟩
  | some (.invoke i) =>
    match i.output with
    | .ok text => ⟨0, String.ofList text, ""⟩
    | .error e => ⟨1, "", "Error: " ++ e.message ++ "\n"⟩

end Propositional.CommandLine
