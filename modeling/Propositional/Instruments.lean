import Propositional.Event
import Propositional.Rpn.Compilation
import Propositional.Rpn.Evaluation
import Propositional.Table
import Propositional.Valuation.Enumeration
/-!
# Propositional.Instruments

The stages of a tabulation, and what may accompany them.

The stages run in a fixed order, and the first that fails decides the error: the variables are
found, their number is compared with the limit, the text is compiled, and the formula is
evaluated row by row.

Design points:

* The stages are written once, over any monad `m` that carries **instruments**: what to do with
  an event, and what to check before an evaluation. An error of the formula is separate from
  whatever the instruments may do, so instruments can observe a computation or stop it, but
  cannot take part in it.
* Three sets of instruments are given. Silent ones leave functions to `Except Error`
  (`Propositional.Tabulation`). A journal lists the events (`Propositional.Journal`). Guards stop
  at a valuation whose size is not that of the variable set (`Propositional.Guarded`).
-/

namespace Propositional

/-- What accompanies the stages of a computation. -/
structure Instruments (m : Type → Type) where
  /-- What to do with an event. -/
  record : Event → m Unit
  /-- What to check before the evaluation under a valuation. -/
  check : VariableSet → Valuation → m Unit

namespace Instruments

variable {m : Type → Type} [Monad m] (tools : Instruments m)

/-! ### Stages -/

/-- Brings a text from one notation into another. -/
@[specialize] def convert (source target : Notation) (text : Text) : m Text := do
  let result := text.convert source target
  tools.record (.converted text source result target)
  return result

/-- Finds the variables of a text. -/
@[specialize] def findVariables (text : Text) : ExceptT Error m VariableSet :=
  match VariableSet.ofText text with
  | .ok vars => do
    tools.record (.variablesFound text vars)
    return vars
  | .error e => do
    tools.record (.noVariables text)
    throw e

/-- Compiles a text. -/
@[specialize] def compile (text : Text) : ExceptT Error m Rpn :=
  match Rpn.compile text with
  | .ok rpn => do
    tools.record (.compiled text rpn)
    return rpn
  | .error e => throw e

/-- Evaluates a formula under a valuation of the columns of a variable set. -/
@[specialize] def eval (vars : VariableSet) (rpn : Rpn) (v : Valuation) :
    ExceptT Error m Bool := do
  tools.check vars v
  match rpn.run (vars.assign v) with
  | .error e => throw e
  | .ok stack =>
    match Rpn.settle stack with
    | .ok b => return b
    | .error e => do
      tools.record (.unsettled rpn stack.length)
      throw e

/-- Computes the row of a valuation. -/
@[specialize] def row (vars : VariableSet) (rpn : Rpn) (v : Valuation) :
    ExceptT Error m Row := do
  let output ← tools.eval vars rpn v
  tools.record (.row v output)
  return ⟨v, output⟩

/-! ### Tables -/

/-- Tabulates a canonical text. -/
@[specialize] def tabulate (config : Config) (text : Text) : ExceptT Error m Table := do
  let vars ← tools.findVariables text
  if config.limit < vars.size then
    tools.record (.overLimit text vars.size config.limit)
    throw (.tooManyVariables vars.size config.limit)
  let rpn ← tools.compile text
  let rows ← (Enumeration.ofSize vars.size).mapM (tools.row vars rpn)
  tools.record (.tabulated rows.length text)
  return ⟨text, vars, rows⟩

/-- Tabulates a text in a given notation. The heading shows the text as it was given. -/
@[specialize] def tabulateText (config : Config) (style : Notation) (text : Text) :
    ExceptT Error m Table := do
  let canonical ← tools.convert style .symbolic text
  let table ← tools.tabulate config canonical
  return { table with formula := text }

end Instruments

end Propositional
