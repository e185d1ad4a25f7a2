import Propositional.Valuation
/-!
# Propositional.Table

Truth tables.

A truth table belongs to a formula, lists its variables as columns, and has one row for each
valuation of them, in the order of their row numbers. So a row is found by computing its number
and not by a search (`Table.lookup`), and the inputs in a row need no names.
-/

namespace Propositional

/-- The largest limit on the number of variables that can be configured. -/
def maxLimit : Nat := 26

/-- How many variables a formula may have. -/
structure Config where
  /-- The largest number of variables that is accepted. -/
  limit : Nat := 12
  /-- No configuration asks for more than `maxLimit`. -/
  limit_le : limit ≤ maxLimit := by decide
  deriving DecidableEq, Repr

/-- The configuration with a given limit, which is lowered to `maxLimit` if it is larger. -/
def Config.ofLimit (limit : Nat) : Config := ⟨min limit maxLimit, Nat.min_le_right ..⟩

/-- A row of a truth table. -/
structure Row where
  inputs : Valuation
  output : Bool
  deriving DecidableEq, Repr

/-- A truth table. -/
structure Table where
  /-- The text of the formula, as the table's heading shows it. -/
  formula : Text
  /-- The variables, which are the columns. -/
  vars : VariableSet
  /-- The rows, in the order of their numbers. -/
  rows : List Row
  deriving DecidableEq, Repr

namespace Table

/-- The values of the formula, row by row. -/
def outputs (t : Table) : List Bool := t.rows.map (·.output)

/-- The value of the formula under a valuation of the table's columns: the output in the row that
has the valuation's number. -/
def lookup (t : Table) (v : Valuation) : Option Bool :=
  if v.width = t.vars.width then (t.rows[v.number.toNat]?).map (·.output) else none

end Table

end Propositional
