import Propositional.Error
import Propositional.Rpn
import Propositional.Valuation
/-!
# Propositional.Rpn.Evaluation

The value of a formula in reverse Polish notation.

A stack of truth values is kept, the latest first. A variable pushes its value, and an operator
replaces its operands by its result. The first item that cannot be carried out decides the error:
a variable without a value, or an operator that lacks operands. At the end exactly one value has
to be left.
-/

namespace Propositional

namespace Rpn

/-- The stack after an item. -/
def step (ρ : Assignment) (stack : List Bool) : RpnItem → Except Error (List Bool)
  | .var x =>
    match ρ x with
    | some b => .ok (b :: stack)
    | none => .error (.unassigned x.name)
  | .op .not =>
    match stack with
    | b :: rest => .ok ((!b) :: rest)
    | _ => .error .malformed
  | .op (.binary c) =>
    match stack with
    | r :: l :: rest => .ok (c.apply l r :: rest)
    | _ => .error .malformed

/-- The stack after all items. -/
def run (ρ : Assignment) (rpn : Rpn) : Except Error (List Bool) := rpn.foldlM (step ρ) []

/-- The value that a stack stands for: the only one on it. -/
def settle : List Bool → Except Error Bool
  | [b] => .ok b
  | _ => .error .malformed

/-- The value of a formula in reverse Polish notation. -/
def eval (ρ : Assignment) (rpn : Rpn) : Except Error Bool := do
  let stack ← run ρ rpn
  settle stack

/-- The value under a valuation of the columns of a variable set. -/
def evalUnder (vars : VariableSet) (v : Valuation) (rpn : Rpn) : Except Error Bool :=
  eval (vars.assign v) rpn

end Rpn

end Propositional
