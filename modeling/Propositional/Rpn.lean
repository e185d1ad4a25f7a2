import Propositional.Token
/-!
# Propositional.Rpn

Formulas in reverse Polish notation.

A formula in **reverse Polish notation** is a sequence of variables and operators in which an
operator follows its operands. Parentheses do not occur and cannot be written down: an item is a
variable or an operator, and nothing else. The type does not say that every operator finds its
operands; that is what reading a sequence decides, as a value (`Rpn.eval`) or as a formula
(`Formula.ofRpn`).
-/

namespace Propositional

/-- An item of a sequence in reverse Polish notation. -/
inductive RpnItem where
  /-- A variable, which is an operand. -/
  | var (x : Variable)
  /-- An operator, which applies to the operands before it. -/
  | op (o : Operator)
  deriving DecidableEq, Repr

/-- A formula in reverse Polish notation. -/
abbrev Rpn := List RpnItem

/-- The token of an item. -/
def RpnItem.token : RpnItem → Token
  | .var x => .var x
  | .op o => .op o

namespace Rpn

/-- The items' characters, separated by spaces. -/
def text (rpn : Rpn) : Text := (rpn.map fun item => item.token.char).intersperse ' '

end Rpn

end Propositional
