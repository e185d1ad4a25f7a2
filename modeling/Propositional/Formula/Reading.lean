import Propositional.Formula
import Propositional.Rpn.Compilation
/-!
# Propositional.Formula.Reading

Formulas from reverse Polish notation and from text.

A sequence in reverse Polish notation is read with a stack of formulas, the latest first: a
variable is pushed, and an operator replaces its operands by the formula that it makes of them. A
sequence that leaves anything but one formula, or in which an operator lacks operands, is no
formula. Text is compiled first.
-/

namespace Propositional.Formula

/-- The stack after an item, unless it lacks operands. -/
def step? (stack : List Formula) : RpnItem → Option (List Formula)
  | .var x => some (.var x :: stack)
  | .op .not =>
    match stack with
    | f :: rest => some (.not f :: rest)
    | _ => none
  | .op (.binary c) =>
    match stack with
    | r :: l :: rest => some (.binary c l r :: rest)
    | _ => none

/-- The formula of a sequence in reverse Polish notation. -/
def ofRpn (rpn : Rpn) : Except Error Formula :=
  match rpn.foldlM step? [] with
  | some [f] => .ok f
  | _ => .error .malformed

/-- The formula of a canonical text. -/
def parse (text : Text) : Except Error Formula := do
  let rpn ← Rpn.compile text
  ofRpn rpn

end Propositional.Formula
