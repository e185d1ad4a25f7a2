import Propositional.Rpn.Evaluation
/-!
# Propositional.Formula

Formulas as trees.

A formula is a variable, a negation or two formulas joined by a connective. A tree needs no
conventions about grouping, so what the library says about the meaning of a formula is said of
its tree: its value, the variables it depends on, and its two linear forms, the printed text and
the reverse Polish notation.

Design points:

* Evaluation under a partial assignment never looks at one side only: a formula has a value
  exactly when all of its variables have one.
* The printed text has parentheses around every connective, and around a negation only where it
  is negated again. Compiled, the text gives back the tree; a bare `¬¬` would not.
-/

namespace Propositional

/-- A propositional formula. -/
inductive Formula where
  | var (x : Variable)
  | not (f : Formula)
  | binary (c : Connective) (l r : Formula)
  deriving DecidableEq, Repr

namespace Formula

/-! ### Meaning -/

/-- The truth value of a formula when every variable has one. -/
def value (ρ : Variable → Bool) : Formula → Bool
  | .var x => ρ x
  | .not f => !f.value ρ
  | .binary c l r => c.apply (l.value ρ) (r.value ρ)

/-- The truth value of a formula, if all of its variables have one. -/
def eval? (ρ : Assignment) : Formula → Option Bool
  | .var x => ρ x
  | .not f => (f.eval? ρ).map (!·)
  | .binary c l r =>
    match l.eval? ρ, r.eval? ρ with
    | some a, some b => some (c.apply a b)
    | _, _ => none

/-- The truth value under a valuation of the columns of a variable set. -/
def evalUnder? (vars : VariableSet) (v : Valuation) (f : Formula) : Option Bool :=
  f.eval? (vars.assign v)

/-- The variables of a formula from left to right, as often as they occur. -/
def leaves : Formula → List Variable
  | .var x => [x]
  | .not f => f.leaves
  | .binary _ l r => l.leaves ++ r.leaves

/-- The set of the variables of a formula. -/
def support (f : Formula) : VariableSet := VariableSet.ofList f.leaves

/-! ### Linear forms -/

/-- The printed text. -/
def text : Formula → Text
  | .var x => [x.name]
  | .not (.not f) => Operator.not.symbol :: '(' :: text (.not f) ++ [')']
  | .not f => Operator.not.symbol :: text f
  | .binary c l r =>
    '(' :: text l ++ ' ' :: (Operator.binary c).symbol :: ' ' :: text r ++ [')']

/-- The reverse Polish notation: operands before operators, left before right. -/
def postorder : Formula → Rpn
  | .var x => [.var x]
  | .not f => f.postorder ++ [.op .not]
  | .binary c l r => l.postorder ++ r.postorder ++ [.op (.binary c)]

end Formula

end Propositional
