import Propositional.Instruments
/-!
# Propositional.Guarded

Evaluation and tabulation that check the sizes of valuations.

Without guards a valuation may be longer or shorter than the variable set. With guards it may not:
the widths of the two are compared before any item is looked at, and a difference stops the
computation as a misuse, whatever else the formula might have been refused for.
-/

namespace Propositional

/-- Computations that a misuse stops. -/
abbrev Guarded := Except Misuse

namespace Guarded

/-- Requires a valuation to be as wide as the variable set. -/
def checkSize (vars : VariableSet) (v : Valuation) : Guarded Unit :=
  if vars.width = v.width then .ok ()
  else .error (.sizeMismatch vars.width.toNat v.width.toNat)

/-- The instruments that check the size of each valuation. -/
def instruments : Instruments Guarded where
  record _ := pure ()
  check := checkSize

/-- The value of a formula under a valuation of the right size. -/
def eval (vars : VariableSet) (rpn : Rpn) (v : Valuation) : Guarded (Except Error Bool) :=
  (instruments.eval vars rpn v).run

def tabulate (config : Config) (text : Text) : Guarded (Except Error Table) :=
  (instruments.tabulate config text).run

/-- The table of a text in a given notation. -/
def tabulateText (config : Config) (style : Notation) (text : Text) :
    Guarded (Except Error Table) :=
  (instruments.tabulateText config style text).run

end Guarded

end Propositional
