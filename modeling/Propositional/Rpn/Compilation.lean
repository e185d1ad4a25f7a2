import Propositional.Error
import Propositional.Rpn
/-!
# Propositional.Rpn.Compilation

Compiling canonical text to reverse Polish notation.

The text is read once, from left to right, with one stack of operators and open parentheses that
**wait** for what follows. A variable goes to the output at once. An operator first releases to
the output the waiting operators that bind at least as tightly, up to the innermost open
parenthesis, and then waits itself. A closing parenthesis releases everything up to its partner.

Design points:

* Releasing operators of the same strength makes every connective group to the left:
  `p → q → r` is `(p → q) → r`.
* The negation is released by the same rule, although its operand follows it. A negation directly
  after a negation therefore releases the first one before the operand of either is known, and
  that one then applies to whatever operand comes before it: `p ∧ ¬¬q` compiles to `p ¬ q ¬ ∧`.
  To negate twice, write `¬(¬q)`.
* Only characters and parentheses are judged here. Whether operators find their operands is
  judged by those who read the output.
-/

namespace Propositional

/-- What waits on the stack during compilation. -/
inductive Waiting where
  /-- An operator, until its operands are complete. -/
  | op (o : Operator)
  /-- An open parenthesis, until its partner. -/
  | group
  deriving DecidableEq, Repr

/-- The state of a compilation between two characters. -/
structure Yard where
  /-- The items put out so far, the latest first. -/
  output : List RpnItem
  /-- The operators and open parentheses that wait, the latest first. -/
  waiting : List Waiting
  deriving DecidableEq, Repr

namespace Yard

/-- The state before the first character. -/
def empty : Yard := ⟨[], []⟩

/-- The state after the waiting operators down to the innermost open parenthesis that bind at
least as tightly as `strength` have been released. -/
def release (strength : Nat) (output : List RpnItem) : List Waiting → Yard
  | [] => ⟨output, []⟩
  | .group :: waiting => ⟨output, .group :: waiting⟩
  | .op o :: waiting =>
    if strength ≤ o.precedence then release strength (.op o :: output) waiting
    else ⟨output, .op o :: waiting⟩

/-- The state after everything down to the innermost open parenthesis has been released, and the
parenthesis has been dropped. Without an open parenthesis the closing one has no partner. -/
def closeGroup (output : List RpnItem) : List Waiting → Except Error Yard
  | [] => .error .unbalanced
  | .group :: waiting => .ok ⟨output, waiting⟩
  | .op o :: waiting => closeGroup (.op o :: output) waiting

/-- The output after everything has been released at the end of the text. An open parenthesis
that still waits has no partner. -/
def flush (output : List RpnItem) : List Waiting → Except Error Rpn
  | [] => .ok output.reverse
  | .group :: _ => .error .unbalanced
  | .op o :: waiting => flush (.op o :: output) waiting

/-- The state after a token. -/
def push (yard : Yard) : Token → Except Error Yard
  | .var x => .ok { yard with output := .var x :: yard.output }
  | .op o =>
    let released := release o.precedence yard.output yard.waiting
    .ok { released with waiting := .op o :: released.waiting }
  | .leftParen => .ok { yard with waiting := .group :: yard.waiting }
  | .rightParen => closeGroup yard.output yard.waiting

/-- The state after a character. Blanks are skipped. -/
def read (yard : Yard) (c : Char) : Except Error Yard :=
  if isBlank c then .ok yard
  else
    match Token.ofChar? c with
    | some t => yard.push t
    | none => .error (.strayCharacter c)

/-- The output when the text has ended. -/
def finish (yard : Yard) : Except Error Rpn := flush yard.output yard.waiting

end Yard

/-- The reverse Polish notation of a formula in canonical text. -/
def Rpn.compile (text : Text) : Except Error Rpn := do
  let yard ← text.foldlM Yard.read Yard.empty
  yard.finish

end Propositional
