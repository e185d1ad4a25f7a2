import Propositional.Text.Spacing
import Propositional.Text.Spelling
/-!
# Propositional.Notation

The two notations of a formula, and conversion between them.

The **symbolic** notation writes operators as `¬ ∧ ∨ → ↔`; it is the notation that formulas are
compiled from. The **word** notation writes them as words or in ASCII. Every conversion goes
through the canonical symbolic text, so there are two readings and two ways to write, and not four
conversions. A conversion always succeeds: a character that belongs to no formula is copied, and
compilation reports it.
-/

namespace Propositional

/-- How the operators of a formula are written. -/
inductive Notation where
  /-- With the symbols `¬ ∧ ∨ → ↔`. -/
  | symbolic
  /-- With the words `NOT AND OR IMPLIES IFF`, or in ASCII. -/
  | word
  deriving DecidableEq, Repr

def Notation.name : Notation → String
  | .symbolic => "symbolic"
  | .word => "word"

def Notation.ofName? (name : Text) : Option Notation :=
  [symbolic, word].find? (·.name.toList == name)

/-- The canonical symbolic text of a text in the given notation. -/
def Text.canonical (style : Notation) (text : Text) : Text :=
  match style with
  | .symbolic => text.tidy
  | .word => text.withSymbols.tidy

/-- A canonical symbolic text, written in the given notation. -/
def Text.writtenIn (style : Notation) (canonical : Text) : Text :=
  match style with
  | .symbolic => canonical
  | .word => canonical.withWords.tidy

/-- The text, which is in the notation `source`, in the notation `target`. -/
def Text.convert (source target : Notation) (text : Text) : Text :=
  (text.canonical source).writtenIn target

@[simp] theorem Text.convert_symbolic (source : Notation) (text : Text) :
    text.convert source .symbolic = text.canonical source := rfl

end Propositional
