import Propositional.Text
/-!
# Propositional.Connective

The connectives of propositional logic and how they are spelled.

A **connective** joins two formulas; an **operator** is a connective or the negation. Each
operator has three spellings:

* its **symbol**, the single character of the canonical notation;
* its **word**, in capitals, of the word notation (read in any letter case);
* its **ASCII form**, made of punctuation, which the word notation accepts too.

The binding strengths order the operators from `↔`, the loosest, to `¬`, the tightest.
-/

namespace Propositional

/-- A connective of two formulas. -/
inductive Connective where
  | and
  | or
  /-- Material implication. -/
  | implies
  | iff
  deriving DecidableEq, Repr

/-- The truth function of a connective. -/
def Connective.apply : Connective → Bool → Bool → Bool
  | .and, l, r => l && r
  | .or, l, r => l || r
  | .implies, l, r => !l || r
  | .iff, l, r => l == r

/-- Negation or a connective. -/
inductive Operator where
  /-- Negation, the only operator of one operand. -/
  | not
  /-- A connective, which takes two operands. -/
  | binary (c : Connective)
  deriving DecidableEq, Repr

namespace Operator

/-- Every operator, from the tightest to the loosest. -/
def all : List Operator :=
  [.not, .binary .and, .binary .or, .binary .implies, .binary .iff]

@[simp] theorem mem_all (o : Operator) : o ∈ all := by
  cases o with
  | not => decide
  | binary c => cases c <;> decide

/-- How tightly an operator binds: a larger number binds tighter. -/
def precedence : Operator → Nat
  | .not => 4
  | .binary .and => 3
  | .binary .or => 2
  | .binary .implies => 1
  | .binary .iff => 0

/-! ### Spellings -/

/-- The character of the canonical notation. -/
def symbol : Operator → Char
  | .not => '¬'
  | .binary .and => '∧'
  | .binary .or => '∨'
  | .binary .implies => '→'
  | .binary .iff => '↔'

/-- The word of the word notation, in capitals. -/
def word : Operator → Text
  | .not => ['N', 'O', 'T']
  | .binary .and => ['A', 'N', 'D']
  | .binary .or => ['O', 'R']
  | .binary .implies => ['I', 'M', 'P', 'L', 'I', 'E', 'S']
  | .binary .iff => ['I', 'F', 'F']

/-- The ASCII punctuation that the word notation accepts in place of the word. -/
def ascii : Operator → Text
  | .not => ['!']
  | .binary .and => ['&', '&']
  | .binary .or => ['|', '|']
  | .binary .implies => ['=', '>']
  | .binary .iff => ['<', '=', '>']

/-- The three spellings of each operator. -/
theorem spellings :
    all.map (fun o => (o.symbol, o.word, o.ascii)) = [
      ('¬', ['N', 'O', 'T'], ['!']),
      ('∧', ['A', 'N', 'D'], ['&', '&']),
      ('∨', ['O', 'R'], ['|', '|']),
      ('→', ['I', 'M', 'P', 'L', 'I', 'E', 'S'], ['=', '>']),
      ('↔', ['I', 'F', 'F'], ['<', '=', '>'])] := rfl

theorem ascii_length_pos (o : Operator) : 0 < o.ascii.length := by
  cases o with
  | not => decide
  | binary c => cases c <;> decide

/-! ### Reading a spelling -/

/-- The operator of a symbol. -/
def ofSymbol? (c : Char) : Option Operator := all.find? (·.symbol == c)

/-- The operator that a word spells, in any mix of ASCII letter cases. -/
def ofWord? (w : Text) : Option Operator := all.find? (·.word == w.map Char.toUpper)

/-- The operator whose ASCII form begins a text. The five forms begin with different characters,
so there is at most one. -/
def ofAscii? (text : Text) : Option Operator := all.find? (·.ascii.isPrefixOf text)

@[simp] theorem ofSymbol?_symbol (o : Operator) : ofSymbol? o.symbol = some o := by
  cases o with
  | not => decide
  | binary c => cases c <;> decide

theorem ofSymbol?_eq_some_iff {c : Char} {o : Operator} :
    ofSymbol? c = some o ↔ o.symbol = c := by
  constructor
  · intro h
    simpa using List.find?_some h
  · rintro rfl
    exact ofSymbol?_symbol o

@[simp] theorem isBlank_symbol (o : Operator) : isBlank o.symbol = false := by
  cases o with
  | not => decide
  | binary c => cases c <;> decide

end Operator

end Propositional
