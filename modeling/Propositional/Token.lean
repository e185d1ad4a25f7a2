import Propositional.Connective
import Propositional.Variable
/-!
# Propositional.Token

The tokens of the canonical notation.

Every token of the canonical notation is a single character: a letter, the symbol of an operator
or a parenthesis. A text is therefore read character by character, and `Token.char` is the exact
converse of `Token.ofChar?`.
-/

namespace Propositional

/-- A token of the canonical notation. -/
inductive Token where
  | var (x : Variable)
  | op (o : Operator)
  | leftParen
  | rightParen
  deriving DecidableEq, Repr

namespace Token

/-- The character that a token is written with. -/
def char : Token → Char
  | .var x => x.name
  | .op o => o.symbol
  | .leftParen => '('
  | .rightParen => ')'

/-- The token that a character writes. -/
def ofChar? (c : Char) : Option Token :=
  if c = '(' then some .leftParen
  else if c = ')' then some .rightParen
  else ((Operator.ofSymbol? c).map .op).or ((Variable.ofChar? c).map .var)

/-- The token of an operator word. -/
def ofWord? (w : Text) : Option Token := (Operator.ofWord? w).map .op

/-- The word of the word notation, for an operator. -/
def word? : Token → Option Text
  | .op o => some o.word
  | _ => none

/-- Whether the token is an operator. -/
def isOperator : Token → Bool
  | .op _ => true
  | _ => false

/-- How tightly the token binds, for an operator. -/
def precedence? : Token → Option Nat
  | .op o => some o.precedence
  | _ => none

/-! ### Characters and tokens correspond -/

theorem ofSymbol?_name (x : Variable) : Operator.ofSymbol? x.name = none := by
  refine Option.eq_none_iff_forall_ne_some.2 fun o h => ?_
  have hx := x.isLower
  rw [← Operator.ofSymbol?_eq_some_iff.1 h] at hx
  revert hx
  cases o with
  | not => decide
  | binary c => cases c <;> decide

@[simp] theorem ofChar?_char (t : Token) : ofChar? t.char = some t := by
  cases t with
  | var x =>
      have hl : x.name ≠ '(' := fun h => absurd (h ▸ x.isLower) (by decide)
      have hr : x.name ≠ ')' := fun h => absurd (h ▸ x.isLower) (by decide)
      simp [ofChar?, char, hl, hr, ofSymbol?_name]
  | op o =>
      have hl : o.symbol ≠ '(' := by
        cases o with
        | not => decide
        | binary c => cases c <;> decide
      have hr : o.symbol ≠ ')' := by
        cases o with
        | not => decide
        | binary c => cases c <;> decide
      simp [ofChar?, char, hl, hr]
  | leftParen => rfl
  | rightParen => rfl

theorem ofChar?_eq_some_iff {c : Char} {t : Token} : ofChar? c = some t ↔ t.char = c := by
  constructor
  · intro h
    unfold ofChar? at h
    split at h
    · next hc => rw [← Option.some.inj h, hc]; rfl
    · split at h
      · next hc => rw [← Option.some.inj h, hc]; rfl
      · rcases Option.or_eq_some_iff.1 h with h | ⟨-, h⟩
        · obtain ⟨o, ho, rfl⟩ := Option.map_eq_some_iff.1 h
          exact Operator.ofSymbol?_eq_some_iff.1 ho
        · obtain ⟨x, hx, rfl⟩ := Option.map_eq_some_iff.1 h
          exact Variable.ofChar?_eq_some_iff.1 hx
  · rintro rfl
    exact ofChar?_char t

theorem char_injective {s t : Token} (h : s.char = t.char) : s = t :=
  Option.some.inj (by rw [← ofChar?_char s, h, ofChar?_char])

end Token

end Propositional
