import Propositional.Proofs.Formula.Support
import Propositional.Proofs.Rpn.Composition
/-!
# Propositional.Proofs.Formula.Compound

Texts put together from texts in parentheses.

A text that compiles contributes to a compound what it is compiled to, as soon as it stands in
parentheses, whatever it contains (`Yard.TextPutsOut`). So `(a) ∧ (b)` is read as the conjunction of
what `a` and `b` are read as, and likewise for the other operators (`Formula.parse_joined`,
`Formula.parse_negated`).
-/

namespace Propositional

/-! ### Compound texts -/

namespace Text

/-- The text in parentheses. -/
def grouped (a : Text) : Text := '(' :: a ++ [')']

theorem ink_grouped {a : Text} {tokens : List Token} (h : a.ink = tokens.map Token.char) :
    a.grouped.ink = (Token.leftParen :: tokens ++ [Token.rightParen]).map Token.char := by
  have hopen : ink ('(' :: a) = '(' :: a.ink := ink_cons_of_not_isBlank (by decide) a
  have hclose : ink [')'] = [')'] := ink_cons_of_not_isBlank (by decide) []
  rw [grouped, ink_append, hopen, hclose, h]
  simp [Token.char]

/-- The negation of a text in parentheses. -/
def negated (a : Text) : Text := Operator.not.symbol :: a.grouped

/-- Two texts with a connective between them. -/
def joined (c : Connective) (a b : Text) : Text :=
  a ++ [' ', (Operator.binary c).symbol, ' '] ++ b

end Text

/-! ### Reading compound texts -/

namespace Yard

/-- A text that is read consists of tokens and blanks. -/
theorem exists_tokens_of_foldlM_read {text : Text} {yard next : Yard}
    (h : text.foldlM read yard = .ok next) :
    ∃ tokens : List Token, text.ink = tokens.map Token.char := by
  refine foldlM_induction
    (motive := fun front _ => ∃ tokens : List Token, Text.ink front = tokens.map Token.char)
    h ⟨[], rfl⟩ ?_
  intro front mid c next hmid hnext
  obtain ⟨tokens, htokens⟩ := hmid
  rcases read_cases hnext with ⟨hc, -⟩ | ⟨t, rfl, -⟩
  · exact ⟨tokens, by simp [Text.ink_cons_of_isBlank hc, htokens]⟩
  · exact ⟨tokens ++ [t], by simp [Text.ink_cons_of_not_isBlank t.isBlank_char, htokens]⟩

/-- A compiled text is compiled as its tokens. -/
theorem exists_tokens_of_compile {text : Text} {rpn : Rpn} (h : Rpn.compile text = .ok rpn) :
    ∃ tokens : List Token, text.ink = tokens.map Token.char ∧
      tokens.foldlM push empty >>= finish = .ok rpn := by
  obtain ⟨yard, hyard, -⟩ := bind_eq_ok_iff.1 h
  obtain ⟨tokens, htokens⟩ := exists_tokens_of_foldlM_read hyard
  exact ⟨tokens, htokens, compile_of_ink htokens ▸ h⟩

/-- A text in parentheses puts out what it is compiled to, and leaves what waits as it was. -/
theorem foldlM_read_grouped {a : Text} {rpn : Rpn} (h : Rpn.compile a = .ok rpn) (yard : Yard) :
    a.grouped.foldlM read yard = .ok ⟨rpn.reverse ++ yard.output, yard.waiting⟩ := by
  obtain ⟨tokens, htokens, hcompiled⟩ := exists_tokens_of_compile h
  rw [foldlM_read_ink, Text.ink_grouped htokens, foldlM_read_chars,
    foldlM_push_group hcompiled]

/-- The tokens of the text put out the items, wherever the text stands. -/
def TextPutsOut (strength : Nat) (text : Text) (rpn : Rpn) : Prop :=
  ∃ tokens : List Token, text.ink = tokens.map Token.char ∧ PutsOut strength tokens rpn

namespace TextPutsOut

variable {n : Nat} {a b : Text} {ra rb : Rpn}

theorem mono {m : Nat} (h : TextPutsOut n a ra) (hmn : m ≤ n) : TextPutsOut m a ra := by
  obtain ⟨tokens, htokens, hputs⟩ := h
  exact ⟨tokens, htokens, hputs.mono hmn⟩

theorem compile_eq (h : TextPutsOut n a ra) : Rpn.compile a = .ok ra := by
  obtain ⟨tokens, htokens, hputs⟩ := h
  rw [compile_of_ink htokens]
  exact (hputs.mono (Nat.zero_le n)).finish_eq

theorem letter (n : Nat) (x : Variable) : TextPutsOut n [x.name] [.var x] :=
  ⟨[.var x], Text.ink_cons_of_not_isBlank (isBlank_of_isLower x.isLower) [], putsOut_var n x⟩

theorem grouped (n : Nat) (h : Rpn.compile a = .ok ra) : TextPutsOut n a.grouped ra := by
  obtain ⟨tokens, htokens, hcompiled⟩ := exists_tokens_of_compile h
  exact ⟨_, Text.ink_grouped htokens, putsOut_group n hcompiled⟩

/-- A sign before what binds tighter than any operator. -/
theorem signed (h : TextPutsOut (Operator.not.precedence + 1) a ra) :
    TextPutsOut Operator.not.precedence (Operator.not.symbol :: a) (ra ++ [.op .not]) := by
  obtain ⟨tokens, htokens, hputs⟩ := h
  refine ⟨.op .not :: tokens, ?_, hputs.signed 0⟩
  rw [Text.ink_cons_of_not_isBlank (Operator.isBlank_symbol .not), htokens]
  rfl

theorem joined (c : Connective) (ha : TextPutsOut (Operator.binary c).precedence a ra)
    (hb : TextPutsOut ((Operator.binary c).precedence + 1) b rb) :
    TextPutsOut (Operator.binary c).precedence (.joined c a b) (ra ++ rb ++ [.op (.binary c)]) := by
  obtain ⟨as, has, hputsa⟩ := ha
  obtain ⟨bs, hbs, hputsb⟩ := hb
  refine ⟨as ++ .op (.binary c) :: bs, ?_, hputsa.joined rfl hputsb⟩
  rw [Text.joined, Text.ink_append, Text.ink_append, has, hbs,
    Text.ink_cons_of_isBlank isBlank_space,
    Text.ink_cons_of_not_isBlank (Operator.isBlank_symbol _),
    Text.ink_cons_of_isBlank isBlank_space]
  simp [Token.char]

end TextPutsOut

end Yard

/-- A sign binds tighter than every connective. -/
theorem precedence_binary_lt (c : Connective) :
    (Operator.binary c).precedence < Operator.not.precedence := by
  cases c <;> decide

namespace Formula

open Yard (TextPutsOut)

variable {a b : Text} {f g : Formula}

theorem putsOut_grouped (n : Nat) (h : parse a = .ok f) : TextPutsOut n a.grouped f.postorder :=
  .grouped n (compile_of_parse h)

theorem putsOut_negated (h : parse a = .ok f) :
    TextPutsOut Operator.not.precedence a.negated (not f).postorder :=
  (putsOut_grouped _ h).signed

theorem parse_negated (ha : parse a = .ok f) : parse a.negated = .ok (.not f) :=
  parse_of_compile (putsOut_negated ha).compile_eq

theorem parse_joined (c : Connective) (ha : parse a = .ok f) (hb : parse b = .ok g) :
    parse (.joined c a.grouped b.grouped) = .ok (.binary c f g) :=
  parse_of_compile (TextPutsOut.joined c (putsOut_grouped _ ha) (putsOut_grouped _ hb)).compile_eq

/-- A negation needs no parentheses beside a connective. -/
theorem parse_negated_joined (c : Connective) (ha : parse a = .ok f) (hb : parse b = .ok g) :
    parse (.joined c a.negated b.grouped) = .ok (.binary c (.not f) g) := by
  have hleft := (putsOut_negated ha).mono (Nat.le_of_lt (precedence_binary_lt c))
  exact parse_of_compile (TextPutsOut.joined c hleft (putsOut_grouped _ hb)).compile_eq

end Formula

end Propositional
