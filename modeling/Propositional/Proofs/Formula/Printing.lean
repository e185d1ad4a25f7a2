import Propositional.Notation
import Propositional.Proofs.Formula.Compound
import Propositional.Proofs.Text.Spacing
/-!
# Propositional.Proofs.Formula.Printing

Printed formulas read back.

A printed text is put together from the printed texts of the parts as any compound text is
(`putsOut_text`). A connective stands in parentheses, so what surrounds it does not matter, and a
negation sign is followed by a letter or a parenthesis, so no sign strays from its operand. Hence
compilation gives the postorder of the formula (`compile_text`), reading gives the formula
(`parse_text`), and no two formulas are printed alike. The text has canonical spacing already
(`tidy_text`).
-/

namespace Propositional.Formula

open Yard (TextPutsOut)

/-! ### Reading a printed text -/

theorem text_binary (c : Connective) (l r : Formula) :
    (binary c l r).text = Text.grouped (.joined c l.text r.text) := by
  simp [text, Text.grouped, Text.joined]

theorem text_not_not (f : Formula) :
    (not (not f)).text = Operator.not.symbol :: (not f).text.grouped := by
  rw [text]
  rfl

/-- A printed text may stand wherever nothing that waits binds tighter than a sign, and anywhere if
it does not begin with a sign. -/
theorem putsOut_text (f : Formula) :
    TextPutsOut Operator.not.precedence f.text f.postorder ∧
      ((∀ g, f ≠ .not g) → ∀ n, TextPutsOut n f.text f.postorder) := by
  induction f with
  | var x => exact ⟨.letter _ x, fun _ n => .letter n x⟩
  | not f ih =>
      obtain ⟨hsigned, htight⟩ := ih
      refine ⟨?_, fun hne => absurd rfl (hne f)⟩
      cases f with
      | not g =>
          rw [text_not_not]
          exact (TextPutsOut.grouped _ hsigned.compile_eq).signed
      | var x => exact (htight (by simp) _).signed
      | binary c l r => exact (htight (by simp) _).signed
  | binary c l r ihl ihr =>
      have hleft := ihl.1.mono (Nat.le_of_lt (precedence_binary_lt c))
      have hright := ihr.1.mono (Nat.succ_le_of_lt (precedence_binary_lt c))
      have hgroup : ∀ n, TextPutsOut n (binary c l r).text (binary c l r).postorder := by
        intro n
        rw [text_binary]
        exact .grouped n (TextPutsOut.joined c hleft hright).compile_eq
      exact ⟨hgroup _, fun _ => hgroup⟩

theorem compile_text (f : Formula) : Rpn.compile f.text = .ok f.postorder :=
  (putsOut_text f).1.compile_eq

theorem parse_text (f : Formula) : parse f.text = .ok f :=
  parse_of_compile (compile_text f)

/-! ### Spacing of a printed text -/

theorem keepsGap_binary (c : Connective) :
    keepsGap (some (Operator.binary c).symbol) = true := by
  cases c <;> decide

/-- Spacing copies a printed text, which does not end with a negation sign. -/
theorem tidyFrom_text_append (f : Formula) (last : Option Char) (due : Bool) (rest : Text) :
    ∃ c, keepsGap (some c) = true ∧
      Text.tidyFrom last due (f.text ++ rest) =
        Text.gap due ++ f.text ++ Text.tidyFrom (some c) false rest := by
  -- The text may stand behind anything: operands do not begin the text of the whole.
  induction f using text.induct generalizing last due rest with
  | case1 x =>
      refine ⟨x.name, keepsGap_of_isWordChar (isWordChar_of_isLower x.isLower), ?_⟩
      simp [text, Text.tidyFrom_cons_of_not_isBlank (isBlank_of_isLower x.isLower)]
  | case2 f ih =>
      obtain ⟨c, -, htidy⟩ := ih (some '(') false (')' :: rest)
      refine ⟨')', by decide, ?_⟩
      simp [text, Text.tidyFrom_cons_of_not_isBlank (Operator.isBlank_symbol .not),
        Text.tidyFrom_cons_of_not_isBlank (show isBlank '(' = false by decide),
        Text.tidyFrom_cons_of_not_isBlank (show isBlank ')' = false by decide), htidy]
  | case3 f hf ih =>
      obtain ⟨c, hc, htidy⟩ := ih (some Operator.not.symbol) false rest
      refine ⟨c, hc, ?_⟩
      simp [text, Text.tidyFrom_cons_of_not_isBlank (Operator.isBlank_symbol .not), htidy]
  | case4 c l r ihl ihr =>
      have hopen : isBlank '(' = false := by decide
      have hclose : isBlank ')' = false := by decide
      have hsymbol := Operator.isBlank_symbol (.binary c)
      obtain ⟨d, -, hr⟩ := ihr (some (Operator.binary c).symbol) true (')' :: rest)
      obtain ⟨e, he, hl⟩ := ihl (some '(') false
        (' ' :: (Operator.binary c).symbol :: ' ' :: (r.text ++ ')' :: rest))
      have hsplit : (binary c l r).text ++ rest =
          '(' :: (l.text ++
            ' ' :: (Operator.binary c).symbol :: ' ' :: (r.text ++ ')' :: rest)) := by
        simp [text]
      refine ⟨')', by decide, ?_⟩
      rw [hsplit, Text.tidyFrom_cons_of_not_isBlank hopen, hl,
        Text.tidyFrom_cons_of_isBlank isBlank_space, he, Text.tidyFrom_cons_of_not_isBlank hsymbol,
        Text.tidyFrom_cons_of_isBlank isBlank_space, keepsGap_binary, hr,
        Text.tidyFrom_cons_of_not_isBlank hclose]
      simp [text]

theorem tidy_text (f : Formula) : f.text.tidy = f.text := by
  obtain ⟨c, -, htidy⟩ := tidyFrom_text_append f none false []
  simpa [Text.tidy] using htidy

/-! ### The printed text and its formula -/

/-- A printed text is compiled to the postorder of the formula and read as the formula, its
variables are the formula's, and its spacing is canonical. So it is printed by no other formula, and
printing what was read from it gives it back. -/
theorem printed_text_reads_back (f : Formula) :
    Rpn.compile f.text = .ok f.postorder ∧
    parse f.text = .ok f ∧
    VariableSet.ofText f.text = .ok f.support ∧
    f.text.convert .symbolic .symbolic = f.text ∧
    (∀ g : Formula, g.text = f.text ↔ g = f) ∧
    (parse f.text).map text = .ok f.text := by
  refine ⟨compile_text f, parse_text f, ofText_of_parse (parse_text f), tidy_text f, ?_, ?_⟩
  · intro g
    constructor
    · intro htext
      have hg := parse_text g
      rw [htext, parse_text f] at hg
      exact (Except.ok.inj hg).symm
    · intro hg
      rw [hg]
  · rw [parse_text f]
    rfl

end Propositional.Formula
