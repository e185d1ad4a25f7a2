import Propositional.Connective
/-!
# Propositional.Text.Spacing

Canonical spacing.

`Text.tidy` leaves every character that is not blank where it stands and decides anew what lies
between two of them: one space if they were separated at all, and nothing otherwise. The ends are
trimmed, and a negation sign stands directly before its operand.
-/

namespace Propositional

/-- Whether a gap after this character, the last one written, is worth a space: there is such a
character, and it is not the negation sign. -/
def keepsGap : Option Char → Bool
  | none => false
  | some c => c != Operator.not.symbol

namespace Text

/-- Canonical spacing of the rest of a text, after `last` has been written. A space is `due` when
blanks have been passed since then. -/
def tidyFrom (last : Option Char) (due : Bool) : Text → Text
  | [] => []
  | c :: rest =>
    if isBlank c then tidyFrom last (keepsGap last) rest
    else if due then ' ' :: c :: tidyFrom (some c) false rest
    else c :: tidyFrom (some c) false rest

/-- The space that stands in a gap if one is due. -/
def gap (due : Bool) : Text := if due then [' '] else []

/-- Canonical spacing: every run of blanks becomes one space, except at both ends and after the
negation sign, where it vanishes. -/
def tidy (text : Text) : Text := tidyFrom none false text

@[simp] theorem gap_false : gap false = [] := rfl

@[simp] theorem gap_true : gap true = [' '] := rfl

theorem isBlank_of_mem_gap {due : Bool} : ∀ c ∈ gap due, isBlank c = true := by
  cases due <;> simp

@[simp] theorem tidyFrom_nil (last : Option Char) (due : Bool) : tidyFrom last due [] = [] := rfl

theorem tidyFrom_cons_of_isBlank {c : Char} (h : isBlank c = true) (last : Option Char)
    (due : Bool) (rest : Text) :
    tidyFrom last due (c :: rest) = tidyFrom last (keepsGap last) rest := by
  simp [tidyFrom, h]

theorem tidyFrom_cons_of_not_isBlank {c : Char} (h : isBlank c = false) (last : Option Char)
    (due : Bool) (rest : Text) :
    tidyFrom last due (c :: rest) =
      gap due ++ c :: tidyFrom (some c) false rest := by
  cases due <;> simp [tidyFrom, h]

/-- Spacing loses and adds nothing but blanks. -/
@[simp] theorem ink_tidyFrom (last : Option Char) (due : Bool) (text : Text) :
    ink (tidyFrom last due text) = ink text := by
  induction text generalizing last due with
  | nil => rfl
  | cons c rest ih =>
      cases hc : isBlank c with
      | true => rw [tidyFrom_cons_of_isBlank hc, ih, ink_cons_of_isBlank hc]
      | false =>
          rw [tidyFrom_cons_of_not_isBlank hc, ink_append, ink_cons_of_not_isBlank hc, ih,
            ink_cons_of_not_isBlank hc]
          cases due <;> simp [ink]

@[simp] theorem ink_tidy (text : Text) : ink text.tidy = ink text := ink_tidyFrom ..

end Text

end Propositional
