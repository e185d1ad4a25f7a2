/-!
# Propositional.Text

Texts and the characters that only separate.

A **text** is the list of its characters. Formulas, renderings and messages are all texts, and
every reading function of the library works on them character by character, so nothing is ever
measured in bytes.

Design points:

* A class of characters is a list of **code ranges**. Membership is a plain search, so a fact
  about a single character is settled by evaluation.
* **Blank** means the `White_Space` property: the ASCII separators, the no-break space, the
  typographic spaces and the line and paragraph separators. A zero-width space or a byte order
  mark is not blank.
* `Text.ink` is the view that forgets blanks. Whatever the library says "up to blanks" is said
  through it.
-/

namespace Propositional

/-- The characters of a formula, a rendering or a message, in order. -/
abbrev Text := List Char

/-- A set of characters, as inclusive ranges of code points. -/
abbrev CodeRanges := List (Nat × Nat)

/-- Whether the code point of `c` lies in one of the ranges. -/
def CodeRanges.contains (ranges : CodeRanges) (c : Char) : Bool :=
  ranges.any fun range => range.1 ≤ c.toNat && c.toNat ≤ range.2

theorem CodeRanges.contains_iff (ranges : CodeRanges) (c : Char) :
    ranges.contains c = true ↔ ∃ range ∈ ranges, range.1 ≤ c.toNat ∧ c.toNat ≤ range.2 := by
  simp [CodeRanges.contains]

/-- The `White_Space` property. -/
def blankRanges : CodeRanges :=
  [(0x09, 0x0D), (0x20, 0x20), (0x85, 0x85), (0xA0, 0xA0), (0x1680, 0x1680), (0x2000, 0x200A),
    (0x2028, 0x2029), (0x202F, 0x202F), (0x205F, 0x205F), (0x3000, 0x3000)]

/-- Whether a character only separates what stands around it. -/
def isBlank (c : Char) : Bool := blankRanges.contains c

@[simp] theorem isBlank_space : isBlank ' ' = true := by decide

@[simp] theorem isBlank_newline : isBlank '\n' = true := by decide

/-- The letters `a` to `z` are consecutive. -/
theorem isLower_iff {c : Char} : c.isLower = true ↔ 0x61 ≤ c.toNat ∧ c.toNat ≤ 0x7A := by
  show (decide ('a'.val ≤ c.val) && decide (c.val ≤ 'z'.val)) = true ↔ _
  simp only [Bool.and_eq_true, decide_eq_true_eq, UInt32.le_iff_toNat_le]
  rfl

theorem isBlank_of_isLower {c : Char} (h : c.isLower = true) : isBlank c = false := by
  have hc := isLower_iff.1 h
  simp [isBlank, CodeRanges.contains, blankRanges]
  omega

/-- No blank is a letter. -/
theorem isLower_of_isBlank {c : Char} (h : isBlank c = true) : c.isLower = false := by
  refine Bool.eq_false_iff.2 fun hc => ?_
  rw [isBlank_of_isLower hc] at h
  cases h

namespace Text

/-- The characters of a text that are not blank, in order. -/
def ink (text : Text) : Text := text.filter (!isBlank ·)

@[simp] theorem ink_nil : ink [] = [] := rfl

@[simp] theorem ink_append (a b : Text) : ink (a ++ b) = ink a ++ ink b :=
  List.filter_append ..

theorem ink_cons_of_isBlank {c : Char} (h : isBlank c = true) (text : Text) :
    ink (c :: text) = ink text := by
  simp [ink, h]

theorem ink_cons_of_not_isBlank {c : Char} (h : isBlank c = false) (text : Text) :
    ink (c :: text) = c :: ink text := by
  simp [ink, h]

end Text

end Propositional
