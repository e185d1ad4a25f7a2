import Propositional.Connective
import Propositional.Text.WordCharacter
/-!
# Propositional.Text.Spelling

Operator words and operator symbols.

`Text.withSymbols` reads the word notation: it replaces each operator word and each ASCII form by
the symbol of its operator and copies everything else. `Text.withWords` goes the other way and
writes each symbol as a word. Neither asks whether the text is a formula.

Design points:

* An operator word is a whole word. The word that begins at a word character is the longest run
  of word characters from there, so `nott` stays as it is.
* An ASCII form is recognised where it begins, before the characters after it are looked at:
  `<=>` is one operator, and `&&&` is an operator and a character.
-/

namespace Propositional.Text

/-- The reading of one word: the symbol of the operator that it spells, or the word itself. -/
def readWord (w : Text) : Text :=
  match Operator.ofWord? w with
  | some o => [o.symbol]
  | none => w

/-- The text with the symbol of its operator for each operator word and each ASCII form. -/
def withSymbols : Text → Text
  | [] => []
  | c :: rest =>
    match Operator.ofAscii? (c :: rest) with
    | some o => o.symbol :: withSymbols ((c :: rest).drop o.ascii.length)
    | none =>
      if isWordChar c then
        readWord (c :: rest.takeWhile isWordChar) ++ withSymbols (rest.dropWhile isWordChar)
      else c :: withSymbols rest
termination_by text => text.length
decreasing_by
  · have := o.ascii_length_pos
    simp only [List.length_drop, List.length_cons]
    omega
  · have := (List.dropWhile_suffix isWordChar (l := rest)).length_le
    simp only [List.length_cons]
    omega
  · simp

@[simp] theorem withSymbols_nil : withSymbols [] = [] := by
  rw [withSymbols]

/-- How a character of the canonical notation is written with words. The word of a negation is
followed by a space, the word of a connective stands between two. -/
def writeWord (c : Char) : Text :=
  match Operator.ofSymbol? c with
  | some .not => Operator.not.word ++ [' ']
  | some o => ' ' :: o.word ++ [' ']
  | none => [c]

/-- The text with the word of its operator for each symbol. -/
def withWords (text : Text) : Text := text.flatMap writeWord

@[simp] theorem withWords_nil : withWords [] = [] := rfl

@[simp] theorem withWords_append (a b : Text) :
    withWords (a ++ b) = withWords a ++ withWords b :=
  List.flatMap_append ..

end Propositional.Text
