import Propositional.Notation
import Propositional.Proofs.Text.Rereading
/-!
# Propositional.Proofs.Notation.Stability

Converting what has been converted.

Every conversion goes through the canonical symbolic text, and nothing is left to do for a second
one (`convert_through_canonical`). Spacing before a reading makes no difference to the spaced result
(`Text.tidy_withSymbols_tidy`), what has been read is read as it is
(`Text.withSymbols_withSymbols`), and so canonical texts are fixed points of both readings.

Texts that are written with words are no fixed points of reading and writing: the word for a sign
behind a word is read as a part of this word, and the symbols come back with spaces around them.
They do not change any more all the same. A part of a word is written as it was read, and the
spaces are next to spaces that stand there already, so the text that is written the second time is
spaced like the first (`Text.alike_rewriting`).
-/

namespace Propositional

namespace Text

/-! ### Writing what has been read again -/

/-- The spaces that a symbol brings with it are next to the spaces around its word. -/
theorem alike_withWords_respell (c : Char) : Alike (withWords (respell c)) (writeWord c) := by
  have hspace : writeWord ' ' = [' '] := writeWord_of_isBlank isBlank_space
  cases hsymbol : Operator.ofSymbol? c with
  | none =>
      rw [respell_of_ofSymbol? hsymbol, withWords_cons, withWords_nil, List.append_nil]
      exact Alike.refl _
  | some o =>
      obtain rfl := Operator.ofSymbol?_eq_some_iff.1 hsymbol
      cases o with
      | not =>
          have htwo : withWords (respell Operator.not.symbol) =
              Operator.not.word ++ [' ', ' '] := by
            simp [writeWord_not, hspace]
          rw [htwo, writeWord_not]
          exact alike_spaces.append_left _
      | binary o =>
          have hfour : withWords (respell (Operator.binary o).symbol) =
              [' ', ' '] ++ ((Operator.binary o).word ++ [' ', ' ']) := by
            simp [writeWord_binary, hspace]
          rw [hfour, writeWord_binary]
          exact alike_spaces.append (alike_spaces.append_left _)

/-- A symbol in front of a text makes no difference to how the text is written the second time. -/
theorem alike_rewriting_symbol (o : Operator) {text : Text}
    (h : Alike (withWords (withSymbols (withWords text))) (withWords text)) :
    Alike (withWords (withSymbols (withWords (o.symbol :: text))))
      (withWords (o.symbol :: text)) := by
  rw [withWords_cons, withSymbols_writeWord, withWords_append]
  exact (alike_withWords_respell o.symbol).append h

/-- Nor does a word whose last letters were written for a sign. Behind it one space is left of the
two that the sign would have. -/
theorem alike_rewriting_append_not {w : Text} (hne : w ≠ [])
    (hw : ∀ c ∈ w, isWordChar c = true) {text : Text}
    (h : Alike (withWords (withSymbols (withWords (Operator.not.symbol :: text))))
      (withWords (Operator.not.symbol :: text))) :
    Alike (withWords (withSymbols (withWords (w ++ Operator.not.symbol :: text))))
      (withWords (w ++ Operator.not.symbol :: text)) := by
  have hword : ∀ c ∈ w ++ Operator.not.word, isWordChar c = true :=
    List.forall_mem_append.2 ⟨hw, fun c => Operator.isWordChar_of_mem_word⟩
  have hglued : withWords (withSymbols (withWords (w ++ Operator.not.symbol :: text))) =
      w ++ (writeWord Operator.not.symbol ++ withWords (withSymbols (withWords text))) := by
    rw [reread_append_not hne hw, withWords_append, withWords_of_isWordChar hword, withWords_cons,
      writeWord_of_isBlank isBlank_space, writeWord_not, List.append_assoc, List.append_assoc]
  rw [withWords_cons, withSymbols_writeWord, withWords_append] at h
  rw [hglued, withWords_append, withWords_of_isWordChar hw]
  refine Alike.append_left w (Alike.trans ?_ h)
  exact (alike_withWords_respell Operator.not.symbol).symm.append (Alike.refl _)

/-- A text that has been read is written the second time as it was the first time, up to spaces next
to spaces. -/
theorem alike_rewriting (text : Text) :
    Alike (withWords (withSymbols (withWords (withSymbols text))))
      (withWords (withSymbols text)) := by
  induction text using induction_spelling with
  | nil => simpa using Alike.refl []
  | ascii o rest ih =>
      rw [withSymbols_ascii]
      exact alike_rewriting_symbol o ih
  | word w rest hne hw hrest ih =>
      rw [withSymbols_word hne hw hrest]
      rcases readWord_cases w with ⟨o, -, hread⟩ | ⟨-, hread⟩
      · rw [hread]
        exact alike_rewriting_symbol o ih
      · rw [hread]
        by_cases hsign : (withSymbols rest).head? = some Operator.not.symbol
        · obtain ⟨tail, htail⟩ := List.head?_eq_some_iff.1 hsign
          rw [htail] at ih ⊢
          exact alike_rewriting_append_not hne hw ih
        · rw [reread_append hne hw (startsWord_withSymbols hrest) hsign, hread, withWords_append,
            withWords_append, withWords_of_isWordChar hw]
          exact ih.append_left w
  | other c rest hc hascii ih =>
      have hascii' := ofAscii?_cons_of_marks hascii fun _ _ => prefix_of_prefix_withSymbols
      rw [withSymbols_cons hascii hc, reread_cons hc hascii', withWords_append]
      exact (alike_withWords_respell c).append ih

/-! ### Canonical texts -/

/-- A canonical text stays as it is when it is spaced. -/
@[simp] theorem tidy_canonical (source : Notation) (text : Text) :
    (text.canonical source).tidy = text.canonical source := by
  cases source with
  | symbolic => exact tidy_tidy text
  | word => exact tidy_tidy text.withSymbols

/-- A canonical text of the word notation stays as it is when it is read again. -/
theorem canonical_word_canonical (text : Text) :
    (text.canonical .word).canonical .word = text.canonical .word := by
  simp only [canonical, tidy_withSymbols_tidy, withSymbols_withSymbols]

/-- Blanks at the end of a text make no difference to its canonical text. -/
theorem canonical_append_of_blank {gap : Text} (hgap : ∀ c ∈ gap, isBlank c = true)
    (source : Notation) (text : Text) : (text ++ gap).canonical source = text.canonical source := by
  cases source with
  | symbolic => exact tidy_append_of_blank hgap text
  | word =>
      simp only [canonical]
      rw [← tidy_withSymbols_tidy, tidy_append_of_blank hgap, tidy_withSymbols_tidy]

/-- A text that has been written with words from the word notation is written so again. -/
theorem convert_word_word (text : Text) :
    (text.convert .word .word).convert .word .word = text.convert .word .word := by
  simp only [convert, writtenIn, canonical, tidy_withWords_tidy, tidy_withSymbols_tidy]
  exact (alike_rewriting text).tidy_eq

end Text

/-- Conversion goes through the canonical text: converting that further gives what conversion of the
text gives. The canonical text of the word notation may be read in either notation, and what
has been written with words from that notation does not change when it is written so again. -/
theorem convert_through_canonical (text : Text) (target : Notation) :
    (∀ source : Notation,
      (text.convert source .symbolic).convert .symbolic target = text.convert source target) ∧
    (text.convert .word .symbolic).convert .word target = text.convert .word target ∧
    (text.convert .word .word).convert .word .word = text.convert .word .word := by
  refine ⟨fun source => ?_, ?_, Text.convert_word_word text⟩
  · rw [Text.convert_symbolic, Text.convert, Text.canonical, Text.tidy_canonical, Text.convert]
  · rw [Text.convert_symbolic, Text.convert, Text.canonical_word_canonical, Text.convert]

end Propositional
