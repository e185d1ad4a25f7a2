import Propositional.Proofs.Formula.Printing
import Propositional.Proofs.Notation.Spelled
import Propositional.Proofs.Table.Compound
import Propositional.Proofs.Text.Rereading
/-!
# Propositional.Proofs.Formula.InWords

Printed formulas written with words.

In a printed text a letter stands alone, and what a sign follows is a space or a parenthesis if
anything, so when the operators are written as words no two words run into each other, and every
word is read as the symbol that it was written for. What comes back differs from the printed text in
superfluous spaces only, and this is put together from the parts of the text as the text is
(`Text.ComesBack`). As the printed text is spaced already, it comes back exactly, and with it its
table (`Formula.printed_text_in_words`).
-/

namespace Propositional

/-! ### Texts that come back -/

namespace Text

/-- A character that is neither part of a spelling nor a symbol. -/
structure Inert (c : Char) : Prop where
  word : isWordChar c = false
  mark : isMark c = false
  symbol : Operator.ofSymbol? c = none

theorem inert_space : Inert ' ' :=
  ⟨isWordChar_of_isBlank isBlank_space, isMark_of_isBlank isBlank_space, by decide⟩

theorem inert_leftParen : Inert '(' := ⟨by decide +kernel, by decide, by decide⟩

theorem inert_rightParen : Inert ')' := ⟨by decide +kernel, by decide, by decide⟩

theorem Inert.reread {c : Char} (h : Inert c) (rest : Text) :
    withSymbols (withWords (c :: rest)) = c :: withSymbols (withWords rest) := by
  rw [reread_cons h.word (Operator.ofAscii?_of_not_isMark h.mark rest),
    respell_of_ofSymbol? h.symbol, List.singleton_append]

/-- Wherever nothing runs into the text from behind, it comes back from words, but for superfluous
blanks. -/
def ComesBack (text : Text) : Prop :=
  ∀ rest : Text, rest.startsWord = false → rest.head? ≠ some Operator.not.symbol →
    ∃ back, Alike back text ∧
      withSymbols (withWords (text ++ rest)) = back ++ withSymbols (withWords rest)

namespace ComesBack

variable {a b : Text}

/-- Nothing runs into a text from behind its end. -/
theorem tidy_eq (h : ComesBack a) : (withSymbols (withWords a)).tidy = a.tidy := by
  obtain ⟨back, halike, hback⟩ := h [] rfl (by simp)
  rw [List.append_nil, withWords_nil, withSymbols_nil, List.append_nil] at hback
  rw [hback, halike.tidy_eq]

/-- No character that is inert runs into a text from behind. -/
theorem before (h : ComesBack a) {c : Char} (hc : Inert c) (rest : Text) :
    ∃ back, Alike back a ∧
      withSymbols (withWords (a ++ c :: rest)) = back ++ c :: withSymbols (withWords rest) := by
  have hstarts : startsWord (c :: rest) = false := by rw [startsWord_cons, hc.word]
  have hsign : (c :: rest).head? ≠ some Operator.not.symbol := by
    intro hhead
    have hsymbol := hc.symbol
    rw [Option.some.inj hhead, Operator.ofSymbol?_symbol] at hsymbol
    cases hsymbol
  obtain ⟨back, halike, hback⟩ := h (c :: rest) hstarts hsign
  exact ⟨back, halike, by rw [hback, hc.reread]⟩

/-- No letter is the word of an operator. -/
theorem letter (x : Variable) : ComesBack [x.name] := by
  intro rest hrest hsign
  have hword : ∀ c ∈ [x.name], isWordChar c = true := by
    simpa using isWordChar_of_isLower x.isLower
  refine ⟨[x.name], Alike.refl _, ?_⟩
  rw [reread_append (List.cons_ne_nil _ _) hword hrest hsign,
    readWord_of_ofWord? (Operator.ofWord?_singleton x.name)]

/-- A sign comes back with a space, which is superfluous behind a sign. -/
theorem signed (h : ComesBack a) : ComesBack (Operator.not.symbol :: a) := by
  intro rest hrest hsign
  obtain ⟨back, halike, hback⟩ := h rest hrest hsign
  refine ⟨respell Operator.not.symbol ++ back, ?_, ?_⟩
  · rw [respell_not]
    exact alike_sign_space.append halike
  · rw [List.cons_append, withWords_cons, withSymbols_writeWord, hback, List.append_assoc]

theorem grouped (h : ComesBack a) : ComesBack a.grouped := by
  intro rest _ _
  obtain ⟨back, halike, hback⟩ := h.before inert_rightParen rest
  refine ⟨'(' :: back ++ [')'], (halike.cons '(').append (Alike.refl _), ?_⟩
  have hsplit : a.grouped ++ rest = '(' :: (a ++ ')' :: rest) := by simp [Text.grouped]
  rw [hsplit, inert_leftParen.reread, hback]
  simp

/-- A connective comes back between two spaces more. -/
theorem joined (c : Connective) (ha : ComesBack a) (hb : ComesBack b) :
    ComesBack (.joined c a b) := by
  intro rest hrest hsign
  have hsplit : Text.joined c a b ++ rest =
      a ++ ' ' :: (Operator.binary c).symbol :: ' ' :: (b ++ rest) := by
    simp [Text.joined]
  have hspaces : Alike [' ', ' ', (Operator.binary c).symbol, ' ', ' ']
      [' ', (Operator.binary c).symbol, ' '] :=
    alike_spaces.append (alike_spaces.cons _)
  obtain ⟨backb, halikeb, hbackb⟩ := hb rest hrest hsign
  obtain ⟨backa, halikea, hbacka⟩ :=
    ha.before inert_space ((Operator.binary c).symbol :: ' ' :: (b ++ rest))
  refine ⟨backa ++ [' ', ' ', (Operator.binary c).symbol, ' ', ' '] ++ backb,
    (halikea.append hspaces).append halikeb, ?_⟩
  rw [hsplit, hbacka, withWords_cons, withSymbols_writeWord, inert_space.reread, hbackb,
    respell_binary]
  simp

end ComesBack

/-! ### Symbols -/

/-- A symbol is written as word characters and spaces, and nothing else is written as a symbol. -/
theorem symbol_not_mem_withWords (o : Operator) (text : Text) : o.symbol ∉ withWords text := by
  intro hmem
  obtain ⟨c, -, hc⟩ := List.mem_flatMap.1 hmem
  cases hsymbol : Operator.ofSymbol? c with
  | none =>
      rw [writeWord_of_ofSymbol? hsymbol, List.mem_singleton] at hc
      rw [← hc, Operator.ofSymbol?_symbol] at hsymbol
      cases hsymbol
  | some o' =>
      obtain rfl := Operator.ofSymbol?_eq_some_iff.1 hsymbol
      rcases mem_writeWord_symbol hc with hspace | hword
      · exact absurd hspace (ne_of_isBlank o.isBlank_symbol isBlank_space)
      · exact o.symbol_ne_of_isWordChar hword rfl

/-- A text that has been converted into the word notation contains no symbol. -/
theorem symbol_not_mem_convert_word (o : Operator) (source : Notation) (text : Text) :
    o.symbol ∉ text.convert source .word := by
  intro hmem
  have hink : o.symbol ∈ (text.convert source .word).ink := by
    simpa [ink] using hmem
  rw [convert, writtenIn, ink_tidy] at hink
  exact symbol_not_mem_withWords o _ (List.mem_filter.1 hink).1

end Text

namespace Formula

open Text (ComesBack)

/-! ### Printed texts -/

theorem comesBack_text (f : Formula) : ComesBack f.text := by
  induction f with
  | var x => exact .letter x
  | not f ih =>
      cases f with
      | not g =>
          rw [text_not_not]
          exact ih.grouped.signed
      | var x => exact ih.signed
      | binary c l r => exact ih.signed
  | binary c l r ihl ihr =>
      rw [text_binary]
      exact (ComesBack.joined c ihl ihr).grouped

/-- Read as words, a printed text that is written with words is the printed text. -/
theorem canonical_word_text (f : Formula) :
    (f.text.convert .symbolic .word).canonical .word = f.text := by
  rw [Text.convert, Text.canonical, Text.writtenIn, Text.canonical, Text.tidy_withWords_tidy,
    Text.tidy_withSymbols_tidy, (comesBack_text f).tidy_eq, tidy_text]

/-- A printed text that is written with words contains no symbol. It is read as the printed text
itself, white space included, and written as it is. For the same configuration both have too many
variables or the same table, in which each row has the value of the formula. -/
theorem printed_text_in_words (f : Formula) :
    let words := f.text.convert .symbolic .word
    (∀ o : Operator, o.symbol ∉ words) ∧
    words.convert .word .symbolic = f.text ∧
    words.convert .word .word = words ∧
    ∀ config : Config,
      (config.limit < f.support.size ∧
        Table.tabulate config f.text =
          .error (.tooManyVariables f.support.size config.limit) ∧
        Table.tabulateText config .word words =
          .error (.tooManyVariables f.support.size config.limit)) ∨
      (f.support.size ≤ config.limit ∧
        ∃ t, Table.tabulate config f.text = .ok t ∧
          Table.tabulateText config .word words = .ok { t with formula := words } ∧
          ∀ row ∈ t.rows, f.evalUnder? t.vars row.inputs = some row.output) := by
  have hcanonical := canonical_word_text f
  refine ⟨fun o => Text.symbol_not_mem_convert_word o _ _, hcanonical, ?_, fun config => ?_⟩
  · rw [Text.convert, hcanonical, Text.convert, Text.canonical, tidy_text]
  · rw [Table.tabulateText_eq, hcanonical, Table.tabulate_of_parse_eq config (parse_text f)]
    by_cases hlt : config.limit < f.support.size
    · rw [if_pos hlt]
      exact Or.inl ⟨hlt, rfl, rfl⟩
    · rw [if_neg hlt]
      refine Or.inr ⟨Nat.le_of_not_lt hlt, Table.ofFormula f.text f.support f, rfl, rfl, ?_⟩
      intro row hrow
      obtain ⟨hsize, houtput⟩ := Table.inputs_of_mem_rows hrow
      have hassigned : ∀ x ∈ f.leaves, f.support.assign row.inputs x ≠ none := by
        intro x hx
        exact VariableSet.assign_ne_none hsize (mem_support.2 hx)
      rw [houtput]
      exact eval?_of_assigned hassigned

end Formula

end Propositional
