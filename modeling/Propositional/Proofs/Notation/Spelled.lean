import Propositional.Proofs.Table.Agreement
import Propositional.Proofs.Text.Spelling
/-!
# Propositional.Proofs.Notation.Spelled

Tokens in the word notation.

A token can be spelled in several ways, and blanks may stand before each spelling. No choice among
them matters as long as no two words run into each other: reading gives the tokens back, each as
its character (`ink_withSymbols_spelled`), so the text has the table of its tokens
(`tabulate_spelled`).

The spellings share characters, `=>` ends `<=>`, and still none is taken for a part of another:
spellings are read from the left, and each form stands at the beginning of what is left.
-/

namespace Propositional

/-! ### Spellings of a token -/

/-- The spellings of a token in the word notation: its character, and for an operator also its word,
in any mix of letter cases, and its ASCII form. -/
inductive Token.Spells : Token → Text → Prop
  | char (t : Token) : Spells t [t.char]
  | word {o : Operator} {w : Text} (h : w.map Char.toUpper = o.word) : Spells (.op o) w
  | ascii (o : Operator) : Spells (.op o) o.ascii

/-- A spelled token behind the blanks that separate it from what stands before. -/
structure SpelledToken where
  gap : Text
  token : Token
  spelling : Text
  /-- Nothing but blanks stands before the spelling. -/
  blank : ∀ c ∈ gap, isBlank c = true
  spells : token.Spells spelling

namespace SpelledToken

/-- The characters of a spelled token. -/
def text (p : SpelledToken) : Text := p.gap ++ p.spelling

/-- Words do not run into each other: where a word ends and a word begins, blanks separate the
two. -/
def Apart (p q : SpelledToken) : Prop :=
  p.spelling.endsWord = true → q.spelling.startsWord = true → q.gap ≠ []

instance (p q : SpelledToken) : Decidable (p.Apart q) :=
  inferInstanceAs (Decidable (_ → _ → _))

end SpelledToken

/-! ### Words -/

/-- A character whose capital is a letter of an operator word is a word character. -/
theorem isWordChar_of_toUpper {c : Char} {o : Operator} (h : c.toUpper ∈ o.word) :
    isWordChar c = true := by
  by_cases hlower : 'a'.val ≤ c.val ∧ c.val ≤ 'z'.val
  · exact isWordChar_of_isLower (isLower_iff.2 hlower)
  · -- Only small letters change.
    have heq : c.toUpper = c := dif_neg hlower
    exact Operator.isWordChar_of_mem_word (heq ▸ h)

namespace Operator

/-- A word that spells an operator is made of word characters. -/
theorem isWordChar_of_spelling {w : Text} {o : Operator} (h : w.map Char.toUpper = o.word) :
    ∀ c ∈ w, isWordChar c = true := by
  intro c hc
  exact isWordChar_of_toUpper (h ▸ List.mem_map_of_mem hc)

/-- Every operator word has two letters or more. -/
theorem ofWord?_singleton (c : Char) : ofWord? [c] = none := by
  have table : ∀ o ∈ all, o.word.length ≠ 1 := by decide
  refine Option.eq_none_iff_forall_ne_some.2 fun o ho => table o (mem_all o) ?_
  rw [← ofWord?_eq_some_iff.1 ho, List.length_map, List.length_singleton]

end Operator

/-! ### Reading one spelling -/

namespace Token

/-- The character of a token is no mark. -/
theorem isMark_char (t : Token) : isMark t.char = false := by
  cases t with
  | var x => exact isMark_of_isWordChar (isWordChar_of_isLower x.isLower)
  | op o => exact Operator.isMark_symbol o
  | leftParen => decide
  | rightParen => decide

theorem Spells.ne_nil {t : Token} {s : Text} (h : t.Spells s) : s ≠ [] := by
  cases h with
  | char => exact List.cons_ne_nil _ _
  | @word o _ h =>
      rintro rfl
      exact o.word_ne_nil h.symm
  | ascii o => exact o.ascii_ne_nil

/-- A spelling that does not run into a word is read as the character of its token. -/
theorem Spells.withSymbols_append {t : Token} {s rest : Text} (h : t.Spells s)
    (hrest : s.endsWord = true → rest.startsWord = false) :
    Text.withSymbols (s ++ rest) = t.char :: Text.withSymbols rest := by
  cases h with
  | char =>
      cases hc : isWordChar t.char with
      | true =>
          have hword : ∀ c ∈ [t.char], isWordChar c = true := by simpa using hc
          rw [Text.withSymbols_word (List.cons_ne_nil _ _) hword (hrest hc),
            Text.readWord_of_ofWord? (Operator.ofWord?_singleton _)]
          rfl
      | false =>
          exact Text.withSymbols_cons (Operator.ofAscii?_of_not_isMark t.isMark_char rest) hc
  | @word o _ h =>
      have hword := Operator.isWordChar_of_spelling h
      have hne := (Spells.word h).ne_nil
      rw [Text.withSymbols_word hne hword (hrest (Text.any_getLast?_of_forall hne hword)),
        Text.readWord, Operator.ofWord?_eq_some_iff.2 h]
      rfl
  | ascii o => exact Text.withSymbols_ascii o rest

end Token

/-! ### Reading a spelled text -/

/-- Behind a spelling that ends a word no word begins: the blanks that trail the text begin none,
and the next spelling begins none if nothing separates it. -/
theorem SpelledToken.startsWord_text {p : SpelledToken} {ps : List SpelledToken} {trail : Text}
    (hapart : (p :: ps).IsChain Apart) (htrail : ∀ c ∈ trail, isBlank c = true)
    (hends : p.spelling.endsWord = true) :
    Text.startsWord (ps.flatMap text ++ trail) = false := by
  cases ps with
  | nil => exact Text.startsWord_of_blank htrail
  | cons q ps =>
      rw [List.flatMap_cons, text, List.append_assoc, List.append_assoc]
      by_cases hgap : q.gap = []
      · rw [hgap, List.nil_append, Text.startsWord_append q.spells.ne_nil]
        refine Bool.eq_false_iff.2 fun hstarts => ?_
        exact (List.isChain_cons_cons.1 hapart).1 hends hstarts hgap
      · rw [Text.startsWord_append hgap]
        exact Text.startsWord_of_blank q.blank

/-- Reading a spelled text gives the characters of its tokens. -/
theorem ink_withSymbols_spelled {ps : List SpelledToken} {trail : Text}
    (hapart : ps.IsChain SpelledToken.Apart) (htrail : ∀ c ∈ trail, isBlank c = true) :
    (Text.withSymbols (ps.flatMap SpelledToken.text ++ trail)).ink =
      ps.map (·.token.char) := by
  induction ps with
  | nil =>
      rw [List.flatMap_nil, List.nil_append, ← List.append_nil trail,
        Text.withSymbols_append_of_blank htrail, Text.withSymbols_nil, List.append_nil,
        Text.ink_of_blank htrail, List.map_nil]
  | cons p ps ih =>
      rw [List.flatMap_cons, SpelledToken.text, List.append_assoc, List.append_assoc,
        Text.withSymbols_append_of_blank p.blank,
        p.spells.withSymbols_append (SpelledToken.startsWord_text hapart htrail),
        Text.ink_append, Text.ink_of_blank p.blank, List.nil_append,
        Text.ink_cons_of_not_isBlank p.token.isBlank_char, ih hapart.of_cons, List.map_cons]

theorem ink_map_char (ts : List Token) : Text.ink (ts.map Token.char) = ts.map Token.char := by
  simp [Text.ink]

/-- Whatever the spellings and the blanks, as long as no two words run into each other, conversion
leaves the characters of the tokens, and the text has the table of these characters or is refused
for the same cause. -/
theorem convert_spelled (ps : List SpelledToken) (trail : Text)
    (hapart : ps.IsChain SpelledToken.Apart) (htrail : ∀ c ∈ trail, isBlank c = true) :
    let text : Text := ps.flatMap SpelledToken.text ++ trail
    let symbols : Text := ps.map (·.token.char)
    (text.convert .word .symbolic).ink = symbols ∧
      ∀ config : Config, (Table.tabulateText config .word text).map Table.body =
        (Table.tabulate config symbols).map Table.body := by
  intro text symbols
  have hink : (text.canonical .word).ink = symbols := by
    rw [Text.canonical, Text.ink_tidy]
    exact ink_withSymbols_spelled hapart htrail
  have hsymbols : Text.ink symbols = symbols := by
    simpa [symbols, Function.comp_def] using ink_map_char (ps.map (·.token))
  refine ⟨hink, fun config => Table.body_of_canonical_ink ?_ config⟩
  rw [hink, hsymbols]

/-- `nOt p=>!q` is read as `¬p→¬q`: a space keeps `nOt` and `p` apart, and marks need none. -/
theorem convert_spelled_mixed :
    let text : Text := ['n', 'O', 't', ' ', 'p', '=', '>', '!', 'q']
    (text.convert .word .symbolic).ink = ['¬', 'p', '→', '¬', 'q'] ∧
      (Table.tabulateText (.ofLimit 2) .word text).map Table.body =
        (Table.tabulate (.ofLimit 2) ['¬', 'p', '→', '¬', 'q']).map Table.body := by
  intro text
  let p : Variable := ⟨'p', by decide⟩
  let q : Variable := ⟨'q', by decide⟩
  let ps : List SpelledToken :=
    [⟨[], .op .not, ['n', 'O', 't'], by simp, .word rfl⟩,
      ⟨[' '], .var p, ['p'], by simp, .char _⟩,
      ⟨[], .op (.binary .implies), ['=', '>'], by simp, .ascii _⟩,
      ⟨[], .op .not, ['!'], by simp, .ascii _⟩,
      ⟨[], .var q, ['q'], by simp, .char _⟩]
  have hapart : ps.IsChain SpelledToken.Apart := by decide +kernel
  obtain ⟨hink, htable⟩ := convert_spelled ps [] hapart (by simp)
  exact ⟨hink, htable _⟩

end Propositional
