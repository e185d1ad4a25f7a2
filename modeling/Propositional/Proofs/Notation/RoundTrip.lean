import Propositional.Proofs.Notation.Spelled
import Propositional.Proofs.Text.Rereading
/-!
# Propositional.Proofs.Notation.RoundTrip

From either notation into words and back.

Spacing makes no difference to what is read, so a text keeps its ink on this way exactly if it is
word-safe (`ink_convert_back`). For a text of tokens in the symbolic notation this is a condition on
its letters. A text in the word notation has been read once already, which leaves no operator words,
so only signs directly behind words can be lost (`convert_word_back`). A text that keeps its ink
keeps its table.
-/

namespace Propositional

/-! ### Words of small letters -/

theorem toLower_toUpper_of_isLower {c : Char} (h : c.isLower = true) :
    c.toUpper.toLower = c := by
  have table : ∀ n ∈ List.range' 0x61 26, (Char.ofNat n).toUpper.toLower = Char.ofNat n := by
    decide
  have hrange := isLower_iff.1 h
  have hc := table c.toNat (List.mem_range'_1.2 ⟨hrange.1, by omega⟩)
  rwa [Char.ofNat_toNat] at hc

/-- In small letters an operator word is one of five. -/
theorem Operator.ofWord?_eq_none_iff_of_isLower {w : Text} (hw : ∀ c ∈ w, c.isLower = true) :
    ofWord? w = none ↔ w ∉ ["not", "and", "or", "implies", "iff"].map String.toList := by
  have hlower : (w.map Char.toUpper).map Char.toLower = w := by
    rw [List.map_map]
    exact (List.map_congr_left fun c hc => toLower_toUpper_of_isLower (hw c hc)).trans
      (List.map_id w)
  have hwords : ["not", "and", "or", "implies", "iff"].map String.toList =
      all.map fun o => o.word.map Char.toLower := by
    decide
  have hupper : ∀ o ∈ all, (o.word.map Char.toLower).map Char.toUpper = o.word := by decide
  rw [hwords, Option.eq_none_iff_forall_ne_some, List.mem_map]
  constructor
  · rintro h ⟨o, ho, rfl⟩
    exact h o (ofWord?_eq_some_iff.2 (hupper o ho))
  · intro h o ho
    refine h ⟨o, mem_all o, ?_⟩
    rw [← ofWord?_eq_some_iff.1 ho, hlower]

/-! ### Texts of tokens -/

namespace Text

/-- A text of blanks and of the characters of tokens. -/
def OfTokens (text : Text) : Prop := ∀ c ∈ text, isBlank c = true ∨ ∃ t : Token, t.char = c

instance (text : Text) : Decidable text.OfTokens :=
  decidable_of_iff (text.all (fun c => isBlank c || (Token.ofChar? c).isSome) = true) <| by
    simp only [OfTokens, List.all_eq_true, Bool.or_eq_true, Option.isSome_iff_exists,
      Token.ofChar?_eq_some_iff]

variable {text : Text}

/-- The only word characters of such a text are its letters. -/
theorem OfTokens.isWordChar_eq (h : text.OfTokens) {c : Char} (hc : c ∈ text) :
    isWordChar c = c.isLower := by
  rcases h c hc with hblank | ⟨t, rfl⟩
  · rw [isWordChar_of_isBlank hblank, isLower_of_isBlank hblank]
  · cases t with
    | var x => exact (isWordChar_of_isLower x.isLower).trans x.isLower.symm
    | op o =>
        have table : ∀ o ∈ Operator.all, o.symbol.isLower = false := by decide
        exact (o.isWordChar_symbol).trans (table o (Operator.mem_all o)).symm
    | leftParen => decide +kernel
    | rightParen => decide +kernel

theorem OfTokens.asciiFree (h : text.OfTokens) : text.AsciiFree := by
  intro o ho
  obtain ⟨c, cs, hascii⟩ := List.exists_cons_of_ne_nil o.ascii_ne_nil
  have hmem : c ∈ o.ascii := hascii ▸ List.mem_cons_self
  have hmark := Operator.isMark_of_mem_ascii hmem
  rcases h c (ho.subset hmem) with hblank | ⟨t, rfl⟩
  · rw [isMark_of_isBlank hblank] at hmark
    cases hmark
  · rw [t.isMark_char] at hmark
    cases hmark

/-- A text of tokens is word-safe if no letter is directly followed by a negation sign and no run of
letters is an operator word. -/
theorem OfTokens.wordSafe_iff (h : text.OfTokens) :
    text.WordSafe ↔
      (∀ c, c.isLower = true → ¬ [c, Operator.not.symbol] <:+: text) ∧
      ∀ w, MaximalRun Char.isLower w text →
        w ∉ ["not", "and", "or", "implies", "iff"].map String.toList := by
  have hclass : ∀ c ∈ text, isWordChar c = c.isLower := fun c => h.isWordChar_eq
  constructor
  · rintro ⟨signs, words⟩
    refine ⟨fun c hc => signs c (isWordChar_of_isLower hc), fun w hw => ?_⟩
    rw [← Operator.ofWord?_eq_none_iff_of_isLower hw.2.1]
    exact words w (hw.congr fun c hc => (hclass c hc).symm)
  · rintro ⟨signs, words⟩
    constructor
    · intro c hc hinfix
      have hmem : c ∈ text := hinfix.subset List.mem_cons_self
      exact signs c (hclass c hmem ▸ hc) hinfix
    · intro w hw
      have hw' := hw.congr hclass
      exact (Operator.ofWord?_eq_none_iff_of_isLower hw'.2.1).2 (words w hw')

/-! ### Texts that have been read -/

/-- What has been read is word-safe if no word character of its canonical form is directly followed
by a negation sign. -/
theorem wordSafe_withSymbols_iff (text : Text) :
    (withSymbols text).WordSafe ↔
      ∀ c, isWordChar c = true → ¬ [c, Operator.not.symbol] <:+: text.canonical .word := by
  have hspaced : ∀ c, isWordChar c = true → ([c, Operator.not.symbol] <:+: text.canonical .word ↔
      [c, Operator.not.symbol] <:+: withSymbols text) := by
    intro c hc
    exact pair_infix_tidyFrom (isBlank_of_isWordChar hc) (Operator.isBlank_symbol .not)
      (keepsGap_of_isWordChar hc) none false (withSymbols text)
  constructor
  · rintro ⟨signs, -⟩ c hc h
    exact signs c hc ((hspaced c hc).1 h)
  · intro h
    exact ⟨fun c hc hinfix => h c hc ((hspaced c hc).2 hinfix),
      fun w => ofWord?_of_maximalRun_withSymbols⟩

/-! ### There and back -/

/-- Whatever the spacing, what comes back is what is read from the text as it is written with
words. -/
theorem ink_canonical_writtenIn (text : Text) :
    ((text.tidy.writtenIn .word).canonical .word).ink = (withSymbols (withWords text)).ink := by
  rw [writtenIn, canonical, tidy_withWords_tidy, tidy_withSymbols_tidy, ink_tidy]

end Text

/-- A text that keeps its ink keeps its table. -/
theorem Table.body_convert_word {source : Notation} {text : Text}
    (h : ((text.convert source .word).convert .word .symbolic).ink =
      (text.convert source .symbolic).ink) (config : Config) :
    (tabulateText config .word (text.convert source .word)).map body =
      (tabulateText config source text).map body := by
  rw [Text.convert_symbolic, Text.convert_symbolic] at h
  rw [body_tabulateText config source text]
  exact body_of_canonical_ink h config

/-- Conversion into words and back. A text of tokens in the symbolic notation keeps its ink exactly
if no letter is directly followed by a negation sign and no run of letters is an operator word. A
text in the word notation keeps the ink of its reading exactly if no word character of the reading
is directly followed by a negation sign. What keeps its ink keeps its table or the cause of its
refusal. -/
theorem convert_word_back :
    (∀ s : Text, s.OfTokens →
      let back := (s.convert .symbolic .word).convert .word .symbolic
      (back.ink = s.ink ↔
        (∀ c, c.isLower = true → ¬ [c, Operator.not.symbol] <:+: s) ∧
        ∀ w, Text.MaximalRun Char.isLower w s →
          w ∉ ["not", "and", "or", "implies", "iff"].map String.toList) ∧
      (back.ink = s.ink → ∀ config : Config,
        (Table.tabulateText config .word (s.convert .symbolic .word)).map Table.body =
          (Table.tabulateText config .symbolic s).map Table.body)) ∧
    (∀ x : Text,
      let y := x.convert .word .symbolic
      let back := (x.convert .word .word).convert .word .symbolic
      (back.ink = y.ink ↔ ∀ c, isWordChar c = true → ¬ [c, Operator.not.symbol] <:+: y) ∧
      (back.ink = y.ink → ∀ config : Config,
        (Table.tabulateText config .word (x.convert .word .word)).map Table.body =
          (Table.tabulateText config .word x).map Table.body)) := by
  constructor
  · intro s hs back
    have hback : back.ink = (Text.withSymbols (Text.withWords s)).ink :=
      Text.ink_canonical_writtenIn s
    have hs_ink : (s.convert .symbolic .symbolic).ink = s.ink := Text.ink_tidy s
    constructor
    · rw [hback, Text.ink_reread_iff hs.asciiFree, hs.wordSafe_iff]
    · intro hkeeps
      exact Table.body_convert_word (hkeeps.trans hs_ink.symm)
  · intro x y back
    have hback : back.ink = (Text.withSymbols (Text.withWords x.withSymbols)).ink :=
      Text.ink_canonical_writtenIn x.withSymbols
    have hy : y.ink = x.withSymbols.ink := Text.ink_tidy x.withSymbols
    constructor
    · rw [hback, hy, Text.ink_reread_iff (Text.asciiFree_withSymbols x)]
      exact Text.wordSafe_withSymbols_iff x
    · intro hkeeps
      exact Table.body_convert_word hkeeps

/-- `p∧¬q` is written `p AND NOT q` and keeps its table, and `p¬q` is written `pNOT q`. -/
theorem convert_word_back_sign :
    let s : Text := ['p', '∧', '¬', 'q']
    let glued : Text := ['p', '¬', 'q']
    (Table.tabulateText (.ofLimit 2) .word (s.convert .symbolic .word)).map Table.body =
        (Table.tabulateText (.ofLimit 2) .symbolic s).map Table.body ∧
      ((glued.convert .symbolic .word).convert .word .symbolic).ink ≠ glued.ink := by
  intro s glued
  obtain ⟨hkeeps, htable⟩ := convert_word_back.1 s (by decide +kernel)
  have hglued := (convert_word_back.1 glued (by decide +kernel)).1
  refine ⟨htable (hkeeps.2 ⟨?_, ?_⟩) _, fun h => (hglued.1 h).1 'p' (by decide) (by decide)⟩
  · intro c hc hinfix
    have hsign : c = '∧' := by
      simpa [s, Text.pair_infix_cons, Operator.symbol] using hinfix
    rw [hsign] at hc
    revert hc
    decide
  · intro w hw
    have hs : s = ['p'] ++ '∧' :: '¬' :: (['q'] ++ []) := rfl
    rw [hs, Text.maximalRun_append (by simp) (by simp) (by decide),
      Text.maximalRun_cons (by decide), Text.maximalRun_cons (by decide),
      Text.maximalRun_append (by simp) (by simp) (by decide),
      or_iff_left Text.not_maximalRun_nil] at hw
    rcases hw with rfl | rfl <;> decide

end Propositional
