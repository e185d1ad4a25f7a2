import Propositional.Proofs.Text.Spacing
import Propositional.Proofs.Text.Words
/-!
# Propositional.Proofs.Text.Rereading

What becomes of a text that is written with words and read again.

A symbol comes back with the spaces around its word (`Text.respell`), a word comes back as it is
read, and everything else as it was. Two things go wrong. The word for a negation sign is not
separated from what stands before, so it runs into a word there, and what was an operator is read as
a part of a word. And a word that was never an operator may be one of the operator words. A text
without such places is **word-safe** (`Text.WordSafe`), and exactly the word-safe texts are read as
they were written (`ink_reread_iff`).

A text is compared with its rereading from the left. Up to the first such place the two agree, and
there a letter stands against the negation sign, or a symbol against a letter.
-/

namespace Propositional

/-- No operator word ends with the word for a negation, apart from this word. -/
theorem Operator.ofWord?_append_not {w : Text} (hne : w ≠ []) :
    ofWord? (w ++ Operator.not.word) = none := by
  have table : ∀ o ∈ all, Operator.not.word <:+ o.word → o.word = Operator.not.word := by decide
  refine Option.eq_none_iff_forall_ne_some.2 fun o ho => hne ?_
  have hword : w.map Char.toUpper ++ Operator.not.word = o.word := by
    rw [← ofWord?_eq_some_iff.1 ho, List.map_append]
    rfl
  rw [table o (mem_all o) ⟨_, hword⟩] at hword
  simpa using hword

namespace Text

/-! ### Safe texts -/

/-- A text that can be written with words: no word is directly followed by a negation sign, and no
word is an operator word. -/
structure WordSafe (text : Text) : Prop where
  signs : ∀ c, isWordChar c = true → ¬ [c, Operator.not.symbol] <:+: text
  words : ∀ w, MaximalRun isWordChar w text → Operator.ofWord? w = none

theorem wordSafe_nil : WordSafe [] :=
  ⟨fun _ _ h => by simp at h, fun _ h => absurd h not_maximalRun_nil⟩

/-- What is no word character is written and read by itself. -/
theorem wordSafe_cons {c : Char} (hc : isWordChar c = false) (rest : Text) :
    WordSafe (c :: rest) ↔ WordSafe rest := by
  have hsigns : ∀ d, isWordChar d = true →
      ([d, Operator.not.symbol] <:+: c :: rest ↔ [d, Operator.not.symbol] <:+: rest) := by
    intro d hd
    refine pair_infix_cons_of_ne ?_
    rintro rfl
    rw [hd] at hc
    cases hc
  constructor
  · rintro ⟨signs, words⟩
    exact ⟨fun d hd h => signs d hd ((hsigns d hd).2 h),
      fun w h => words w ((maximalRun_cons hc).2 h)⟩
  · rintro ⟨signs, words⟩
    exact ⟨fun d hd h => signs d hd ((hsigns d hd).1 h),
      fun w h => words w ((maximalRun_cons hc).1 h)⟩

/-- Within a word there is no negation sign, so only its last character can stand before one. -/
theorem sign_infix_append {w rest : Text} (hne : w ≠ []) (hw : ∀ c ∈ w, isWordChar c = true) :
    (∃ c, isWordChar c = true ∧ [c, Operator.not.symbol] <:+: w ++ rest) ↔
      rest.head? = some Operator.not.symbol ∨
        ∃ c, isWordChar c = true ∧ [c, Operator.not.symbol] <:+: rest := by
  induction w with
  | nil => exact absurd rfl hne
  | cons d w ih =>
      have hd := hw d List.mem_cons_self
      cases w with
      | nil =>
          rw [List.singleton_append]
          constructor
          · rintro ⟨c, hc, h⟩
            rcases pair_infix_cons.1 h with ⟨-, hhead⟩ | h
            · exact Or.inl hhead
            · exact Or.inr ⟨c, hc, h⟩
          · rintro (hhead | ⟨c, hc, h⟩)
            · exact ⟨d, hd, pair_infix_cons.2 (Or.inl ⟨rfl, hhead⟩)⟩
            · exact ⟨c, hc, pair_infix_cons.2 (Or.inr h)⟩
      | cons e w =>
          have hw' : ∀ c ∈ e :: w, isWordChar c = true := fun c hc =>
            hw c (List.mem_cons_of_mem d hc)
          rw [← ih (List.cons_ne_nil e w) hw']
          refine exists_congr fun c => and_congr_right fun _ => ?_
          rw [List.cons_append, pair_infix_cons]
          refine or_iff_right ?_
          rintro ⟨-, hhead⟩
          have he := hw' e List.mem_cons_self
          exact Operator.not.symbol_ne_of_isWordChar he (Option.some.inj hhead).symm

/-- A word is safe if it is no operator word and no negation sign follows it directly. -/
theorem wordSafe_append {w rest : Text} (hne : w ≠ []) (hw : ∀ c ∈ w, isWordChar c = true)
    (hrest : rest.startsWord = false) :
    WordSafe (w ++ rest) ↔
      rest.head? ≠ some Operator.not.symbol ∧ Operator.ofWord? w = none ∧ WordSafe rest := by
  constructor
  · rintro ⟨signs, words⟩
    have hsigns : ¬ ∃ c, isWordChar c = true ∧ [c, Operator.not.symbol] <:+: w ++ rest :=
      fun ⟨c, hc, h⟩ => signs c hc h
    rw [sign_infix_append hne hw, not_or] at hsigns
    exact ⟨hsigns.1, words w ((maximalRun_append hne hw hrest).2 (Or.inl rfl)),
      fun c hc h => hsigns.2 ⟨c, hc, h⟩,
      fun u h => words u ((maximalRun_append hne hw hrest).2 (Or.inr h))⟩
  · rintro ⟨hhead, hword, signs, words⟩
    constructor
    · intro c hc h
      rcases (sign_infix_append hne hw).1 ⟨c, hc, h⟩ with hsign | ⟨d, hd, h⟩
      · exact hhead hsign
      · exact signs d hd h
    · intro u h
      rcases (maximalRun_append hne hw hrest).1 h with rfl | h
      · exact hword
      · exact words u h

/-! ### Writing and reading one piece -/

/-- A text of word characters is written as it is. -/
theorem withWords_of_isWordChar {w : Text} (hw : ∀ c ∈ w, isWordChar c = true) :
    withWords w = w := by
  induction w with
  | nil => rfl
  | cons c w ih =>
      have hc := hw c List.mem_cons_self
      rw [withWords_cons, writeWord_of_ofSymbol? (ofSymbol?_of_isWordChar hc),
        ih fun d hd => hw d (List.mem_cons_of_mem c hd), List.singleton_append]

/-- Where neither a word nor a negation sign begins, no word is made. -/
theorem startsWord_withWords {text : Text} (h : text.startsWord = false)
    (hsign : text.head? ≠ some Operator.not.symbol) : startsWord (withWords text) = false := by
  cases text with
  | nil => rfl
  | cons c rest =>
      rw [withWords_cons]
      cases hsymbol : Operator.ofSymbol? c with
      | none => rwa [writeWord_of_ofSymbol? hsymbol]
      | some o =>
          obtain rfl := Operator.ofSymbol?_eq_some_iff.1 hsymbol
          cases o with
          | not => exact absurd rfl hsign
          | binary o =>
              rw [writeWord_binary, List.cons_append, List.cons_append, startsWord_cons,
                isWordChar_of_isBlank isBlank_space]

/-- What comes back of a character that is written with words and read again: a symbol brings the
spaces with it that were put around its word. -/
def respell (c : Char) : Text :=
  match Operator.ofSymbol? c with
  | some .not => [c, ' ']
  | some _ => [' ', c, ' ']
  | none => [c]

theorem respell_of_ofSymbol? {c : Char} (h : Operator.ofSymbol? c = none) : respell c = [c] := by
  rw [respell, h]

@[simp] theorem respell_not :
    respell Operator.not.symbol = [Operator.not.symbol, ' '] := by
  rw [respell, Operator.ofSymbol?_symbol]

@[simp] theorem respell_binary (c : Connective) :
    respell (Operator.binary c).symbol = [' ', (Operator.binary c).symbol, ' '] := by
  rw [respell, Operator.ofSymbol?_symbol]

@[simp] theorem ink_respell (c : Char) : ink (respell c) = ink [c] := by
  rw [respell]
  split <;> simp [ink, List.filter_cons]

/-- A word with a space behind it is read by itself. -/
theorem withSymbols_word_space {w : Text} (hne : w ≠ []) (hw : ∀ c ∈ w, isWordChar c = true)
    (rest : Text) :
    withSymbols (w ++ ' ' :: rest) = readWord w ++ ' ' :: withSymbols rest := by
  have hspace : startsWord (' ' :: rest) = false := by
    rw [startsWord_cons, isWordChar_of_isBlank isBlank_space]
  rw [withSymbols_word hne hw hspace, withSymbols_of_isBlank isBlank_space]

/-- What is written for an operator is read as the operator if no word stands directly before. -/
theorem withSymbols_writeWord (o : Operator) (rest : Text) :
    withSymbols (writeWord o.symbol ++ rest) = respell o.symbol ++ withSymbols rest := by
  have hread : readWord o.word = [o.symbol] := by
    have table : ∀ o ∈ Operator.all, o.word.map Char.toUpper = o.word := by decide
    rw [readWord, Operator.ofWord?_eq_some_iff.2 (table o (Operator.mem_all o))]
  have hword := withSymbols_word_space o.word_ne_nil
    (fun c => Operator.isWordChar_of_mem_word) rest
  rw [hread, List.singleton_append] at hword
  cases o with
  | not =>
      rw [writeWord_not, List.append_assoc, List.singleton_append, hword, respell_not]
      rfl
  | binary c =>
      rw [writeWord_binary, List.cons_append, List.cons_append, List.append_assoc,
        List.singleton_append, withSymbols_of_isBlank isBlank_space, hword, respell_binary]
      rfl

/-- What begins neither a word nor an ASCII form comes back by itself. -/
theorem reread_cons {c : Char} {rest : Text} (hc : isWordChar c = false)
    (hascii : Operator.ofAscii? (c :: rest) = none) :
    withSymbols (withWords (c :: rest)) = respell c ++ withSymbols (withWords rest) := by
  rw [withWords_cons]
  cases hsymbol : Operator.ofSymbol? c with
  | some o =>
      obtain rfl := Operator.ofSymbol?_eq_some_iff.1 hsymbol
      exact withSymbols_writeWord o (withWords rest)
  | none =>
      have hascii' : Operator.ofAscii? (c :: withWords rest) = none :=
        ofAscii?_cons_of_marks hascii fun _ _ => prefix_of_prefix_withWords
      rw [writeWord_of_ofSymbol? hsymbol, respell_of_ofSymbol? hsymbol, List.singleton_append,
        List.singleton_append, withSymbols_cons hascii' hc]

/-- A word before which and behind which nothing runs into it is read by itself. -/
theorem reread_append {w rest : Text} (hne : w ≠ []) (hw : ∀ c ∈ w, isWordChar c = true)
    (hrest : rest.startsWord = false) (hsign : rest.head? ≠ some Operator.not.symbol) :
    withSymbols (withWords (w ++ rest)) = readWord w ++ withSymbols (withWords rest) := by
  rw [withWords_append, withWords_of_isWordChar hw,
    withSymbols_word hne hw (startsWord_withWords hrest hsign)]

/-- The word for a negation that follows a word directly is read as a part of it. -/
theorem reread_append_not {w : Text} (hne : w ≠ []) (hw : ∀ c ∈ w, isWordChar c = true)
    (rest : Text) :
    withSymbols (withWords (w ++ Operator.not.symbol :: rest)) =
      w ++ Operator.not.word ++ ' ' :: withSymbols (withWords rest) := by
  have hword : ∀ c ∈ w ++ Operator.not.word, isWordChar c = true := by
    exact List.forall_mem_append.2 ⟨hw, fun c => Operator.isWordChar_of_mem_word⟩
  have happend : withWords (w ++ Operator.not.symbol :: rest) =
      (w ++ Operator.not.word) ++ ' ' :: withWords rest := by
    rw [withWords_append, withWords_of_isWordChar hw, withWords_cons, writeWord_not]
    simp
  rw [happend, withSymbols_word_space (List.append_ne_nil_of_left_ne_nil hne _) hword,
    readWord_of_ofWord? (Operator.ofWord?_append_not hne)]

/-! ### Writing and reading a text -/

/-- A text without ASCII forms is read as it was written if and only if it is word-safe. -/
theorem ink_reread_iff {text : Text} (hfree : text.AsciiFree) :
    (withSymbols (withWords text)).ink = text.ink ↔ text.WordSafe := by
  induction text using induction_spelling with
  | nil => simp [wordSafe_nil]
  | ascii o rest ih => exact absurd (List.prefix_append _ _).isInfix (hfree o)
  | word w rest hne hw hrest ih =>
      rw [wordSafe_append hne hw hrest, ← ih hfree.of_append, ink_append]
      by_cases hsign : rest.head? = some Operator.not.symbol
      · -- The word for the negation runs into `w`, and a letter stands against the sign.
        obtain ⟨rest, rfl⟩ : ∃ tail, rest = Operator.not.symbol :: tail := by
          cases rest with
          | nil => cases hsign
          | cons c rest => exact ⟨rest, by rw [Option.some.inj hsign]⟩
        have hnot : ink Operator.not.word = Operator.not.word := by decide
        rw [reread_append_not hne hw, List.append_assoc, ink_append, List.append_cancel_left_eq,
          ink_cons_of_not_isBlank (Operator.isBlank_symbol .not), ink_append, hnot]
        simp [Operator.word, Operator.symbol]
      · rw [reread_append hne hw hrest hsign, ink_append]
        rcases readWord_cases w with ⟨o, hword, hread⟩ | ⟨hword, hread⟩
        · -- `w` is an operator word, and its symbol stands against a letter.
          obtain ⟨c, w, rfl⟩ := List.exists_cons_of_ne_nil hne
          have hc := hw c List.mem_cons_self
          have hne := o.symbol_ne_of_isWordChar hc
          rw [hread, ink_cons_of_not_isBlank o.isBlank_symbol,
            ink_cons_of_not_isBlank (isBlank_of_isWordChar hc)]
          simp [hne, hword]
        · -- Both begin with `w`, so the rest decides.
          rw [hread, List.append_cancel_left_eq]
          simp [hsign, hword]
  | other c rest hc hascii ih =>
      have hink : ink (c :: rest) = ink [c] ++ ink rest := ink_append [c] rest
      rw [reread_cons hc hascii, ink_append, ink_respell, wordSafe_cons hc, ← ih hfree.of_cons,
        hink, List.append_cancel_left_eq]

end Text

end Propositional
