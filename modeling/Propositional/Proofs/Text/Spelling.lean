import Mathlib.Data.List.TakeWhile
import Propositional.Text.Spelling
/-!
# Propositional.Proofs.Text.Spelling

How a text in the word notation is read.

A text is an ASCII form, a whole word or a single character, followed by a text, and reading treats
the three one after the other (`withSymbols_ascii`, `withSymbols_word`, `withSymbols_cons`). Proofs
about reading go by the same three cases (`Text.induction_spelling`).

The characters of the ASCII forms are **marks**. They are no blanks, no word characters and no
symbols, so neither reading nor writing makes an ASCII form where there was none: marks that stand
together in the result stood together before.
-/

namespace Propositional

/-! ### Characters of spellings -/

/-- Whether an ASCII form contains the character. -/
def isMark (c : Char) : Bool := Operator.all.any fun o => o.ascii.contains c

theorem isMark_iff {c : Char} : isMark c = true ↔ ∃ o : Operator, c ∈ o.ascii := by
  simp [isMark]

/-- A mark separates nothing, continues no word and writes no operator by itself. -/
theorem plain_of_isMark {c : Char} (h : isMark c = true) :
    isBlank c = false ∧ isWordChar c = false ∧ Operator.ofSymbol? c = none := by
  have table : ∀ o ∈ Operator.all, o.ascii.all (fun c =>
      !isBlank c && !isWordChar c && (Operator.ofSymbol? c).isNone) = true := by
    decide +kernel
  obtain ⟨o, ho⟩ := isMark_iff.1 h
  simpa [and_assoc] using List.all_eq_true.1 (table o (Operator.mem_all o)) c ho

namespace Operator

@[simp] theorem isWordChar_symbol (o : Operator) : isWordChar o.symbol = false := by
  have table : ∀ o ∈ all, isWordChar o.symbol = false := by decide +kernel
  exact table o (mem_all o)

theorem isMark_symbol (o : Operator) : isMark o.symbol = false := by
  refine Bool.eq_false_iff.2 fun h => ?_
  have hnone := (plain_of_isMark h).2.2
  rw [ofSymbol?_symbol] at hnone
  cases hnone

theorem isWordChar_of_mem_word {o : Operator} {c : Char} (h : c ∈ o.word) :
    isWordChar c = true := by
  have table : ∀ o ∈ all, o.word.all Char.isAlphanum = true := by decide
  exact isWordChar_of_isAlphanum (List.all_eq_true.1 (table o (mem_all o)) c h)

theorem word_ne_nil (o : Operator) : o.word ≠ [] := by
  have table : ∀ o ∈ all, o.word ≠ [] := by decide
  exact table o (mem_all o)

theorem ofWord?_eq_some_iff {w : Text} {o : Operator} :
    ofWord? w = some o ↔ w.map Char.toUpper = o.word := by
  constructor
  · intro h
    have hword : o.word = w.map Char.toUpper := by simpa using List.find?_some h
    exact hword.symm
  · intro h
    rw [ofWord?, h]
    have table : ∀ o ∈ all, all.find? (·.word == o.word) = some o := by decide
    exact table o (mem_all o)

theorem ofAscii?_eq_some_iff {text : Text} {o : Operator} :
    ofAscii? text = some o ↔ o.ascii <+: text := by
  constructor
  · intro h
    simpa using List.find?_some h
  · intro h
    obtain ⟨rest, rfl⟩ := h
    cases o with
    | not => rfl
    | binary c => cases c <;> rfl

theorem ofAscii?_eq_none_iff {text : Text} :
    ofAscii? text = none ↔ ∀ o : Operator, ¬ o.ascii <+: text := by
  rw [Option.eq_none_iff_forall_ne_some]
  exact forall_congr' fun o => not_congr ofAscii?_eq_some_iff

theorem isMark_of_mem_ascii {o : Operator} {c : Char} (h : c ∈ o.ascii) : isMark c = true :=
  isMark_iff.2 ⟨o, h⟩

theorem ascii_ne_nil (o : Operator) : o.ascii ≠ [] :=
  List.ne_nil_of_length_pos o.ascii_length_pos

/-- An ASCII form begins with a mark. -/
theorem ofAscii?_of_not_isMark {c : Char} (h : isMark c = false) (rest : Text) :
    ofAscii? (c :: rest) = none := by
  rw [ofAscii?_eq_none_iff]
  intro o hbegins
  obtain ⟨d, ds, hascii⟩ := List.exists_cons_of_ne_nil o.ascii_ne_nil
  rw [hascii, List.cons_prefix_cons] at hbegins
  have hmark : isMark d = true := isMark_of_mem_ascii (hascii ▸ List.mem_cons_self)
  rw [hbegins.1, h] at hmark
  cases hmark

end Operator

theorem isWordChar_of_isLower {c : Char} (h : c.isLower = true) : isWordChar c = true := by
  have hclass : ((c.isUpper || c.isLower) || c.isDigit) = true := by simp [h]
  exact isWordChar_of_isAlphanum hclass

theorem isMark_of_isWordChar {c : Char} (h : isWordChar c = true) : isMark c = false := by
  refine Bool.eq_false_iff.2 fun hm => ?_
  rw [(plain_of_isMark hm).2.1] at h
  cases h

theorem isMark_of_isBlank {c : Char} (h : isBlank c = true) : isMark c = false := by
  refine Bool.eq_false_iff.2 fun hm => ?_
  rw [(plain_of_isMark hm).1] at h
  cases h

/-- A word character is no symbol. -/
theorem Operator.symbol_ne_of_isWordChar (o : Operator) {c : Char} (h : isWordChar c = true) :
    o.symbol ≠ c := by
  rintro rfl
  rw [o.isWordChar_symbol] at h
  cases h

theorem ofSymbol?_of_isWordChar {c : Char} (h : isWordChar c = true) :
    Operator.ofSymbol? c = none :=
  Option.eq_none_iff_forall_ne_some.2 fun o ho =>
    o.symbol_ne_of_isWordChar h (Operator.ofSymbol?_eq_some_iff.1 ho)

namespace Text

/-! ### Reading piece by piece -/

/-- Whether a text begins with a word character. -/
def startsWord (text : Text) : Bool := text.head?.any isWordChar

/-- Whether a text ends with a word character. -/
def endsWord (text : Text) : Bool := text.getLast?.any isWordChar

@[simp] theorem startsWord_nil : startsWord [] = false := rfl

@[simp] theorem startsWord_cons (c : Char) (rest : Text) :
    startsWord (c :: rest) = isWordChar c := rfl

theorem startsWord_append {a : Text} (h : a ≠ []) (b : Text) :
    startsWord (a ++ b) = startsWord a := by
  obtain ⟨c, cs, rfl⟩ := List.exists_cons_of_ne_nil h
  rfl

/-- No word begins with a blank. -/
theorem startsWord_of_blank {gap : Text} (hgap : ∀ c ∈ gap, isBlank c = true) :
    startsWord gap = false := by
  cases gap with
  | nil => rfl
  | cons c gap => exact isWordChar_of_isBlank (hgap c List.mem_cons_self)

/-- A run of a class of characters is taken whole if what follows is not of the class. -/
theorem takeWhile_run {p : Char → Bool} {w rest : Text} (hw : ∀ c ∈ w, p c = true)
    (hrest : rest.head?.any p = false) : (w ++ rest).takeWhile p = w := by
  rw [List.takeWhile_append_of_pos hw]
  cases rest with
  | nil => simp
  | cons c rest => simp [List.takeWhile_cons_of_neg, show p c = false from hrest]

theorem dropWhile_run {p : Char → Bool} {w rest : Text} (hw : ∀ c ∈ w, p c = true)
    (hrest : rest.head?.any p = false) : (w ++ rest).dropWhile p = rest := by
  rw [List.dropWhile_append_of_pos hw]
  cases rest with
  | nil => rfl
  | cons c rest => simp [List.dropWhile_cons_of_neg, show p c = false from hrest]

/-- What ends with characters of a class ends with one of the class. -/
theorem any_getLast?_of_forall {p : Char → Bool} {w : Text} (hne : w ≠ [])
    (hw : ∀ c ∈ w, p c = true) : w.getLast?.any p = true := by
  rw [List.getLast?_eq_some_getLast hne]
  exact hw _ (List.getLast_mem hne)

theorem startsWord_dropWhile (text : Text) : startsWord (text.dropWhile isWordChar) = false := by
  cases h : text.dropWhile isWordChar with
  | nil => rfl
  | cons c rest => simpa [h] using List.head?_dropWhile_not isWordChar text

/-- An ASCII form is read as its symbol. -/
theorem withSymbols_ascii (o : Operator) (rest : Text) :
    withSymbols (o.ascii ++ rest) = o.symbol :: withSymbols rest := by
  obtain ⟨c, cs, hascii⟩ := List.exists_cons_of_ne_nil o.ascii_ne_nil
  have hread : Operator.ofAscii? (c :: (cs ++ rest)) = some o := by
    rw [Operator.ofAscii?_eq_some_iff, ← List.cons_append, ← hascii]
    exact List.prefix_append _ _
  rw [hascii, List.cons_append, withSymbols]
  simp only [hread]
  rw [hascii]
  simp

/-- A character that begins no ASCII form and no word is copied. -/
theorem withSymbols_cons {c : Char} {rest : Text} (hascii : Operator.ofAscii? (c :: rest) = none)
    (hc : isWordChar c = false) : withSymbols (c :: rest) = c :: withSymbols rest := by
  rw [withSymbols]
  simp [hascii, hc]

theorem ink_eq_nil_iff {text : Text} : text.ink = [] ↔ ∀ c ∈ text, isBlank c = true := by
  simp [ink]

theorem ink_of_blank {gap : Text} (hgap : ∀ c ∈ gap, isBlank c = true) : gap.ink = [] :=
  ink_eq_nil_iff.2 hgap

/-- A blank is copied. -/
theorem withSymbols_of_isBlank {c : Char} (h : isBlank c = true) (rest : Text) :
    withSymbols (c :: rest) = c :: withSymbols rest :=
  withSymbols_cons (Operator.ofAscii?_of_not_isMark (isMark_of_isBlank h) rest)
    (isWordChar_of_isBlank h)

theorem withSymbols_append_of_blank {gap : Text} (hgap : ∀ c ∈ gap, isBlank c = true)
    (rest : Text) : withSymbols (gap ++ rest) = gap ++ withSymbols rest := by
  induction gap with
  | nil => rfl
  | cons c gap ih =>
      rw [List.cons_append, withSymbols_of_isBlank (hgap c List.mem_cons_self),
        ih fun d hd => hgap d (List.mem_cons_of_mem c hd), List.cons_append]

/-- A symbol is copied. -/
theorem withSymbols_symbol_cons (o : Operator) (rest : Text) :
    withSymbols (o.symbol :: rest) = o.symbol :: withSymbols rest :=
  withSymbols_cons (Operator.ofAscii?_of_not_isMark o.isMark_symbol rest) o.isWordChar_symbol

/-- A whole word is read as one. -/
theorem withSymbols_word {w rest : Text} (hne : w ≠ []) (hw : ∀ c ∈ w, isWordChar c = true)
    (hrest : rest.startsWord = false) :
    withSymbols (w ++ rest) = readWord w ++ withSymbols rest := by
  obtain ⟨c, cs, rfl⟩ := List.exists_cons_of_ne_nil hne
  have hc : isWordChar c = true := hw c List.mem_cons_self
  have hcs : ∀ d ∈ cs, isWordChar d = true := fun d hd => hw d (List.mem_cons_of_mem c hd)
  rw [List.cons_append, withSymbols]
  simp only [Operator.ofAscii?_of_not_isMark (isMark_of_isWordChar hc), hc, if_true,
    takeWhile_run hcs hrest, dropWhile_run hcs hrest]

/-- Induction over a text as it is read. -/
theorem induction_spelling {motive : Text → Prop} (nil : motive [])
    (ascii : ∀ (o : Operator) rest, motive rest → motive (o.ascii ++ rest))
    (word : ∀ w rest, w ≠ [] → (∀ c ∈ w, isWordChar c = true) → startsWord rest = false →
      motive rest → motive (w ++ rest))
    (other : ∀ c rest, isWordChar c = false → Operator.ofAscii? (c :: rest) = none →
      motive rest → motive (c :: rest))
    (text : Text) : motive text := by
  fun_induction withSymbols text with
  | case1 => exact nil
  | case2 c rest o ho ih =>
      obtain ⟨tail, htail⟩ := Operator.ofAscii?_eq_some_iff.1 ho
      rw [← htail] at ih ⊢
      rw [List.drop_left] at ih
      exact ascii o tail ih
  | case3 c rest hnone hc ih =>
      have hrest : c :: rest = (c :: rest.takeWhile isWordChar) ++ rest.dropWhile isWordChar := by
        rw [List.cons_append, List.takeWhile_append_dropWhile]
      rw [hrest]
      refine word _ _ (List.cons_ne_nil _ _) ?_ (startsWord_dropWhile rest) ih
      intro d hd
      rcases List.mem_cons.1 hd with rfl | hd
      · exact hc
      · exact List.mem_takeWhile_imp hd
  | case4 c rest hnone hc ih => exact other c rest (by simpa using hc) hnone ih

/-- Where no word begins, none is made. -/
theorem startsWord_withSymbols {text : Text} (h : text.startsWord = false) :
    startsWord (withSymbols text) = false := by
  induction text using induction_spelling with
  | nil => rw [withSymbols_nil, startsWord_nil]
  | ascii o rest ih => rw [withSymbols_ascii, startsWord_cons, Operator.isWordChar_symbol]
  | word w rest hne hw hrest ih =>
      obtain ⟨c, cs, rfl⟩ := List.exists_cons_of_ne_nil hne
      rw [List.cons_append, startsWord_cons, hw c List.mem_cons_self] at h
      cases h
  | other c rest hc hascii ih => rw [withSymbols_cons hascii hc, startsWord_cons, hc]

/-- A word that is no operator stays as it is. -/
theorem readWord_of_ofWord? {w : Text} (h : Operator.ofWord? w = none) : readWord w = w := by
  rw [readWord, h]

/-- A word is read as one symbol or as itself. -/
theorem readWord_cases (w : Text) :
    (∃ o, Operator.ofWord? w = some o ∧ readWord w = [o.symbol]) ∨
      (Operator.ofWord? w = none ∧ readWord w = w) := by
  cases h : Operator.ofWord? w with
  | none => exact Or.inr ⟨rfl, readWord_of_ofWord? h⟩
  | some o => exact Or.inl ⟨o, rfl, by rw [readWord, h]⟩

/-- A character that no spelling of an operator contains is kept. -/
theorem mem_withSymbols {c : Char} (hmark : isMark c = false) (hword : isWordChar c = false)
    {text : Text} (h : c ∈ text) : c ∈ withSymbols text := by
  induction text using induction_spelling with
  | nil => cases h
  | ascii o rest ih =>
      rcases List.mem_append.1 h with hascii | hrest
      · rw [Operator.isMark_of_mem_ascii hascii] at hmark
        cases hmark
      · rw [withSymbols_ascii]
        exact List.mem_cons_of_mem _ (ih hrest)
  | word w rest hne hw hstart ih =>
      rcases List.mem_append.1 h with hc | hrest
      · rw [hw c hc] at hword
        cases hword
      · rw [withSymbols_word hne hw hstart]
        exact List.mem_append_right _ (ih hrest)
  | other d rest hd hascii ih =>
      rw [withSymbols_cons hascii hd]
      rcases List.mem_cons.1 h with rfl | hrest
      · exact List.mem_cons_self
      · exact List.mem_cons_of_mem _ (ih hrest)

/-! ### ASCII forms in the result -/

/-- If marks begin `b` only where they begin `a`, an ASCII form that begins with the character
before `b` begins with it before `a`. -/
theorem ofAscii?_cons_of_marks {c : Char} {a b : Text} (h : Operator.ofAscii? (c :: a) = none)
    (hmarks : isMark c = true → ∀ marks : Text, (∀ d ∈ marks, isMark d = true) →
      marks <+: b → marks <+: a) :
    Operator.ofAscii? (c :: b) = none := by
  rw [Operator.ofAscii?_eq_none_iff] at h ⊢
  intro o hbegins
  obtain ⟨d, marks, ho⟩ := List.exists_cons_of_ne_nil o.ascii_ne_nil
  rw [ho] at hbegins
  obtain ⟨rfl, htail⟩ := List.cons_prefix_cons.1 hbegins
  have hall : ∀ e ∈ d :: marks, isMark e = true := fun e he =>
    Operator.isMark_of_mem_ascii (ho ▸ he)
  refine h o (ho ▸ List.cons_prefix_cons.2 ⟨rfl, ?_⟩)
  exact hmarks (hall d List.mem_cons_self) marks (fun e he => hall e (List.mem_cons_of_mem d he))
    htail

/-- Nowhere in the text there is an ASCII form. -/
def AsciiFree (text : Text) : Prop := ∀ o : Operator, ¬ o.ascii <:+: text

theorem AsciiFree.of_append {a b : Text} (h : (a ++ b).AsciiFree) : b.AsciiFree :=
  fun o ho => h o (ho.trans (List.suffix_append a b).isInfix)

theorem AsciiFree.of_cons {c : Char} {rest : Text} (h : AsciiFree (c :: rest)) : rest.AsciiFree :=
  AsciiFree.of_append (a := [c]) h

/-- An ASCII form cannot begin before what is no mark. -/
theorem ascii_infix_of_append {o : Operator} {a b : Text} (ha : ∀ c ∈ a, isMark c = false)
    (h : o.ascii <:+: a ++ b) : o.ascii <:+: b := by
  induction a with
  | nil => exact h
  | cons c a ih =>
      rcases List.infix_cons_iff.1 h with hbegins | hinfix
      · have hnone := Operator.ofAscii?_of_not_isMark (ha c List.mem_cons_self) (a ++ b)
        exact absurd hbegins (Operator.ofAscii?_eq_none_iff.1 hnone o)
      · exact ih (fun d hd => ha d (List.mem_cons_of_mem c hd)) hinfix

theorem isMark_of_mem_readWord {w : Text} (hw : ∀ c ∈ w, isWordChar c = true) :
    ∀ c ∈ readWord w, isMark c = false := by
  rcases readWord_cases w with ⟨o, -, hread⟩ | ⟨-, hread⟩
  · intro c hc
    rw [hread, List.mem_singleton] at hc
    rw [hc, Operator.isMark_symbol]
  · intro c hc
    exact isMark_of_isWordChar (hw c (hread ▸ hc))

/-- A word and a symbol hold together. -/
theorem isBlank_of_mem_readWord {w : Text} (hw : ∀ c ∈ w, isWordChar c = true) :
    ∀ c ∈ readWord w, isBlank c = false := by
  rcases readWord_cases w with ⟨o, -, hread⟩ | ⟨-, hread⟩
  · rw [hread]
    simp
  · intro c hc
    exact isBlank_of_isWordChar (hw c (hread ▸ hc))

theorem readWord_ne_nil {w : Text} (hne : w ≠ []) : readWord w ≠ [] := by
  rcases readWord_cases w with ⟨o, -, hread⟩ | ⟨-, hread⟩
  · simp [hread]
  · rwa [hread]

/-- Marks are no beginning of what begins otherwise. -/
theorem marks_eq_nil_of_prefix_append {marks a b : Text} (hmarks : ∀ c ∈ marks, isMark c = true)
    (hne : a ≠ []) (ha : ∀ c ∈ a, isMark c = false) (h : marks <+: a ++ b) : marks = [] := by
  cases marks with
  | nil => rfl
  | cons c marks =>
      obtain ⟨d, a, rfl⟩ := List.exists_cons_of_ne_nil hne
      rw [List.cons_append, List.cons_prefix_cons] at h
      have hmark := hmarks c List.mem_cons_self
      rw [h.1, ha d List.mem_cons_self] at hmark
      cases hmark

/-- Marks that begin the reading of a text begin the text. -/
theorem prefix_of_prefix_withSymbols {marks text : Text} (hmarks : ∀ c ∈ marks, isMark c = true)
    (h : marks <+: withSymbols text) : marks <+: text := by
  induction text using induction_spelling generalizing marks with
  | nil => simpa using h
  | ascii o rest ih =>
      have hsymbol : ∀ c ∈ [o.symbol], isMark c = false := by simp [Operator.isMark_symbol]
      rw [withSymbols_ascii] at h
      rw [marks_eq_nil_of_prefix_append hmarks (List.cons_ne_nil _ []) hsymbol h]
      exact List.nil_prefix
  | word w rest hne hw hrest ih =>
      rw [withSymbols_word hne hw hrest] at h
      rw [marks_eq_nil_of_prefix_append hmarks (readWord_ne_nil hne) (isMark_of_mem_readWord hw) h]
      exact List.nil_prefix
  | other c rest hc hascii ih =>
      cases marks with
      | nil => exact List.nil_prefix
      | cons d marks =>
          rw [withSymbols_cons hascii hc, List.cons_prefix_cons] at h
          rw [List.cons_prefix_cons]
          exact ⟨h.1, ih (fun e he => hmarks e (List.mem_cons_of_mem d he)) h.2⟩

/-- Reading leaves no ASCII form. -/
theorem asciiFree_withSymbols (text : Text) : (withSymbols text).AsciiFree := by
  intro o h
  induction text using induction_spelling with
  | nil => simp [o.ascii_ne_nil] at h
  | ascii o' rest ih =>
      rw [withSymbols_ascii] at h
      have hsymbol : ∀ c ∈ [o'.symbol], isMark c = false := by simp [Operator.isMark_symbol]
      exact ih (ascii_infix_of_append hsymbol h)
  | word w rest hne hw hrest ih =>
      rw [withSymbols_word hne hw hrest] at h
      exact ih (ascii_infix_of_append (isMark_of_mem_readWord hw) h)
  | other c rest hc hascii ih =>
      rw [withSymbols_cons hascii hc] at h
      rcases List.infix_cons_iff.1 h with hbegins | hinfix
      · have hnone := ofAscii?_cons_of_marks hascii fun _ _ => prefix_of_prefix_withSymbols
        exact Operator.ofAscii?_eq_none_iff.1 hnone o hbegins
      · exact ih hinfix

/-- What has been read is read as it is. -/
@[simp] theorem withSymbols_withSymbols (text : Text) :
    withSymbols (withSymbols text) = withSymbols text := by
  induction text using induction_spelling with
  | nil => simp
  | ascii o rest ih =>
      rw [withSymbols_ascii, withSymbols_symbol_cons, ih]
  | word w rest hne hw hrest ih =>
      rw [withSymbols_word hne hw hrest]
      rcases readWord_cases w with ⟨o, -, hread⟩ | ⟨-, hread⟩
      · rw [hread, List.singleton_append, withSymbols_symbol_cons, ih]
      · rw [hread, withSymbols_word hne hw (startsWord_withSymbols hrest), hread, ih]
  | other c rest hc hascii ih =>
      have hascii' := ofAscii?_cons_of_marks hascii fun _ _ => prefix_of_prefix_withSymbols
      rw [withSymbols_cons hascii hc, withSymbols_cons hascii' hc, ih]

/-! ### Writing character by character -/

@[simp] theorem withWords_cons (c : Char) (rest : Text) :
    withWords (c :: rest) = writeWord c ++ withWords rest := rfl

theorem writeWord_of_ofSymbol? {c : Char} (h : Operator.ofSymbol? c = none) :
    writeWord c = [c] := by
  rw [writeWord, h]

theorem writeWord_of_isBlank {c : Char} (h : isBlank c = true) : writeWord c = [c] := by
  refine writeWord_of_ofSymbol? (Option.eq_none_iff_forall_ne_some.2 fun o ho => ?_)
  rw [← Operator.ofSymbol?_eq_some_iff.1 ho, Operator.isBlank_symbol] at h
  cases h

theorem writeWord_not : writeWord Operator.not.symbol = Operator.not.word ++ [' '] := by
  rw [writeWord, Operator.ofSymbol?_symbol]

theorem writeWord_binary (c : Connective) :
    writeWord (Operator.binary c).symbol = ' ' :: (Operator.binary c).word ++ [' '] := by
  rw [writeWord, Operator.ofSymbol?_symbol]

/-- An operator is written with word characters and spaces. -/
theorem mem_writeWord_symbol {o : Operator} {c : Char} (h : c ∈ writeWord o.symbol) :
    c = ' ' ∨ isWordChar c = true := by
  cases o with
  | not =>
      rw [writeWord_not, List.mem_append, List.mem_singleton] at h
      exact h.symm.imp_right Operator.isWordChar_of_mem_word
  | binary o =>
      rw [writeWord_binary, List.mem_append, List.mem_cons, List.mem_singleton, or_assoc] at h
      rcases h with hspace | hword | hspace
      · exact Or.inl hspace
      · exact Or.inr (Operator.isWordChar_of_mem_word hword)
      · exact Or.inl hspace

theorem writeWord_symbol_ne_nil (o : Operator) : writeWord o.symbol ≠ [] := by
  cases o with
  | not => simp [writeWord_not]
  | binary o => simp [writeWord_binary]

theorem isMark_of_mem_writeWord_symbol {o : Operator} {c : Char} (h : c ∈ writeWord o.symbol) :
    isMark c = false := by
  rcases mem_writeWord_symbol h with hspace | hword
  · rw [hspace, isMark_of_isBlank isBlank_space]
  · exact isMark_of_isWordChar hword

/-- Marks that begin the writing of a text begin the text. -/
theorem prefix_of_prefix_withWords {marks text : Text} (hmarks : ∀ c ∈ marks, isMark c = true)
    (h : marks <+: withWords text) : marks <+: text := by
  induction text generalizing marks with
  | nil => simpa using h
  | cons c rest ih =>
      rw [withWords_cons] at h
      cases hc : Operator.ofSymbol? c with
      | some o =>
          obtain rfl := Operator.ofSymbol?_eq_some_iff.1 hc
          rw [marks_eq_nil_of_prefix_append hmarks (writeWord_symbol_ne_nil o)
            (fun _ => isMark_of_mem_writeWord_symbol) h]
          exact List.nil_prefix
      | none =>
          rw [writeWord_of_ofSymbol? hc] at h
          cases marks with
          | nil => exact List.nil_prefix
          | cons d marks =>
              obtain ⟨hd, htail⟩ := List.cons_prefix_cons.1 h
              rw [List.cons_prefix_cons]
              exact ⟨hd, ih (fun e he => hmarks e (List.mem_cons_of_mem d he)) htail⟩

end Text

end Propositional
