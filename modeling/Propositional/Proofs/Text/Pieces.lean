import Propositional.Proofs.Text.Spelling
/-!
# Propositional.Proofs.Text.Pieces

Reading a text in pieces.

A text can be cut where neither a word nor an ASCII form reaches across, and then its pieces can be
read one by one (`withSymbols_append`). Nothing reaches across the ends of a whole word, because a
mark is no word character. So a word is read by itself wherever it stands, and what is left are the
texts without words, in which the ASCII forms are replaced from left to right (`Text.Replaced`).
-/

namespace Propositional.Text

/-! ### Where a text can be cut -/

/-- Marks that begin a text do not reach into a part that begins with none. -/
theorem prefix_of_prefix_append {marks a b : Text} (hmarks : ∀ c ∈ marks, isMark c = true)
    (hb : b.head?.any isMark = false) (h : marks <+: a ++ b) : marks <+: a := by
  induction a generalizing marks with
  | nil =>
      cases b with
      | nil => exact h
      | cons c b =>
          have hc : ∀ d ∈ [c], isMark d = false := by simpa using hb
          exact List.prefix_nil.2
            (marks_eq_nil_of_prefix_append hmarks (List.cons_ne_nil c []) hc h)
  | cons c a ih =>
      cases marks with
      | nil => exact List.nil_prefix
      | cons d marks =>
          obtain ⟨hd, htail⟩ := List.cons_prefix_cons.1 h
          exact List.cons_prefix_cons.2
            ⟨hd, ih (fun e he => hmarks e (List.mem_cons_of_mem d he)) htail⟩

theorem endsWord_of_append {a b : Text} (h : (a ++ b).endsWord = false) : b.endsWord = false := by
  rw [endsWord, List.getLast?_append] at h
  rw [endsWord]
  cases hlast : b.getLast? with
  | none => rfl
  | some c => rwa [hlast, Option.some_or] at h

/-- A text is read in two parts if no word ends the first and no mark begins the second. -/
theorem withSymbols_append {a b : Text} (ha : a.endsWord = false)
    (hb : b.head?.any isMark = false) :
    withSymbols (a ++ b) = withSymbols a ++ withSymbols b := by
  induction a using induction_spelling with
  | nil => rw [withSymbols_nil, List.nil_append, List.nil_append]
  | ascii o rest ih =>
      rw [List.append_assoc, withSymbols_ascii, withSymbols_ascii, ih (endsWord_of_append ha),
        List.cons_append]
  | word w rest hne hw hrest ih =>
      have hnil : rest ≠ [] := by
        rintro rfl
        rw [List.append_nil, endsWord, any_getLast?_of_forall hne hw] at ha
        cases ha
      have hrest' : startsWord (rest ++ b) = false := by rw [startsWord_append hnil, hrest]
      rw [List.append_assoc, withSymbols_word hne hw hrest', withSymbols_word hne hw hrest,
        ih (endsWord_of_append ha), List.append_assoc]
  | other c rest hc hascii ih =>
      have hascii' : Operator.ofAscii? (c :: (rest ++ b)) = none :=
        ofAscii?_cons_of_marks hascii fun _ _ hmarks => prefix_of_prefix_append hmarks hb
      rw [List.cons_append, withSymbols_cons hascii' hc, withSymbols_cons hascii hc,
        ih (endsWord_of_append (a := [c]) ha), List.cons_append]

/-- A word is read by itself wherever it stands, if it is whole. -/
theorem withSymbols_append_word {u w v : Text} (hne : w ≠ []) (hw : ∀ c ∈ w, isWordChar c = true)
    (hu : u.endsWord = false) (hv : v.startsWord = false) :
    withSymbols (u ++ w ++ v) = withSymbols u ++ readWord w ++ withSymbols v := by
  have hmark : (w ++ v).head?.any isMark = false := by
    obtain ⟨c, w, rfl⟩ := List.exists_cons_of_ne_nil hne
    exact isMark_of_isWordChar (hw c List.mem_cons_self)
  rw [List.append_assoc, withSymbols_append hu hmark, withSymbols_word hne hw hv,
    List.append_assoc]

/-! ### Texts without words -/

/-- The ASCII forms of a text are replaced from left to right. A form is passed as one. Where none
begins, one character is copied, and the next may begin one. -/
inductive Replaced : Text → Text → Prop where
  | nil : Replaced [] []
  | ascii (o : Operator) {rest out : Text} (h : Replaced rest out) :
      Replaced (o.ascii ++ rest) (o.symbol :: out)
  | other {c : Char} {rest out : Text} (hascii : ∀ o : Operator, ¬ o.ascii <+: c :: rest)
      (h : Replaced rest out) : Replaced (c :: rest) (c :: out)

theorem replaced_withSymbols {text : Text} (hwords : ∀ c ∈ text, isWordChar c = false) :
    Replaced text (withSymbols text) := by
  induction text using induction_spelling with
  | nil =>
      rw [withSymbols_nil]
      exact .nil
  | ascii o rest ih =>
      rw [withSymbols_ascii]
      exact .ascii o (ih fun c hc => hwords c (List.mem_append_right _ hc))
  | word w rest hne hw hrest ih =>
      obtain ⟨c, w, rfl⟩ := List.exists_cons_of_ne_nil hne
      have hc := hwords c (List.mem_append_left _ List.mem_cons_self)
      rw [hw c List.mem_cons_self] at hc
      cases hc
  | other c rest hc hascii ih =>
      rw [withSymbols_cons hascii hc]
      exact .other (Operator.ofAscii?_eq_none_iff.1 hascii)
        (ih fun d hd => hwords d (List.mem_cons_of_mem c hd))

theorem withSymbols_of_replaced {text out : Text} (hwords : ∀ c ∈ text, isWordChar c = false)
    (h : Replaced text out) : withSymbols text = out := by
  induction h with
  | nil => exact withSymbols_nil
  | ascii o h ih =>
      rw [withSymbols_ascii, ih fun c hc => hwords c (List.mem_append_right _ hc)]
  | @other c rest out hascii h ih =>
      rw [withSymbols_cons (Operator.ofAscii?_eq_none_iff.2 hascii)
        (hwords c List.mem_cons_self), ih fun d hd => hwords d (List.mem_cons_of_mem c hd)]

/-- A whole word is read by itself, as the symbol of the operator that it spells in whatever letter
case or else as it is, and what stands on either side is read as if it stood alone. In a text
without words the ASCII forms are replaced, and nothing else. -/
theorem withSymbols_pieces :
    (∀ u w v : Text, w ≠ [] → (∀ c ∈ w, isWordChar c = true) →
      u.endsWord = false → v.startsWord = false →
      (∀ o : Operator, w.map Char.toUpper = o.word →
        withSymbols (u ++ w ++ v) = withSymbols u ++ [o.symbol] ++ withSymbols v) ∧
      ((∀ o : Operator, w.map Char.toUpper ≠ o.word) →
        withSymbols (u ++ w ++ v) = withSymbols u ++ w ++ withSymbols v)) ∧
    ∀ text : Text, (∀ c ∈ text, isWordChar c = false) →
      ∀ out, withSymbols text = out ↔ Replaced text out := by
  constructor
  · intro u w v hne hw hu hv
    rw [withSymbols_append_word hne hw hu hv]
    constructor
    · intro o ho
      rw [readWord, Operator.ofWord?_eq_some_iff.2 ho]
    · intro hnone
      have hword : Operator.ofWord? w = none :=
        Option.eq_none_iff_forall_ne_some.2 fun o => mt Operator.ofWord?_eq_some_iff.1 (hnone o)
      rw [readWord_of_ofWord? hword]
  · intro text hwords out
    constructor
    · rintro rfl
      exact replaced_withSymbols hwords
    · exact withSymbols_of_replaced hwords

/-- In `=&aNd>&&&` and `=&andy>&&&` the word is read by itself, although what stands before it ends
with the beginnings of two forms and what stands behind it begins with the end of one. In `<==>` no
form begins at the first or the second character, and one at the third. -/
theorem withSymbols_pieces_adjoining :
    let u : Text := ['=', '&']
    let v : Text := ['>', '&', '&', '&']
    withSymbols (u ++ ['a', 'N', 'd'] ++ v) = withSymbols u ++ ['∧'] ++ withSymbols v ∧
      withSymbols (u ++ ['a', 'n', 'd', 'y'] ++ v) =
        withSymbols u ++ ['a', 'n', 'd', 'y'] ++ withSymbols v ∧
      withSymbols ['<', '=', '=', '>'] = ['<', '=', '→'] := by
  intro u v
  obtain ⟨hwords, hforms⟩ := withSymbols_pieces
  have hletters : ∀ w : Text, w.all Char.isAlphanum = true → ∀ c ∈ w, isWordChar c = true :=
    fun w hw c hc => isWordChar_of_isAlphanum (List.all_eq_true.1 hw c hc)
  have hmarks : ∀ w : Text, w.all isMark = true → ∀ c ∈ w, isWordChar c = false :=
    fun w hw c hc => (plain_of_isMark (List.all_eq_true.1 hw c hc)).2.1
  have hu : u.endsWord = false := by
    simpa [u, endsWord] using hmarks u (by decide) '&'
  have hv : v.startsWord = false := by
    simpa [v] using hmarks v (by decide) '>'
  refine ⟨?_, ?_, ?_⟩
  · exact (hwords u _ v (by simp) (hletters _ (by decide)) hu hv).1 (.binary .and) (by decide)
  · have hnone : ∀ o ∈ Operator.all, ['a', 'n', 'd', 'y'].map Char.toUpper ≠ o.word := by decide
    exact (hwords u _ v (by simp) (hletters _ (by decide)) hu hv).2 fun o =>
      hnone o (Operator.mem_all o)
  · have hfirst := Operator.ofAscii?_eq_none_iff.1
      (show Operator.ofAscii? ['<', '=', '=', '>'] = none by decide)
    have hsecond := Operator.ofAscii?_eq_none_iff.1
      (show Operator.ofAscii? ['=', '=', '>'] = none by decide)
    refine (hforms _ (hmarks _ (by decide)) _).2 (.other hfirst (.other hsecond ?_))
    exact .ascii (.binary .implies) .nil

end Propositional.Text
