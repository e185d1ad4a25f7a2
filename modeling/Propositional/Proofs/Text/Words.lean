import Mathlib.Data.List.Basic
import Propositional.Proofs.Text.Spelling
/-!
# Propositional.Proofs.Text.Words

The whole words of a text.

A **maximal run** of a class of characters is a stretch of them that cannot be extended: what stands
on either side is not of the class, or the text ends there. For the class of word characters these
are the words that reading compares with the operator words, and none of them is left in the result
(`ofWord?_of_maximalRun_withSymbols`).

The runs of a text are those of the rest behind a character of another class
(`maximalRun_cons`), and behind a whole run they are this run and those of the rest
(`maximalRun_append`).
-/

namespace Propositional.Text

/-- A run of characters of the class `p` that extends as far as it can to both sides. -/
def MaximalRun (p : Char → Bool) (w text : Text) : Prop :=
  w ≠ [] ∧ (∀ c ∈ w, p c = true) ∧
    ∃ before after, text = before ++ w ++ after ∧
      before.getLast?.any p = false ∧ after.head?.any p = false

variable {p : Char → Bool} {u w rest : Text} {c : Char}

theorem not_maximalRun_nil : ¬ MaximalRun p u [] := by
  rintro ⟨hne, -, before, after, htext, -⟩
  simp [hne] at htext

/-- A text that begins with a character of another class has the runs of the rest. -/
theorem maximalRun_cons (hc : p c = false) :
    MaximalRun p u (c :: rest) ↔ MaximalRun p u rest := by
  have hlast : ∀ before : Text, (c :: before).getLast?.any p = before.getLast?.any p := by
    intro before
    rw [List.getLast?_cons]
    cases before.getLast? <;> simp [hc]
  constructor
  · rintro ⟨hne, hu, before, after, htext, hbefore, hafter⟩
    cases before with
    | nil =>
        -- The run would begin with the character.
        obtain ⟨d, u, rfl⟩ := List.exists_cons_of_ne_nil hne
        obtain ⟨rfl, -⟩ := List.cons.inj htext
        rw [hu c List.mem_cons_self] at hc
        cases hc
    | cons d before =>
        obtain ⟨rfl, hrest⟩ := List.cons.inj htext
        exact ⟨hne, hu, before, after, hrest, hlast before ▸ hbefore, hafter⟩
  · rintro ⟨hne, hu, before, after, rfl, hbefore, hafter⟩
    exact ⟨hne, hu, c :: before, after, rfl, (hlast before).trans hbefore, hafter⟩

/-- A text that begins with a whole run has this run and the runs of the rest. -/
theorem maximalRun_append (hne : w ≠ []) (hw : ∀ c ∈ w, p c = true)
    (hrest : rest.head?.any p = false) :
    MaximalRun p u (w ++ rest) ↔ u = w ∨ MaximalRun p u rest := by
  have hlast : ∀ before : Text, before ≠ [] → (w ++ before).getLast?.any p =
      before.getLast?.any p := by
    intro before hbefore
    rw [List.getLast?_append_of_ne_nil w hbefore]
  constructor
  · rintro ⟨hu_ne, hu, before, after, htext, hbefore, hafter⟩
    rw [List.append_assoc, List.append_eq_append_iff] at htext
    rcases htext with ⟨gap, rfl, hrest_eq⟩ | ⟨tail, hw_eq, htail⟩
    · -- The run stands behind `w`, and not directly.
      by_cases hgap : gap = []
      · rw [hgap, List.append_nil, any_getLast?_of_forall hne hw] at hbefore
        cases hbefore
      · refine Or.inr ⟨hu_ne, hu, gap, after, ?_, hlast gap hgap ▸ hbefore, hafter⟩
        rw [hrest_eq, List.append_assoc]
    · -- The run begins within `w`, so it begins with `w` and ends with it.
      by_cases hnil : before = []
      · rw [hnil, List.nil_append] at hw_eq
        left
        rw [← takeWhile_run hu hafter, htail, ← hw_eq, takeWhile_run hw hrest]
      · have hall : ∀ c ∈ before, p c = true := fun c hc =>
          hw c (hw_eq ▸ List.mem_append_left tail hc)
        rw [any_getLast?_of_forall hnil hall] at hbefore
        cases hbefore
  · rintro (rfl | ⟨hu_ne, hu, before, after, rfl, hbefore, hafter⟩)
    · exact ⟨hne, hw, [], rest, rfl, rfl, hrest⟩
    · have hnil : before ≠ [] := by
        rintro rfl
        obtain ⟨c, u, rfl⟩ := List.exists_cons_of_ne_nil hu_ne
        have hc : p c = false := hrest
        rw [hu c List.mem_cons_self] at hc
        cases hc
      exact ⟨hu_ne, hu, w ++ before, after, by simp, (hlast before hnil).trans hbefore, hafter⟩

/-- The runs of a text depend only on which of its own characters are of the class. -/
theorem MaximalRun.congr {q : Char → Bool} {text : Text} (h : ∀ c ∈ text, p c = q c)
    (hrun : MaximalRun p w text) : MaximalRun q w text := by
  obtain ⟨hne, hw, before, after, rfl, hbefore, hafter⟩ := hrun
  have hany : ∀ o : Option Char, (∀ c ∈ o, c ∈ before ++ w ++ after) → o.any q = o.any p := by
    intro o ho
    cases o with
    | none => rfl
    | some c => exact (h c (ho c rfl)).symm
  refine ⟨hne, ?_, before, after, rfl, ?_, ?_⟩
  · intro c hc
    rw [← h c (by simp [hc]), hw c hc]
  · rw [hany _ fun c hc => by simp [List.mem_of_getLast? hc], hbefore]
  · rw [hany _ fun c hc => by simp [List.mem_of_mem_head? hc], hafter]

/-- No word of what has been read is an operator word. -/
theorem ofWord?_of_maximalRun_withSymbols {text : Text}
    (h : MaximalRun isWordChar w (withSymbols text)) : Operator.ofWord? w = none := by
  induction text using induction_spelling with
  | nil => exact absurd (withSymbols_nil ▸ h) not_maximalRun_nil
  | ascii o rest ih =>
      rw [withSymbols_ascii, maximalRun_cons o.isWordChar_symbol] at h
      exact ih h
  | word v rest hne hv hrest ih =>
      have hrest' : startsWord (withSymbols rest) = false := startsWord_withSymbols hrest
      rw [withSymbols_word hne hv hrest] at h
      rcases readWord_cases v with ⟨o, -, hread⟩ | ⟨hnone, hread⟩
      · rw [hread, List.singleton_append, maximalRun_cons o.isWordChar_symbol] at h
        exact ih h
      · rw [hread, maximalRun_append hne hv hrest'] at h
        rcases h with rfl | h
        · exact hnone
        · exact ih h
  | other c rest hc hascii ih =>
      rw [withSymbols_cons hascii hc, maximalRun_cons hc] at h
      exact ih h

end Propositional.Text
