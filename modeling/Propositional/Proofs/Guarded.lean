import Propositional.Guarded
import Propositional.Proofs.Instruments
import Propositional.Proofs.Table.Lookup
/-!
# Propositional.Proofs.Guarded

What guards change.

A guard compares two widths, so a valuation passes it if its size is that of the variable set up to
a multiple of `2 ^ 16`, and any other is stopped whatever the formula is (`eval_of_size`,
`eval_of_other_size`). A tabulation evaluates under valuations of the right size only, and so the
guards never stop one and leave no trace in the result.
-/

namespace Propositional.Guarded

variable {α : Type} {vars : VariableSet} {v : Valuation}

/-! ### Guards -/

theorem checkSize_eq_ok_iff : checkSize vars v = .ok () ↔ v.size % 2 ^ 16 = vars.size := by
  rw [← Valuation.width_eq_iff, checkSize]
  by_cases h : vars.width = v.width
  · simp [h]
  · simp [h, Ne.symm h]

theorem checkSize_of_other_size (h : v.size % 2 ^ 16 ≠ vars.size) :
    checkSize vars v = .error (.sizeMismatch vars.size (v.size % 2 ^ 16)) := by
  have hwidth : vars.width ≠ v.width := by
    intro heq
    exact h (Valuation.width_eq_iff.1 heq.symm)
  rw [checkSize, if_neg hwidth, Valuation.width_toNat, vars.width_toNat]

theorem permits_instruments : instruments.Permits := by
  intro vars v hv
  have hle := vars.size_le
  exact checkSize_eq_ok_iff.2 (by omega)

theorem forM_record (events : List Event) : events.forM instruments.record = .ok () := by
  induction events with
  | nil => rfl
  | cons event events ih => exact ih

/-- What is told is dropped, and a computation that tells is not stopped. -/
theorem run_of_tells {x : ExceptT Error Guarded α} {events : List Event} {result : Except Error α}
    (h : instruments.Tells x events result) : x.run = .ok result := by
  rw [h, forM_record]
  rfl

/-! ### Evaluations -/

theorem eval_of_size {rpn : Rpn} (h : v.size % 2 ^ 16 = vars.size) :
    Guarded.eval vars rpn v = .ok (rpn.evalUnder vars v) :=
  run_of_tells (Instruments.tells_eval (checkSize_eq_ok_iff.2 h))

/-- The guard comes first, so nothing of the formula matters. -/
theorem eval_of_other_size {rpn : Rpn} (h : v.size % 2 ^ 16 ≠ vars.size) :
    Guarded.eval vars rpn v = .error (.sizeMismatch vars.size (v.size % 2 ^ 16)) := by
  have hcheck : instruments.check vars v = _ := checkSize_of_other_size h
  rw [Guarded.eval, Instruments.eval, ExceptT.run_bind, hcheck]
  rfl

/-! ### Tables -/

/-- With guards a tabulation has the result that it has without them, and is never stopped. An
evaluation has another result exactly if the size of the valuation, up to a multiple of `2 ^ 16`, is
not that of the variable set, and then it is stopped whatever the formula is. -/
theorem unchanged_unless_misused :
    (∀ config text, Guarded.tabulate config text = .ok (Table.tabulate config text)) ∧
    (∀ config style text, Guarded.tabulateText config style text =
      .ok (Table.tabulateText config style text)) ∧
    ∀ vars v rpn,
      (Guarded.eval vars rpn v ≠ .ok (rpn.evalUnder vars v) ↔ v.size % 65536 ≠ vars.size) ∧
      (v.size % 65536 ≠ vars.size →
        Guarded.eval vars rpn v = .error (.sizeMismatch vars.size (v.size % 65536))) := by
  refine ⟨?_, ?_, ?_⟩
  · intro config text
    obtain ⟨events, -, htells⟩ := Instruments.tells_tabulate (m := Guarded) config text
    exact run_of_tells (htells instruments permits_instruments)
  · intro config style text
    obtain ⟨events, -, htells⟩ := Instruments.tells_tabulateText (m := Guarded) config style text
    exact run_of_tells (htells instruments permits_instruments)
  · intro vars v rpn
    refine ⟨⟨?_, ?_⟩, eval_of_other_size⟩
    · intro hne hsize
      exact hne (eval_of_size hsize)
    · intro hsize heval
      rw [eval_of_other_size hsize] at heval
      cases heval

/-- Under a valuation of `p` that is too long neither the missing operand nor the letter without a
column is reached. -/
theorem unchanged_unless_misused_too_long :
    let vars : VariableSet := .ofList [⟨'p', rfl⟩]
    let v : Valuation := ⟨[true, true]⟩
    let lacking : Rpn := [.op .not]
    let foreign : Rpn := [.var ⟨'q', rfl⟩]
    v.size % 65536 ≠ vars.size ∧
      lacking.evalUnder vars v = .error .malformed ∧
      Guarded.eval vars lacking v = .error (.sizeMismatch 1 2) ∧
      foreign.evalUnder vars v = .error (.unassigned 'q') ∧
      Guarded.eval vars foreign v = .error (.sizeMismatch 1 2) := by
  intro vars v lacking foreign
  have hsize : v.size % 65536 ≠ vars.size := by decide
  exact ⟨hsize, rfl, (unchanged_unless_misused.2.2 vars v lacking).2 hsize, rfl,
    (unchanged_unless_misused.2.2 vars v foreign).2 hsize⟩

end Propositional.Guarded
