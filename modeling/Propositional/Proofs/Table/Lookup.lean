import Propositional.Proofs.Table.Tabulation
import Propositional.Proofs.Valuation.Number
/-!
# Propositional.Proofs.Table.Lookup

Looking up a row.

A row is not searched for but found by the number of the valuation, and whether a valuation fits the
table is judged by its width. Both are machine words, so a valuation that is far too long can pass
for one of the table's (`lookup_eq_some_iff`). Among the valuations whose size is told by a word of
16 bits only those of the table pass, and each of them finds its own row, in which the value of the
formula stands (`lookup_iff_mem_rows`).
-/

namespace Propositional

/-- A table has so few columns that only the width of the valuation can wrap around. -/
theorem Valuation.width_eq_iff {v : Valuation} {vars : VariableSet} :
    v.width = vars.width ↔ v.size % 2 ^ 16 = vars.size := by
  rw [← UInt16.toNat_inj, width_toNat, vars.width_toNat]

namespace Table

/-! ### Rows and numbers -/

theorem lookup_eq_some_iff {t : Table} {v : Valuation} {b : Bool} :
    t.lookup v = some b ↔
      v.size % 2 ^ 16 = t.vars.size ∧
        ∃ row, t.rows[Bits.toNat v.values % 2 ^ 64]? = some row ∧ row.output = b := by
  rw [lookup, ← Valuation.toNat_number, ← Valuation.width_eq_iff]
  by_cases h : v.width = t.vars.width
  · simp [h]
  · simp [h]

variable {text : Text} {vars : VariableSet} {f : Formula} {v : Valuation}

/-- The row that a valuation's number finds is the valuation's own. -/
theorem lookup_ofFormula (hv : v.size = vars.size) :
    (ofFormula text vars f).lookup v = some (f.value (vars.assign v).total) := by
  have hle := vars.size_le
  have hlt : Bits.toNat v.values < 2 ^ vars.size := hv ▸ Bits.toNat_lt_two_pow v.values
  have hword : 2 ^ vars.size ≤ 2 ^ 64 := Nat.pow_le_pow_right (by decide) (by omega)
  have hdigits : Bits.ofNat vars.size (Bits.toNat v.values) = v.values :=
    hv ▸ Bits.ofNat_toNat v.values
  refine lookup_eq_some_iff.2 ⟨?_, Row.ofFormula vars f (Bits.toNat v.values), ?_, ?_⟩
  · show v.size % 2 ^ 16 = vars.size
    omega
  · rw [Nat.mod_eq_of_lt (Nat.lt_of_lt_of_le hlt hword), rows_ofFormula hlt]
  · rw [Row.ofFormula, hdigits]

/-- A valuation whose size does not wrap around finds a row only if it is the inputs of one, and
then finds that row. -/
theorem lookup_iff_mem_rows {b : Bool} (hv : v.size < 2 ^ 16) :
    (ofFormula text vars f).lookup v = some b ↔ ⟨v, b⟩ ∈ (ofFormula text vars f).rows := by
  rw [mem_rows_ofFormula_iff]
  constructor
  · intro h
    have hsize : v.size = vars.size := by
      have hwidth : v.size % 2 ^ 16 = vars.size := (lookup_eq_some_iff.1 h).1
      rwa [Nat.mod_eq_of_lt hv] at hwidth
    rw [lookup_ofFormula hsize] at h
    exact ⟨hsize, (Option.some.inj h).symm⟩
  · intro h
    obtain ⟨hsize, houtput⟩ := h
    rw [lookup_ofFormula hsize]
    exact congrArg some houtput.symm

/-! ### Lookups and evaluations -/

/-- A lookup succeeds exactly if the size, up to a multiple of `2 ^ 16`, is the number of columns
and the number, up to a multiple of `2 ^ 64`, is that of a row, and its result is the output in this
row. For a valuation whose size does not wrap around it succeeds exactly if the valuation is the
inputs of a row, with the output in that row, and this is what evaluating the compiled text and
evaluating the formula give. -/
theorem lookup_outcome {t : Table} {text : Text} (h : t.MadeOf text) :
    (∀ v, (∃ b, t.lookup v = some b) ↔
      v.size % 2 ^ 16 = t.vars.size ∧ Bits.toNat v.values % 2 ^ 64 < 2 ^ t.vars.size) ∧
    (∀ v b, t.lookup v = some b →
      ∃ row, t.rows[Bits.toNat v.values % 2 ^ 64]? = some row ∧ row.output = b) ∧
    (∀ v b, v.size < 2 ^ 16 → (t.lookup v = some b ↔ ⟨v, b⟩ ∈ t.rows)) ∧
    (∃ rpn f, Rpn.compile text = .ok rpn ∧ Formula.parse text = .ok f ∧
      ∀ v b, v.size < 2 ^ 16 → t.lookup v = some b →
        rpn.evalUnder t.vars v = .ok b ∧ f.evalUnder? t.vars v = some b) ∧
    ∀ row ∈ t.rows, t.lookup row.inputs = some row.output := by
  obtain ⟨heading, f, hf, rfl⟩ := h.exists_formula
  refine ⟨?_, fun v b hb => (lookup_eq_some_iff.1 hb).2, fun v b => lookup_iff_mem_rows, ?_, ?_⟩
  · intro v
    have hrows : (ofFormula heading f.support f).rows.length = 2 ^ f.support.size := by
      simp [ofFormula]
    simp only [lookup_eq_some_iff]
    constructor
    · intro hb
      obtain ⟨b, hsize, row, hrow, -⟩ := hb
      exact ⟨hsize, hrows ▸ (List.getElem?_eq_some_iff.1 hrow).1⟩
    · intro hb
      obtain ⟨hsize, hlt⟩ := hb
      exact ⟨_, hsize, _, rows_ofFormula hlt, rfl⟩
  · refine ⟨f.postorder, f, Formula.compile_of_parse hf, hf, ?_⟩
    intro v b hv hb
    obtain ⟨hsize, houtput⟩ := mem_rows_ofFormula_iff.1 ((lookup_iff_mem_rows hv).1 hb)
    have houtput : b = f.value (f.support.assign v).total := houtput
    -- As long as the valuation has the table's size, no variable is without a value.
    have hassigned : ∀ x ∈ f.leaves, f.support.assign v x ≠ none := by
      intro x hx
      exact VariableSet.assign_ne_none hsize (Formula.mem_support.2 hx)
    constructor
    · show Rpn.eval (f.support.assign v) f.postorder = .ok b
      rw [Rpn.eval_of_assigned (by simpa using hassigned), Formula.ofRpn_eq_ok_iff.2 rfl, houtput]
      rfl
    · show f.eval? (f.support.assign v) = some b
      rw [Formula.eval?_of_assigned hassigned, houtput]
  · intro row hrow
    obtain ⟨hsize, houtput⟩ := mem_rows_ofFormula_iff.1 hrow
    rw [lookup_ofFormula hsize, houtput]

/-- In the table of `p ∧ ¬q` a valuation is found that has `2 ^ 16` values too many. -/
theorem lookup_outcome_wide :
    let text : Text := ['p', '∧', '¬', 'q']
    let v : Valuation := ⟨[true, false]⟩
    let wide : Valuation := ⟨List.replicate (2 ^ 16) false ++ v.values⟩
    ∃ t, tabulate (.ofLimit 2) text = .ok t ∧ t.lookup v = some true ∧
      (∃ b, t.lookup wide = some b) ∧ ¬ ∃ b, t.lookup ⟨[true]⟩ = some b := by
  intro text v wide
  have hsize : (tabulate (.ofLimit 2) text).map (·.vars.size) = .ok 2 := by decide
  have hrow : (tabulate (.ofLimit 2) text).map (·.rows[2]?) = .ok (some ⟨v, true⟩) := by decide
  obtain ⟨t, ht⟩ : ∃ t, tabulate (.ofLimit 2) text = .ok t := ⟨_, rfl⟩
  rw [ht] at hsize hrow
  have hsize : t.vars.size = 2 := Except.ok.inj hsize
  have hrow : t.rows[2]? = some ⟨v, true⟩ := Except.ok.inj hrow
  obtain ⟨hfound, -, hmem, -, -⟩ := lookup_outcome ⟨.ofLimit 2, Or.inl ht⟩
  refine ⟨t, ht, (hmem v true (by decide)).2 (List.mem_of_getElem? hrow), (hfound wide).2 ?_, ?_⟩
  · have hnumber : Bits.toNat wide.values = 2 :=
      Bits.toNat_replicate_false_append (2 ^ 16) v.values
    have hwide : wide.size = 2 ^ 16 + 2 := by
      show (List.replicate (2 ^ 16) false ++ v.values).length = _
      rw [List.length_append, List.length_replicate]
      rfl
    rw [hnumber, hwide, hsize]
    decide
  · rw [hfound, hsize]
    decide

end Table

end Propositional
