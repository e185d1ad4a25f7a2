import Propositional.Proofs.Formula.Support
import Propositional.Proofs.Rpn.Refusal
import Propositional.Proofs.Rpn.Simulation
import Propositional.Proofs.Valuation.Enumeration
import Propositional.Proofs.VariableSet
import Propositional.Tabulation
/-!
# Propositional.Proofs.Table.Tabulation

The table of a text is the table of its formula.

Every variable of a compiled text has a column, so in no row a value is missing, and the machine
gives in each row the value of the formula, or fails in each row because there is none
(`evalUnder_of_compile`). Evaluating row by row is therefore the same as reading the formula first
and listing its values (`tabulate_eq_ofFormula`), and which stage decides a tabulation does not
depend on any row (`verdict`).
-/

namespace Propositional

/-! ### Tables of formulas -/

/-- The row of a formula that has the number `i`. -/
def Row.ofFormula (vars : VariableSet) (f : Formula) (i : Nat) : Row :=
  let v : Valuation := ⟨Bits.ofNat vars.size i⟩
  ⟨v, f.value (vars.assign v).total⟩

/-- The table of a formula over a set of variables. -/
def Table.ofFormula (text : Text) (vars : VariableSet) (f : Formula) : Table :=
  ⟨text, vars, (List.range (2 ^ vars.size)).map (Row.ofFormula vars f)⟩

namespace Table

theorem rows_ofFormula {text : Text} {vars : VariableSet} {f : Formula} {i : Nat}
    (h : i < 2 ^ vars.size) : (ofFormula text vars f).rows[i]? = some (Row.ofFormula vars f i) := by
  simp [ofFormula, h]

/-- The rows are the valuations of the columns, each with the value of the formula under it. -/
theorem mem_rows_ofFormula_iff {text : Text} {vars : VariableSet} {f : Formula} {row : Row} :
    row ∈ (ofFormula text vars f).rows ↔
      row.inputs.size = vars.size ∧ row.output = f.value (vars.assign row.inputs).total := by
  constructor
  · intro h
    obtain ⟨i, -, rfl⟩ := List.mem_map.1 h
    exact ⟨Bits.length_ofNat vars.size i, rfl⟩
  · intro h
    obtain ⟨⟨bits⟩, output⟩ := row
    have hlength : bits.length = vars.size := h.1
    have houtput : output = f.value (vars.assign ⟨bits⟩).total := h.2
    refine List.mem_map.2 ⟨Bits.toNat bits, ?_, ?_⟩
    · rw [List.mem_range, ← hlength]
      exact Bits.toNat_lt_two_pow bits
    · rw [Row.ofFormula, ← hlength, Bits.ofNat_toNat, houtput]

theorem inputs_of_mem_rows {text : Text} {vars : VariableSet} {f : Formula} {row : Row}
    (h : row ∈ (ofFormula text vars f).rows) :
    row.inputs.size = vars.size ∧ row.output = f.value (vars.assign row.inputs).total :=
  mem_rows_ofFormula_iff.1 h

/-! ### Rows of a compiled text -/

theorem leaves_mem_of_ofText {text : Text} {vars : VariableSet} {rpn : Rpn}
    (hvars : VariableSet.ofText text = .ok vars) (hrpn : Rpn.compile text = .ok rpn)
    {x : Variable} (hx : x ∈ rpn.leaves) : x ∈ vars := by
  rw [Yard.leaves_of_compile hrpn] at hx
  exact (VariableSet.mem_of_ofText hvars).2 (VariableSet.mem_filterMap_ofChar?.1 hx)

/-- In a row, a compiled text has the value of its formula, and none if it has no formula. -/
theorem evalUnder_of_compile {text : Text} {vars : VariableSet} {rpn : Rpn}
    (hvars : VariableSet.ofText text = .ok vars) (hrpn : Rpn.compile text = .ok rpn)
    {v : Valuation} (hv : v.size = vars.size) :
    rpn.evalUnder vars v = (Formula.ofRpn rpn).map (Formula.value (vars.assign v).total) := by
  apply Rpn.eval_of_assigned
  intro x hx
  exact VariableSet.assign_ne_none hv (leaves_mem_of_ofText hvars hrpn hx)

theorem mapM_error {α β ε : Type} (e : ε) {xs : List α} (h : xs ≠ []) :
    (xs.mapM fun _ => (Except.error e : Except ε β)) = .error e := by
  cases xs with
  | nil => exact absurd rfl h
  | cons x xs => rw [List.mapM_cons, error_bind]

/-- The rows of a compiled text are the rows of its formula, and fail together without one. -/
theorem mapM_rows_of_compile {text : Text} {vars : VariableSet} {rpn : Rpn}
    (hvars : VariableSet.ofText text = .ok vars) (hrpn : Rpn.compile text = .ok rpn) :
    ((Enumeration.ofSize vars.size).toList.mapM fun v =>
        (rpn.evalUnder vars v).map (Row.mk v)) =
      (Formula.ofRpn rpn).map fun f =>
        (List.range (2 ^ vars.size)).map (Row.ofFormula vars f) := by
  have hrow : ∀ i, rpn.evalUnder vars ⟨Bits.ofNat vars.size i⟩ =
      (Formula.ofRpn rpn).map
        (Formula.value (vars.assign ⟨Bits.ofNat vars.size i⟩).total) := by
    intro i
    exact evalUnder_of_compile hvars hrpn (Bits.length_ofNat vars.size i)
  rw [Enumeration.toList_ofSize, List.mapM_map]
  simp only [Function.comp_def, hrow]
  cases Formula.ofRpn rpn with
  | error e =>
      refine mapM_error e ?_
      rw [Ne, List.range_eq_nil]
      exact Nat.pos_iff_ne_zero.1 (Nat.two_pow_pos vars.size)
  | ok f => exact List.mapM_pure

/-- Tabulating a text is reading its formula and listing its values. -/
theorem tabulate_eq_ofFormula (config : Config) (text : Text) :
    tabulate config text = (do
      let vars ← VariableSet.ofText text
      if config.limit < vars.size then
        throw (.tooManyVariables vars.size config.limit)
      let f ← Formula.parse text
      return ofFormula text vars f) := by
  rw [tabulate_eq]
  cases hvars : VariableSet.ofText text with
  | error e => rfl
  | ok vars =>
      rw [ok_bind, ok_bind]
      split
      · rfl
      · rw [Formula.parse]
        cases hrpn : Rpn.compile text with
        | error e => rfl
        | ok rpn =>
            simp only [ok_bind, mapM_rows_of_compile hvars hrpn]
            cases Formula.ofRpn rpn <;> rfl

/-! ### The deciding stage -/

/-- The outcome of a tabulation, by the first stage that decides it. -/
inductive Verdict (limit : Nat) (text : Text) : Except Error Table → Prop where
  /-- There is no letter. -/
  | noLetters (hn : text.letterCount = 0) : Verdict limit text (.error .noVariables)
  /-- There are more letters than the limit admits. -/
  | overLimit (hn : text.letterCount ≠ 0) (hlt : limit < text.letterCount) :
    Verdict limit text (.error (.tooManyVariables text.letterCount limit))
  /-- The text is not compiled. -/
  | notCompiled {e : Error} (hn : text.letterCount ≠ 0) (hle : text.letterCount ≤ limit)
    (hrpn : Rpn.compile text = .error e) : Verdict limit text (.error e)
  /-- The compiled text is no formula. -/
  | noFormula {rpn : Rpn} {e : Error} (hn : text.letterCount ≠ 0)
    (hle : text.letterCount ≤ limit) (hrpn : Rpn.compile text = .ok rpn)
    (hf : Formula.ofRpn rpn = .error e) : Verdict limit text (.error .malformed)
  /-- The compiled text is a formula. -/
  | table {vars : VariableSet} {rpn : Rpn} {f : Formula} (hn : text.letterCount ≠ 0)
    (hle : text.letterCount ≤ limit) (hvars : VariableSet.ofText text = .ok vars)
    (hrpn : Rpn.compile text = .ok rpn) (hf : Formula.ofRpn rpn = .ok f) :
    Verdict limit text (.ok (ofFormula text vars f))

theorem verdict (config : Config) (text : Text) :
    Verdict config.limit text (tabulate config text) := by
  rw [tabulate_eq_ofFormula]
  cases hvars : VariableSet.ofText text with
  | error e =>
      obtain ⟨rfl, hn⟩ := VariableSet.ofText_eq_error_iff.1 hvars
      exact .noLetters hn
  | ok vars =>
      have hsize := VariableSet.size_of_ofText hvars
      have hn : text.letterCount ≠ 0 := by
        intro hn
        rw [VariableSet.ofText_eq_error_iff.2 ⟨rfl, hn⟩] at hvars
        cases hvars
      rw [ok_bind, hsize]
      by_cases hlt : config.limit < text.letterCount
      · rw [if_pos hlt]
        exact .overLimit hn hlt
      · rw [if_neg hlt, Formula.parse]
        have hle := Nat.le_of_not_lt hlt
        cases hrpn : Rpn.compile text with
        | error e => exact .notCompiled hn hle hrpn
        | ok rpn =>
            cases hf : Formula.ofRpn rpn with
            | error e =>
                have he := Formula.eq_malformed_of_ofRpn hf
                subst he
                simp only [ok_bind, hf]
                exact .noFormula hn hle hrpn hf
            | ok f =>
                simp only [ok_bind, hf]
                exact .table hn hle hvars hrpn hf

namespace Verdict

variable {limit : Nat} {text : Text} {result : Except Error Table}

theorem noVariables_iff (h : Verdict limit text result) :
    result = .error .noVariables ↔ text.letterCount = 0 := by
  cases h with
  | noLetters hn => simp [hn]
  | overLimit hn hlt => simp [hn]
  | notCompiled hn hle hrpn =>
      rcases Rpn.error_of_compile hrpn with rfl | ⟨c, rfl⟩ <;> simp [hn]
  | noFormula hn hle hrpn hf => simp [hn]
  | table hn hle hvars hrpn hf => simp [hn]

theorem tooManyVariables_iff (h : Verdict limit text result) (found bound : Nat) :
    result = .error (.tooManyVariables found bound) ↔
      text.letterCount ≠ 0 ∧ limit < text.letterCount ∧ found = text.letterCount ∧
        bound = limit := by
  cases h with
  | noLetters hn => simp [hn]
  | overLimit hn hlt => simp [hn, hlt, eq_comm]
  | notCompiled hn hle hrpn =>
      rcases Rpn.error_of_compile hrpn with rfl | ⟨c, rfl⟩ <;> simp [Nat.not_lt.2 hle]
  | noFormula hn hle hrpn hf => simp [Nat.not_lt.2 hle]
  | table hn hle hvars hrpn hf => simp [Nat.not_lt.2 hle]

theorem eq_error_of_compile (h : Verdict limit text result) {e : Error}
    (hn : text.letterCount ≠ 0) (hle : text.letterCount ≤ limit)
    (he : Rpn.compile text = .error e) : result = .error e := by
  cases h with
  | noLetters hn' => exact absurd hn' hn
  | overLimit hn' hlt => exact absurd hlt (Nat.not_lt.2 hle)
  | notCompiled hn' hle' hrpn =>
      rw [he] at hrpn
      cases hrpn
      rfl
  | noFormula hn' hle' hrpn hf =>
      rw [he] at hrpn
      cases hrpn
  | table hn' hle' hvars hrpn hf =>
      rw [he] at hrpn
      cases hrpn

theorem malformed_iff (h : Verdict limit text result) :
    result = .error .malformed ↔
      text.letterCount ≠ 0 ∧ text.letterCount ≤ limit ∧
        ∃ rpn e, Rpn.compile text = .ok rpn ∧ Formula.ofRpn rpn = .error e := by
  cases h with
  | noLetters hn => simp [hn]
  | overLimit hn hlt => simp [Nat.not_le.2 hlt]
  | notCompiled hn hle hrpn =>
      rcases Rpn.error_of_compile hrpn with rfl | ⟨c, rfl⟩ <;> simp [hrpn]
  | noFormula hn hle hrpn hf => simp [hn, hle, hrpn, hf]
  | table hn hle hvars hrpn hf => simp [hrpn, hf]

theorem ok_iff (h : Verdict limit text result) :
    (∃ table, result = .ok table) ↔
      text.letterCount ≠ 0 ∧ text.letterCount ≤ limit ∧
        ∃ rpn f, Rpn.compile text = .ok rpn ∧ Formula.ofRpn rpn = .ok f := by
  cases h with
  | noLetters hn => simp [hn]
  | overLimit hn hlt => simp [Nat.not_le.2 hlt]
  | notCompiled hn hle hrpn => simp [hrpn]
  | noFormula hn hle hrpn hf => simp [hrpn, hf]
  | table hn hle hvars hrpn hf => simp [hn, hle, hrpn, hf]

theorem ne_unassigned (h : Verdict limit text result) (name : Char) :
    result ≠ .error (.unassigned name) := by
  cases h with
  | notCompiled hn hle hrpn =>
      rcases Rpn.error_of_compile hrpn with rfl | ⟨c, rfl⟩ <;> simp
  | _ => simp

end Verdict

/-- The stages decide in their order, each for its own reason, and no row ever does: a variable
without a value never occurs, and a formula that fails in one row fails in every other in the same
way. In another notation the outcome is that of the canonical text. -/
theorem tabulate_outcome (m : Nat) (text : Text) :
    let n := text.letterCount
    let limit := min m 26
    let result := tabulate (Config.ofLimit m) text
    (result = .error .noVariables ↔ n = 0) ∧
    (∀ found bound, result = .error (.tooManyVariables found bound) ↔
      n ≠ 0 ∧ limit < n ∧ found = n ∧ bound = limit) ∧
    (∀ e, n ≠ 0 → n ≤ limit → Rpn.compile text = .error e → result = .error e) ∧
    (result = .error .malformed ↔
      n ≠ 0 ∧ n ≤ limit ∧
        ∃ rpn e, Rpn.compile text = .ok rpn ∧ Formula.ofRpn rpn = .error e) ∧
    ((∃ table, result = .ok table) ↔
      n ≠ 0 ∧ n ≤ limit ∧
        ∃ rpn f, Rpn.compile text = .ok rpn ∧ Formula.ofRpn rpn = .ok f) ∧
    (∀ name, result ≠ .error (.unassigned name)) ∧
    (∀ vars rpn v w e, VariableSet.ofText text = .ok vars → Rpn.compile text = .ok rpn →
      v.size = vars.size → w.size = vars.size →
      rpn.evalUnder vars v = .error e → rpn.evalUnder vars w = .error e) ∧
    (∀ config style, tabulateText config style text =
      (tabulate config (text.convert style .symbolic)).map
        fun t => { t with formula := text }) := by
  intro n limit result
  have h : Verdict limit text result := verdict (Config.ofLimit m) text
  refine ⟨h.noVariables_iff, h.tooManyVariables_iff, fun e hn hle => h.eq_error_of_compile hn hle,
    h.malformed_iff, h.ok_iff, h.ne_unassigned, ?_, ?_⟩
  · intro vars rpn v w e hvars hrpn hv hw hfail
    -- Both rows have the value of one formula, or the error of its absence.
    rw [evalUnder_of_compile hvars hrpn hv] at hfail
    rw [evalUnder_of_compile hvars hrpn hw]
    cases hf : Formula.ofRpn rpn with
    | error e' =>
        rw [hf] at hfail
        exact hfail
    | ok f =>
        rw [hf] at hfail
        cases hfail
  · intro config style
    rw [tabulateText_eq, Text.convert_symbolic]

/-! ### Completed tables -/

theorem eq_ofFormula_of_tabulate {config : Config} {text : Text} {t : Table}
    (h : tabulate config text = .ok t) :
    ∃ vars rpn f, VariableSet.ofText text = .ok vars ∧ Rpn.compile text = .ok rpn ∧
      Formula.ofRpn rpn = .ok f ∧ t = ofFormula text vars f := by
  have hv := verdict config text
  rw [h] at hv
  cases hv with
  | table hn hle hvars hrpn hf => exact ⟨_, _, _, hvars, hrpn, hf, rfl⟩

/-- A text that has a table is read as a formula, whose table it is. -/
theorem parse_of_tabulate {config : Config} {text : Text} {t : Table}
    (h : tabulate config text = .ok t) :
    ∃ f, Formula.parse text = .ok f ∧ t = ofFormula text f.support f := by
  obtain ⟨vars, rpn, f, hvars, hrpn, hf, rfl⟩ := eq_ofFormula_of_tabulate h
  have hparse : Formula.parse text = .ok f := by rw [Formula.parse, hrpn, ok_bind, hf]
  rw [Formula.ofText_of_parse hparse] at hvars
  rw [← Except.ok.inj hvars]
  exact ⟨f, hparse, rfl⟩

/-- A text that has a table in some notation is the heading of the table of its formula. -/
theorem parse_of_tabulateText {config : Config} {style : Notation} {text : Text} {t : Table}
    (h : tabulateText config style text = .ok t) :
    ∃ f, Formula.parse (text.canonical style) = .ok f ∧ t = ofFormula text f.support f := by
  rw [tabulateText_eq] at h
  obtain ⟨t', ht', rfl⟩ := map_eq_ok_iff.1 h
  obtain ⟨f, hf, rfl⟩ := parse_of_tabulate ht'
  exact ⟨f, hf, rfl⟩

/-- The table was made of a canonical text, or of a text that was first converted to it and that the
heading then shows. -/
def MadeOf (t : Table) (text : Text) : Prop :=
  ∃ config, tabulate config text = .ok t ∨
    ∃ style source, source.canonical style = text ∧ tabulateText config style source = .ok t

/-- Whatever the heading shows, the table is that of the formula. -/
theorem MadeOf.exists_formula {t : Table} {text : Text} (h : t.MadeOf text) :
    ∃ heading f, Formula.parse text = .ok f ∧ t = ofFormula heading f.support f := by
  obtain ⟨config, h | ⟨style, source, rfl, h⟩⟩ := h
  · exact ⟨text, parse_of_tabulate h⟩
  · exact ⟨source, parse_of_tabulateText h⟩

/-- A row has the truth value of the formula under any values of the variables that stand in the
variables' columns. -/
theorem output_iff_holds {vars : VariableSet} {f : Formula} (hmem : ∀ x ∈ f.leaves, x ∈ vars)
    {i : Nat} {σ : Variable → Bool}
    (hσ : ∀ (j : Nat) x, vars.toList[j]? = some x →
      (Row.ofFormula vars f i).inputs.values[j]? = some (σ x)) :
    (Row.ofFormula vars f i).output = true ↔ f.Holds fun x => σ x = true := by
  rw [← Formula.value_eq_true_iff]
  have hvalue : (Row.ofFormula vars f i).output = f.value σ := by
    apply Formula.value_congr
    intro x hx
    obtain ⟨j, hj⟩ := List.mem_iff_getElem?.1 (hmem x hx)
    have hassign : vars.assign ⟨Bits.ofNat vars.size i⟩ x = some (σ x) :=
      (VariableSet.assign_of_getElem? hj _).trans (hσ j x hj)
    rw [Assignment.total, hassign, Option.getD_some]
  rw [hvalue]

/-- A completed table has one column for each letter, one row for each number of that many digits,
and in each row the truth value of the formula that the text is read as. -/
theorem tabulate_rows {m : Nat} {text : Text} {t : Table}
    (h : tabulate (Config.ofLimit m) text = .ok t) :
    let n := text.letterCount
    let names := t.vars.toList.map Variable.name
    (∀ c, c ∈ names ↔ c ∈ text ∧ c.isLower = true) ∧
    names.Pairwise (· < ·) ∧
    t.rows.length = 2 ^ n ∧
    (∀ i < 2 ^ n, ∃ row, t.rows[i]? = some row ∧ row.inputs.values.length = n ∧
      ∀ j < n, row.inputs.values[j]? = some (i.testBit (n - 1 - j))) ∧
    ∃ f, Formula.parse text = .ok f ∧
      ∀ (i : Nat) row (σ : Variable → Bool), t.rows[i]? = some row →
        (∀ (j : Nat) x, t.vars.toList[j]? = some x → row.inputs.values[j]? = some (σ x)) →
        (row.output = true ↔ f.Holds fun x => σ x = true) := by
  obtain ⟨vars, rpn, f, hvars, hrpn, hf, rfl⟩ := eq_ofFormula_of_tabulate h
  have hsize : vars.size = text.letterCount := VariableSet.size_of_ofText hvars
  intro n names
  refine ⟨fun c => VariableSet.mem_names_of_ofText hvars, ?_, ?_, ?_, f, ?_, ?_⟩
  · exact List.pairwise_map.2 vars.ascending
  · simp [ofFormula, hsize, n]
  · intro i hi
    refine ⟨_, rows_ofFormula (hsize ▸ hi), ?_, ?_⟩
    · exact (Bits.length_ofNat vars.size i).trans hsize
    · intro j hj
      have hj' : j < vars.size := hsize ▸ hj
      show _ = some (i.testBit (text.letterCount - 1 - j))
      rw [← hsize]
      exact Bits.getElem?_ofNat i hj'
  · rw [Formula.parse, hrpn, ok_bind, hf]
  · intro i row σ hrow hσ
    have hmem : ∀ x ∈ f.leaves, x ∈ vars := by
      intro x hx
      rw [← Formula.leaves_postorder, ← Formula.ofRpn_eq_ok_iff.1 hf] at hx
      exact leaves_mem_of_ofText hvars hrpn hx
    have hi : i < 2 ^ vars.size := by
      simpa [ofFormula] using (List.getElem?_eq_some_iff.1 hrow).1
    obtain rfl := Option.some.inj ((rows_ofFormula hi).symm.trans hrow)
    exact output_iff_holds hmem hσ

/-- The table of `q → p`, whose columns are `p` and `q`. -/
theorem tabulate_rows_implication :
    let text : Text := ['q', ' ', '→', ' ', 'p']
    ∃ t, tabulate (Config.ofLimit 2) text = .ok t ∧ t.outputs = [true, false, true, true] ∧
      t.rows.length = 2 ^ text.letterCount := by
  intro text
  have hout : (tabulate (Config.ofLimit 2) text).map outputs = .ok [true, false, true, true] := by
    decide
  cases h : tabulate (Config.ofLimit 2) text with
  | error e =>
      rw [h] at hout
      cases hout
  | ok t =>
      rw [h] at hout
      exact ⟨t, rfl, Except.ok.inj hout, (tabulate_rows h).2.2.1⟩

end Table

end Propositional
