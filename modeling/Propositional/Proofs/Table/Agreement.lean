import Propositional.Proofs.Table.Tabulation
/-!
# Propositional.Proofs.Table.Agreement

When two tables agree.

The heading of a table shows the text that was tabulated. The rest, its **body**, depends on less.
Blanks do not matter to it: texts with the same ink are refused for the same cause or have tables
with the same body (`body_of_ink`), so a text in any notation agrees with each text that has the ink
of its canonical form (`body_of_canonical_ink`). Nor does it matter how a formula is built, if its
values are the same (`body_ofFormula_congr`).
-/

namespace Propositional

/-! ### Blanks -/

/-- A blank names no variable. -/
theorem filterMap_ofChar?_ink (text : Text) :
    text.ink.filterMap Variable.ofChar? = text.filterMap Variable.ofChar? := by
  induction text with
  | nil => rfl
  | cons c text ih =>
      cases hc : isBlank c with
      | true =>
          have hnone : Variable.ofChar? c = none :=
            Variable.ofChar?_eq_none_iff.2 (isLower_of_isBlank hc)
          rw [Text.ink_cons_of_isBlank hc, List.filterMap_cons_none hnone, ih]
      | false => rw [Text.ink_cons_of_not_isBlank hc, List.filterMap_cons, List.filterMap_cons, ih]

theorem VariableSet.ofText_ink (text : Text) : ofText text.ink = ofText text := by
  rw [ofText, ofText, filterMap_ofChar?_ink]

theorem Formula.parse_ink (text : Text) : parse text.ink = parse text := by
  rw [parse, parse, Rpn.compile, Rpn.compile, ← Yard.foldlM_read_ink]

namespace Table

/-- A table without its heading. -/
def body (t : Table) : VariableSet × List Row := (t.vars, t.rows)

theorem body_of_parse {config : Config} (text : Text) :
    (tabulate config text).map body = (do
      let vars ← VariableSet.ofText text
      if config.limit < vars.size then
        throw (.tooManyVariables vars.size config.limit)
      let f ← Formula.parse text
      return (vars, (List.range (2 ^ vars.size)).map (Row.ofFormula vars f))) := by
  rw [tabulate_eq_ofFormula]
  cases VariableSet.ofText text with
  | error e => rfl
  | ok vars =>
      rw [ok_bind, ok_bind]
      split
      · rfl
      · cases Formula.parse text <;> rfl

/-- Texts with the same ink have the same table under their headings, or are refused for the same
cause. -/
theorem body_of_ink {a b : Text} (h : a.ink = b.ink) (config : Config) :
    (tabulate config a).map body = (tabulate config b).map body := by
  rw [body_of_parse, body_of_parse, ← VariableSet.ofText_ink a, ← VariableSet.ofText_ink b,
    ← Formula.parse_ink a, ← Formula.parse_ink b, h]

theorem body_tabulateText (config : Config) (style : Notation) (text : Text) :
    (tabulateText config style text).map body =
      (tabulate config (text.canonical style)).map body := by
  rw [tabulateText_eq]
  cases tabulate config (text.canonical style) <;> rfl

/-- A text agrees with each text that has the ink of its canonical form. -/
theorem body_of_canonical_ink {style : Notation} {a b : Text}
    (h : (a.canonical style).ink = b.ink) (config : Config) :
    (tabulateText config style a).map body = (tabulate config b).map body := by
  rw [body_tabulateText, body_of_ink h]

/-! ### Values -/

/-- Formulas with the same values have the same rows over the same variables. -/
theorem body_ofFormula_congr {vars : VariableSet} {f g : Formula}
    (h : ∀ σ, f.value σ = g.value σ) (a b : Text) :
    (ofFormula a vars f).body = (ofFormula b vars g).body := by
  simp [body, ofFormula, Row.ofFormula, h]

end Table

end Propositional
