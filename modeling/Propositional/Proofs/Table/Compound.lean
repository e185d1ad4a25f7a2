import Propositional.Proofs.Formula.Compound
import Propositional.Proofs.Table.Agreement
import Propositional.Proofs.Table.Lookup
/-!
# Propositional.Proofs.Table.Compound

Tables of compound texts.

A compound of texts that have tables has a table too, over the columns of its parts together. A row
of it gives values to the columns of each part (`VariableSet.restrict`), and its output is computed
from the outputs that the tables of the parts have there (`tabulate_compound`). Compounds with the
same truth function have the same table under their headings.
-/

namespace Propositional

/-! ### Parts of a row -/

/-- The values that a valuation of some columns gives to the variables of `part`, in the columns of
`part`. -/
def VariableSet.restrict (vars part : VariableSet) (v : Valuation) : Valuation :=
  ⟨part.toList.filterMap (vars.assign v)⟩

namespace VariableSet

variable {vars part : VariableSet} {v : Valuation}

theorem values_restrict (h : ∀ x ∈ part, vars.assign v x ≠ none) :
    (vars.restrict part v).values = part.toList.map (vars.assign v).total := by
  rw [restrict, ← List.filterMap_eq_map]
  refine List.filterMap_congr fun x hx => ?_
  exact Assignment.eq_some_total (h x hx)

theorem size_restrict (h : ∀ x ∈ part, vars.assign v x ≠ none) :
    (vars.restrict part v).size = part.size := by
  rw [Valuation.size, values_restrict h, List.length_map, size]

/-- A restricted valuation gives the variables that are left the values that they had. -/
theorem assign_restrict (h : ∀ x ∈ part, vars.assign v x ≠ none) {x : Variable} (hx : x ∈ part) :
    part.assign (vars.restrict part v) x = vars.assign v x := by
  have hvalues := (assign_eq_iff (size_restrict h) _).2 (congrArg Valuation.mk (values_restrict h))
  exact (hvalues x hx).trans (Assignment.eq_some_total (h x hx)).symm

end VariableSet

namespace Table

/-! ### Tables of read texts -/

/-- A text that is read as a formula has the table of the formula, unless the formula has too many
variables. -/
theorem tabulate_of_parse_eq (config : Config) {text : Text} {f : Formula}
    (h : Formula.parse text = .ok f) :
    tabulate config text =
      if config.limit < f.support.size then
        .error (.tooManyVariables f.support.size config.limit)
      else .ok (ofFormula text f.support f) := by
  rw [tabulate_eq_ofFormula, Formula.ofText_of_parse h, ok_bind, h]
  split <;> rfl

/-- With the largest limit, every text that is read as a formula has a table. -/
theorem tabulate_of_parse {text : Text} {f : Formula} (h : Formula.parse text = .ok f) :
    tabulate (.ofLimit 26) text = .ok (ofFormula text f.support f) := by
  have hle : ¬ (Config.ofLimit 26).limit < f.support.size := Nat.not_lt.2 f.support.size_le
  rw [tabulate_of_parse_eq _ h, if_neg hle]

/-! ### Rows of a compound -/

/-- The table of a part has the part's value in the row that a row of the whole restricts to. -/
theorem lookup_restrict (text : Text) {vars : VariableSet} {f : Formula} {v : Valuation}
    (hv : v.size = vars.size) (hsub : ∀ x ∈ f.support, x ∈ vars) :
    (ofFormula text f.support f).lookup (vars.restrict f.support v) =
      some (f.value (vars.assign v).total) := by
  have hassigned : ∀ x ∈ f.support, vars.assign v x ≠ none := by
    intro x hx
    exact VariableSet.assign_ne_none hv (hsub x hx)
  rw [lookup_ofFormula (VariableSet.size_restrict hassigned)]
  refine congrArg some (Formula.value_congr fun x hx => ?_)
  have hx : x ∈ f.support := Formula.mem_support.2 hx
  rw [Assignment.total, Assignment.total, VariableSet.assign_restrict hassigned hx]

/-- Texts of formulas with the same variables and the same values have the same table under their
headings. -/
theorem body_of_parse_equivalent {a b : Text} {f g : Formula} (ha : Formula.parse a = .ok f)
    (hb : Formula.parse b = .ok g) (hsupport : ∀ x, x ∈ f.support ↔ x ∈ g.support)
    (hvalue : ∀ σ, f.value σ = g.value σ) :
    (tabulate (.ofLimit 26) a).map body = (tabulate (.ofLimit 26) b).map body := by
  rw [tabulate_of_parse ha, tabulate_of_parse hb, VariableSet.ext_mem hsupport]
  exact congrArg Except.ok (body_ofFormula_congr hvalue a b)

theorem apply_comm {c : Connective} (h : c ≠ .implies) (a b : Bool) :
    c.apply a b = c.apply b a := by
  cases c with
  | implies => exact absurd rfl h
  | and => exact Bool.and_comm a b
  | or => exact Bool.or_comm a b
  | iff => cases a <;> cases b <;> rfl

/-- The table of a compound is computed from the tables of its parts. -/
theorem tabulate_compound {a b : Text} {ta tb : Table}
    (ha : tabulate (.ofLimit 26) a = .ok ta) (hb : tabulate (.ofLimit 26) b = .ok tb) :
    (∀ c, ∃ t, tabulate (.ofLimit 26) (.joined c a.grouped b.grouped) = .ok t ∧
      (∀ x, x ∈ t.vars ↔ x ∈ ta.vars ∨ x ∈ tb.vars) ∧
      ∀ row ∈ t.rows, ∃ p q,
        ta.lookup (t.vars.restrict ta.vars row.inputs) = some p ∧
        tb.lookup (t.vars.restrict tb.vars row.inputs) = some q ∧
        row.output = c.apply p q) ∧
    (∃ t, tabulate (.ofLimit 26) a.negated = .ok t ∧
      (∀ x, x ∈ t.vars ↔ x ∈ ta.vars) ∧
      ∀ row ∈ t.rows, ∃ p,
        ta.lookup (t.vars.restrict ta.vars row.inputs) = some p ∧ row.output = !p) ∧
    (∀ c, c ≠ .implies →
      (tabulate (.ofLimit 26) (.joined c a.grouped b.grouped)).map body =
        (tabulate (.ofLimit 26) (.joined c b.grouped a.grouped)).map body) ∧
    (tabulate (.ofLimit 26) (.joined .implies a.grouped b.grouped)).map body =
      (tabulate (.ofLimit 26) (.joined .or a.negated b.grouped)).map body := by
  obtain ⟨f, hf, rfl⟩ := parse_of_tabulate ha
  obtain ⟨g, hg, rfl⟩ := parse_of_tabulate hb
  refine ⟨?_, ?_, ?_, ?_⟩
  · intro c
    refine ⟨_, tabulate_of_parse (Formula.parse_joined c hf hg), ?_, ?_⟩
    · intro x
      exact Formula.mem_support_binary
    · intro row hrow
      obtain ⟨hsize, houtput⟩ := inputs_of_mem_rows hrow
      have hleft := lookup_restrict a hsize fun x hx =>
        Formula.mem_support_binary.2 (Or.inl hx)
      have hright := lookup_restrict b hsize fun x hx =>
        Formula.mem_support_binary.2 (Or.inr hx)
      exact ⟨_, _, hleft, hright, houtput⟩
  · refine ⟨_, tabulate_of_parse (Formula.parse_negated hf), fun x => Iff.rfl, ?_⟩
    intro row hrow
    obtain ⟨hsize, houtput⟩ := inputs_of_mem_rows hrow
    exact ⟨_, lookup_restrict a hsize fun x hx => hx, houtput⟩
  · intro c hc
    refine body_of_parse_equivalent (Formula.parse_joined c hf hg) (Formula.parse_joined c hg hf)
      ?_ fun σ => apply_comm hc (f.value σ) (g.value σ)
    intro x
    rw [Formula.mem_support_binary, Formula.mem_support_binary, or_comm]
  · refine body_of_parse_equivalent (Formula.parse_joined .implies hf hg)
      (Formula.parse_negated_joined .or hf hg) ?_ fun σ => rfl
    intro x
    exact Iff.rfl

/-- `(q) ∧ (p → q)` and `(p → q) ∧ (q)` have the same table, as the table of `q` has one column
less than that of `p → q`. -/
theorem tabulate_compound_uneven :
    let a : Text := ['q']
    let b : Text := ['p', '→', 'q']
    (tabulate (.ofLimit 26) (.joined .and a.grouped b.grouped)).map outputs =
        .ok [false, true, false, true] ∧
      (tabulate (.ofLimit 26) (.joined .and a.grouped b.grouped)).map body =
        (tabulate (.ofLimit 26) (.joined .and b.grouped a.grouped)).map body := by
  intro a b
  obtain ⟨ta, ha⟩ : ∃ t, tabulate (.ofLimit 26) a = .ok t := ⟨_, rfl⟩
  obtain ⟨tb, hb⟩ : ∃ t, tabulate (.ofLimit 26) b = .ok t := ⟨_, rfl⟩
  exact ⟨by decide, (tabulate_compound ha hb).2.2.1 .and (by decide)⟩

end Table

end Propositional
