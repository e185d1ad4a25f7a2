import Mathlib.Logic.Equiv.Basic
import Propositional.Proofs.Formula.Renaming
import Propositional.Proofs.Table.Tabulation
/-!
# Propositional.Proofs.Table.Renaming

Tables of renamed texts.

A renamed text is refused for the same cause as the text, or it has the table of the renamed formula
(`tabulate_rename`). The columns of that table may stand in another order, so that its rows are
permuted. What corresponds are not the numbers of the rows but the values in them: each choice of
values for the variables has one row in either table (`Table.OnlyRow`), and the outputs in the two
rows agree. If the renaming keeps the order of the variables, the rows are the same one by one.
-/

namespace Propositional

namespace Table

/-! ### The row of some values -/

/-- The row is the only one of the table in which each variable of `vars`, by its name in the table,
has the value that `σ` gives it. -/
def OnlyRow (t : Table) (name : Variable → Variable) (vars : VariableSet) (σ : Variable → Bool)
    (row : Row) : Prop :=
  ∀ p, (p ∈ t.rows ∧ ∀ x ∈ vars, t.vars.assign p.inputs (name x) = some (σ x)) ↔ p = row

/-- In the table of a formula each choice of values has a row, with the value of the formula. -/
theorem onlyRow_ofFormula (text : Text) (f : Formula) (σ : Variable → Bool) :
    (ofFormula text f.support f).OnlyRow id f.support σ
      ⟨⟨f.support.toList.map σ⟩, f.value σ⟩ := by
  intro p
  rw [mem_rows_ofFormula_iff]
  -- The formula looks at its own variables only, and their values are those of `σ`.
  have hvalue : ∀ v, (∀ x ∈ f.support, f.support.assign v x = some (σ x)) →
      f.value (f.support.assign v).total = f.value σ := by
    intro v hv
    refine Formula.value_congr fun x hx => ?_
    rw [Assignment.total, hv x (Formula.mem_support.2 hx), Option.getD_some]
  constructor
  · intro h
    obtain ⟨⟨hsize, houtput⟩, hassign⟩ := h
    obtain ⟨v, b⟩ := p
    have hv : v = ⟨f.support.toList.map σ⟩ := (VariableSet.assign_eq_iff hsize σ).1 hassign
    have hb : b = f.value σ := houtput.trans (hvalue v hassign)
    rw [hv, hb]
  · intro h
    subst h
    have hsize : Valuation.size ⟨f.support.toList.map σ⟩ = f.support.size := List.length_map ..
    have hassign := (VariableSet.assign_eq_iff hsize σ).2 rfl
    exact ⟨⟨hsize, (hvalue _ hassign).symm⟩, hassign⟩

variable {r : Variable → Variable}

/-- Values for variables are values for their new names. -/
theorem OnlyRow.of_image (hr : Function.Injective r) {t : Table} {vars : VariableSet}
    {σ : Variable → Bool} {row : Row}
    (h : t.OnlyRow id (vars.image r) (Function.extend r σ fun _ => false) row) :
    t.OnlyRow r vars σ row := by
  intro p
  rw [← h p]
  refine and_congr_right fun _ => ?_
  simp [hr.extend_apply]

theorem onlyRow_rename (hr : Function.Injective r) (text : Text) (f : Formula)
    (σ : Variable → Bool) :
    ∃ row, (ofFormula text (f.rename r).support (f.rename r)).OnlyRow r f.support σ row ∧
      row.output = f.value σ := by
  have honly := onlyRow_ofFormula text (f.rename r) (Function.extend r σ fun _ => false)
  rw [Formula.support_rename] at honly ⊢
  refine ⟨_, .of_image hr honly, ?_⟩
  simp only [Formula.value_rename, hr.extend_apply]

/-! ### Renamed tables -/

/-- A renamed text is refused for the same cause, or has the table of the renamed formula. -/
theorem tabulate_rename (hr : Function.Injective r) (config : Config) (text : Text) :
    (∃ e, tabulate config text = .error e ∧ tabulate config (text.rename r) = .error e) ∨
      ∃ f, tabulate config text = .ok (ofFormula text f.support f) ∧
        tabulate config (text.rename r) =
          .ok (ofFormula (text.rename r) (f.rename r).support (f.rename r)) := by
  rw [tabulate_eq_ofFormula, tabulate_eq_ofFormula, VariableSet.ofText_rename,
    Formula.parse_rename]
  cases hvars : VariableSet.ofText text with
  | error e => exact Or.inl ⟨e, rfl, rfl⟩
  | ok vars =>
      simp only [Except.map, ok_bind, VariableSet.size_image hr]
      split
      · exact Or.inl ⟨_, rfl, rfl⟩
      · cases hf : Formula.parse text with
        | error e => exact Or.inl ⟨e, rfl, rfl⟩
        | ok f =>
            rw [Formula.ofText_of_parse hf] at hvars
            rw [← Except.ok.inj hvars, ← Formula.support_rename]
            exact Or.inr ⟨f, rfl, rfl⟩

/-- With the columns in their order the rows stay as they are. -/
theorem rows_rename (a b : Text) {f : Formula}
    (h : ∀ x ∈ f.support, ∀ y ∈ f.support, x < y → r x < r y) :
    (ofFormula a (f.rename r).support (f.rename r)).rows = (ofFormula b f.support f).rows := by
  have hcolumns : (f.rename r).support.toList = f.support.toList.map r := by
    rw [Formula.support_rename, VariableSet.toList_image h]
  have hsize : (f.rename r).support.size = f.support.size := by
    rw [VariableSet.size, hcolumns, List.length_map, VariableSet.size]
  have hrow : Row.ofFormula (f.rename r).support (f.rename r) = Row.ofFormula f.support f := by
    funext i
    rw [Row.ofFormula, Row.ofFormula, hsize, Formula.value_rename]
    refine congrArg (Row.mk _) (Formula.value_congr fun x hx => ?_)
    obtain ⟨j, hj⟩ := List.mem_iff_getElem?.1 (Formula.mem_support.2 hx)
    have hj' : (f.rename r).support.toList[j]? = some (r x) := by
      rw [hcolumns, List.getElem?_map, hj, Option.map_some]
    rw [Assignment.total, Assignment.total, VariableSet.assign_of_getElem? hj,
      VariableSet.assign_of_getElem? hj']
  rw [ofFormula, ofFormula, hsize, hrow]

/-- Tabulation does not depend on which letters stand for the variables. If the letters of a text
are replaced one for one, the text is refused for the same cause, or there are as many rows and the
formula has the same output whenever its variables have the same values. If the new letters stand in
the same order, the rows are the same. -/
theorem tabulate_renamed (hr : Function.Injective r) (config : Config) (text : Text) :
    (∀ e, tabulate config text = .error e ↔ tabulate config (text.rename r) = .error e) ∧
    ∀ t, tabulate config text = .ok t →
      ∃ t', tabulate config (text.rename r) = .ok t' ∧
        t'.rows.length = t.rows.length ∧
        (∀ σ, ∃ row row', t.OnlyRow id t.vars σ row ∧ t'.OnlyRow r t.vars σ row' ∧
          row'.output = row.output) ∧
        ((∀ x ∈ t.vars, ∀ y ∈ t.vars, x < y → r x < r y) → t'.rows = t.rows) := by
  rcases tabulate_rename hr config text with ⟨e, herror, herror'⟩ | ⟨f, hok, hok'⟩
  · rw [herror, herror']
    exact ⟨fun e' => Iff.rfl, fun t ht => by cases ht⟩
  · rw [hok, hok']
    refine ⟨fun e => by simp, fun t ht => ?_⟩
    cases ht
    refine ⟨_, rfl, ?_, ?_, rows_rename (text.rename r) text⟩
    · simp [ofFormula, Formula.support_rename, VariableSet.size_image hr]
    · intro σ
      obtain ⟨row', honly', houtput'⟩ := onlyRow_rename hr (text.rename r) f σ
      exact ⟨_, row', onlyRow_ofFormula text f σ, honly', houtput'⟩

/-- With `p` and `q` exchanged, `p → q` has other outputs, but not where `p` alone is true. With `a`
in place of `p` it has the same rows. -/
theorem tabulate_renamed_exchanged :
    let a : Variable := ⟨'a', rfl⟩
    let p : Variable := ⟨'p', rfl⟩
    let q : Variable := ⟨'q', rfl⟩
    let text : Text := ['p', '→', 'q']
    ∃ t t' t'', tabulate (.ofLimit 2) text = .ok t ∧
      tabulate (.ofLimit 2) (text.rename (Equiv.swap p q)) = .ok t' ∧
      tabulate (.ofLimit 2) (text.rename (Equiv.swap p a)) = .ok t'' ∧
      t'.outputs ≠ t.outputs ∧ t''.rows = t.rows ∧
      ∃ row row', t.OnlyRow id t.vars (· = p) row ∧
        t'.OnlyRow (Equiv.swap p q) t.vars (· = p) row' ∧ row'.output = row.output := by
  intro a p q text
  have hcolumns : (tabulate (.ofLimit 2) text).map (·.vars.toList) = .ok [p, q] := by decide
  have houtputs : (tabulate (.ofLimit 2) text).map outputs = .ok [true, true, false, true] := by
    decide
  have houtputs' : (tabulate (.ofLimit 2) (text.rename (Equiv.swap p q))).map outputs =
      .ok [true, false, true, true] := by decide
  obtain ⟨t, ht⟩ : ∃ t, tabulate (.ofLimit 2) text = .ok t := ⟨_, rfl⟩
  obtain ⟨t', ht', -, hvalues, -⟩ :=
    (tabulate_renamed (Equiv.swap p q).injective (.ofLimit 2) text).2 t ht
  obtain ⟨t'', ht'', -, -, hrows⟩ :=
    (tabulate_renamed (Equiv.swap p a).injective (.ofLimit 2) text).2 t ht
  rw [ht] at hcolumns houtputs
  rw [ht'] at houtputs'
  have hcolumns : t.vars.toList = [p, q] := Except.ok.inj hcolumns
  refine ⟨t, t', t'', ht, ht', ht'', ?_, hrows ?_, hvalues _⟩
  · rw [Except.ok.inj houtputs, Except.ok.inj houtputs']
    decide
  · show ∀ x ∈ t.vars.toList, ∀ y ∈ t.vars.toList, _
    rw [hcolumns]
    decide

end Table

end Propositional
