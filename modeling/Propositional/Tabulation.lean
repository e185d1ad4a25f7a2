import Propositional.Instruments
/-!
# Propositional.Tabulation

The truth table of a formula.

With silent instruments the stages of a tabulation are functions to `Except Error`, and nothing
remains of the instruments: `Table.tabulate_eq` states the table of a canonical text as a chain of
four such functions, and `Table.tabulateText_eq` reduces the table of any text to it.
-/

namespace Propositional

/-- Instruments that drop every event and check nothing. -/
def Instruments.silent : Instruments Id where
  record _ := pure ()
  check _ _ := pure ()

/-- The table of a canonical text. -/
def Table.tabulate (config : Config) (text : Text) : Except Error Table :=
  Id.run (Instruments.silent.tabulate config text).run

/-- The table of a text in a given notation. -/
def Table.tabulateText (config : Config) (style : Notation) (text : Text) : Except Error Table :=
  Id.run (Instruments.silent.tabulateText config style text).run

/-! ### What the silent stages compute -/

theorem silent_record (event : Event) : Instruments.silent.record event = pure () := rfl

/-- The silent traversal of a list is the traversal by the results. -/
theorem run_mapM {α β : Type} (f : α → ExceptT Error Id β) (xs : List α) :
    Id.run (xs.mapM f).run = xs.mapM (m := Except Error) fun a => Id.run (f a).run := by
  induction xs with
  | nil => rfl
  | cons x xs ih =>
      simp only [List.mapM_cons, ExceptT.run_bind, Id.run_bind]
      cases Id.run (f x).run with
      | error e => rfl
      | ok b =>
          simp only [Id.run_bind, ih, ok_bind]
          cases xs.mapM (m := Except Error) fun a => Id.run (f a).run <;> rfl

/-- A row has the value of the formula. -/
theorem run_silent_row (vars : VariableSet) (rpn : Rpn) (v : Valuation) :
    Id.run (Instruments.silent.row vars rpn v).run = (rpn.evalUnder vars v).map (Row.mk v) := by
  simp only [Instruments.row, Instruments.eval, Instruments.silent, Rpn.evalUnder, Rpn.eval]
  cases rpn.run (vars.assign v) with
  | error e => rfl
  | ok stack =>
      cases h : Rpn.settle stack with
      | error e => simp [h, Except.map, ok_bind]
      | ok b => simp [h, Except.map, ok_bind]

/-- The stages in their order: variables, limit, compilation, rows. -/
theorem Table.tabulate_eq (config : Config) (text : Text) :
    Table.tabulate config text = (do
      let vars ← VariableSet.ofText text
      if config.limit < vars.size then
        throw (.tooManyVariables vars.size config.limit)
      let rpn ← Rpn.compile text
      let rows ← (Enumeration.ofSize vars.size).toList.mapM fun v =>
        (rpn.evalUnder vars v).map (Row.mk v)
      return ⟨text, vars, rows⟩) := by
  unfold Table.tabulate Instruments.tabulate Instruments.findVariables Instruments.compile
  simp only [Enumeration.mapM_eq_toList_mapM]
  cases VariableSet.ofText text with
  | error e => rfl
  | ok vars =>
      by_cases hl : config.limit < vars.size
      · simp only [ok_bind, if_pos hl]
        simp [hl, silent_record]
        rfl
      · cases Rpn.compile text with
        | error e => simp [hl, silent_record, ok_bind, error_bind]
        | ok rpn =>
            simp only [ok_bind, if_neg hl, silent_record, liftM_pure, pure_bind, ExceptT.run_bind,
              Id.run_bind, run_mapM, run_silent_row]
            cases (Enumeration.ofSize vars.size).toList.mapM fun v =>
              (rpn.evalUnder vars v).map (Row.mk v) <;> rfl

/-- A table in a given notation is the table of the canonical text under another heading. -/
theorem Table.tabulateText_eq (config : Config) (style : Notation) (text : Text) :
    Table.tabulateText config style text =
      (Table.tabulate config (text.canonical style)).map fun t => { t with formula := text } := by
  unfold Table.tabulateText Instruments.tabulateText Instruments.convert
  simp only [silent_record, Text.convert_symbolic, pure_bind, liftM_pure, ExceptT.run_bind,
    Id.run_bind]
  unfold Table.tabulate
  cases Id.run (Instruments.silent.tabulate config (text.canonical style)).run <;> rfl

end Propositional
