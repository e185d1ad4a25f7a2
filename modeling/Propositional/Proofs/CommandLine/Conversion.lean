import Propositional.CommandLine
import Propositional.Proofs.Notation.Stability
import Propositional.Proofs.Table.Agreement
import Propositional.Proofs.Table.Decoding
/-!
# Propositional.Proofs.CommandLine.Conversion

Converting first and tabulating later.

What the command prints for a table is the text as it was given, with the names of the variables
before it and the lines of the rows behind it (`Invocation.output_tabulating`). Names and rows are
the body of the table, and the body is the same for all texts whose canonical texts have the same
ink. So a formula that has been converted to symbols, and may have been spaced anew since, gives the
output of the formula itself under another heading. A formula that was converted from words may even
be read as words again, since its canonical text stays as it is.
-/

namespace Propositional

/-- The heading up to the formula: the names of the variables, and the bar. -/
def Layout.lead (l : Layout) (vars : VariableSet) : Text :=
  vars.toList.flatMap (fun x => [x.name, l.style.separator]) ++ l.bar

/-- The rendering of a table is its formula between the names of its variables and its rows. -/
theorem Table.render_eq_lead (format : Format) (t : Table) :
    t.render format =
      (Layout.ofFormat format).lead t.vars ++ t.formula ++
        '\n' :: (Layout.ofFormat format).lines t.rows := by
  simp only [Layout.render_eq, Layout.heading, Layout.lead, List.append_assoc]

namespace CommandLine

/-- Two outputs for the formulas `a` and `b` differ in these formulas only: both are refused for the
same cause, or their headings name the same variables, and the lines of the same rows follow. -/
def SameButFormula (format : Format) (a b : Text) (r s : Except Error Text) : Prop :=
  let l := Layout.ofFormat format
  (∃ e, r = .error e ∧ s = .error e) ∨
    ∃ vars rows, r = .ok (l.lead vars ++ a ++ '\n' :: l.lines rows) ∧
      s = .ok (l.lead vars ++ b ++ '\n' :: l.lines rows)

namespace Invocation

/-- The invocation with another formula, in a given notation. -/
def retold (i : Invocation) (style : Notation) (formula : Text) : Invocation :=
  { i with formula := formula, style := style }

/-- The invocation for the formula's table. -/
def tabulating (i : Invocation) : Invocation := { i with target? := none }

/-- The invocation for the formula in another notation. -/
def converting (i : Invocation) (target : Notation) : Invocation :=
  { i with target? := some target }

/-- A conversion prints the converted formula on a line. -/
theorem output_converting (i : Invocation) (target : Notation) :
    (i.converting target).output = .ok (i.formula.convert i.style target ++ ['\n']) := rfl

/-- The output for a table is the body of the table with the formula as it was given. -/
theorem output_tabulating (i : Invocation) (style : Notation) (text : Text) :
    (i.retold style text).tabulating.output =
      ((Table.tabulateText i.config style text).map Table.body).map fun body =>
        (Layout.ofFormat i.format).lead body.1 ++ text ++
          '\n' :: (Layout.ofFormat i.format).lines body.2 := by
  show (Table.tabulateText i.config style text).map (Table.render i.format) = _
  rw [Table.tabulateText_eq]
  cases Table.tabulate i.config (text.canonical style) with
  | error e => rfl
  | ok t => exact congrArg Except.ok (Table.render_eq_lead i.format _)

/-- Formulas whose canonical texts have the same ink give the same output but for the formula. -/
theorem sameButFormula_of_ink (i : Invocation) {source target : Notation} {a b : Text}
    (h : (a.canonical source).ink = (b.canonical target).ink) :
    SameButFormula i.format a b (i.retold source a).tabulating.output
      (i.retold target b).tabulating.output := by
  have hbody : (Table.tabulateText i.config source a).map Table.body =
      (Table.tabulateText i.config target b).map Table.body := by
    rw [Table.body_tabulateText, Table.body_tabulateText, Table.body_of_ink h]
  rw [output_tabulating, output_tabulating, hbody]
  cases (Table.tabulateText i.config target b).map Table.body with
  | error e => exact Or.inl ⟨e, rfl, rfl⟩
  | ok body => exact Or.inr ⟨body.1, body.2, rfl, rfl⟩

/-- Converting to symbols first makes no difference to a table but for the formula in its heading:
not if the converted formula is spaced in any other way, and not if it has been converted from words
and is read as words again. -/
theorem output_of_converted (i : Invocation) :
    ∃ y, (i.converting .symbolic).output = .ok (y ++ ['\n']) ∧
      ∀ ending ∈ [[], ['\n']],
        (∀ y' : Text, y'.ink = (y ++ ending).ink →
          SameButFormula i.format i.formula y' i.tabulating.output
            (i.retold .symbolic y').tabulating.output) ∧
        (i.style = .word →
          SameButFormula i.format i.formula (y ++ ending) i.tabulating.output
            (i.retold .word (y ++ ending)).tabulating.output) := by
  refine ⟨i.formula.canonical i.style, i.output_converting .symbolic, ?_⟩
  intro ending hending
  have hblank : ∀ c ∈ ending, isBlank c = true := by
    rcases List.mem_pair.1 hending with rfl | rfl <;> simp
  constructor
  · intro y' hink
    have hsymbolic : (y'.canonical .symbolic).ink = y'.ink := Text.ink_tidy y'
    have hcanonical : (i.formula.canonical i.style).ink = (y'.canonical .symbolic).ink := by
      rw [hsymbolic, hink, Text.ink_append, Text.ink_of_blank hblank, List.append_nil]
    exact i.sameButFormula_of_ink hcanonical
  · intro hword
    -- A text that was converted from words is canonical, so reading it as words leaves it as it is.
    have hcanonical : (i.formula.canonical i.style).ink =
        ((i.formula.canonical i.style ++ ending).canonical .word).ink := by
      rw [Text.canonical_append_of_blank hblank, hword, Text.canonical_word_canonical]
    exact i.sameButFormula_of_ink hcanonical

/-- The formula `p AND NOT q` is converted to `p ∧ ¬q`. That text, read as words, and `p∧`, tab,
`¬ q`, read as symbols, give the same lines of rows. -/
theorem output_of_converted_words :
    let i : Invocation :=
      { formula := ['p', ' ', 'A', 'N', 'D', ' ', 'N', 'O', 'T', ' ', 'q'], style := .word,
        format := .csv, config := .ofLimit 2 }
    let converted : Text := ['p', ' ', '∧', ' ', '¬', 'q']
    let spaced : Text := ['p', '∧', '\t', '¬', ' ', 'q']
    (i.converting .symbolic).output = .ok (converted ++ ['\n']) ∧
      SameButFormula .csv i.formula spaced i.tabulating.output
        (i.retold .symbolic spaced).tabulating.output ∧
      SameButFormula .csv i.formula (converted ++ ['\n']) i.tabulating.output
        (i.retold .word (converted ++ ['\n'])).tabulating.output ∧
      i.tabulating.output.isOk = true := by
  intro i converted spaced
  obtain ⟨y, hy, hsame⟩ := output_of_converted i
  have hconverted : (i.converting .symbolic).output = .ok (converted ++ ['\n']) := by
    decide +kernel
  obtain rfl : converted = y :=
    List.append_cancel_right (Except.ok.inj (hconverted.symm.trans hy))
  obtain ⟨hspaced, hreread⟩ := hsame ['\n'] (by simp)
  exact ⟨hconverted, hspaced spaced (by decide), hreread rfl, by decide +kernel⟩

end Invocation

end CommandLine

end Propositional
