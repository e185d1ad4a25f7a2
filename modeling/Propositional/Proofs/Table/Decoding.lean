import Propositional.Proofs.Table.Tabulation
import Propositional.Table.Rendering
/-!
# Propositional.Proofs.Table.Decoding

Reading a table back from its rendering.

A heading quotes nothing: its formula may contain separators and line breaks, and no number of
columns is written down. So a rendering is read from its end (`Layout.read`). The last line is the
last row, and its separators number the columns. With `n` columns the last `2 ^ n` lines are the
rows, and what stands before them is the heading, in which every name takes two characters.

The three renderings differ in their `Layout` only. Reading any of them gives back the table that
was rendered (`Layout.read_rendering`), so a rendering determines its table.
-/

namespace Propositional

/-! ### Layouts -/

/-- The shape that the renderings share: cells in a style, and what stands before the formula and
before the outputs. -/
structure Layout where
  style : SeparatedStyle
  /-- What stands before the formula and before the outputs. -/
  bar : Text
  /-- The output is a cell of its own. -/
  bar_ends : bar = [] ∨ bar.getLast? = some style.separator := by decide
  /-- A separator is not taken for a name. -/
  separator_plain : style.separator.isLower = false := by decide
  /-- A row is a single line. -/
  newline_not_mem : '\n' ∉ style.separator :: bar ∧ ∀ b, '\n' ∉ style.cell b := by decide
  /-- A cell ends at the next separator. -/
  separator_not_mem : ∀ b, style.separator ∉ style.cell b := by decide
  yes_ne_no : style.yes ≠ style.no := by decide

namespace Layout

/-- The layout of a rendering. -/
def ofFormat : Format → Layout
  | .grid => { style := ⟨' ', ['T'], ['F']⟩, bar := ['|', ' '] }
  | .tsv => { style := .tsv, bar := [] }
  | .csv => { style := .csv, bar := [] }

variable (l : Layout)

/-- The heading without its line break. -/
def heading (t : Table) : Text :=
  t.vars.toList.flatMap (fun x => [x.name, l.style.separator]) ++ (l.bar ++ t.formula)

/-- The cells of some inputs, each with the separator behind it. -/
def cells (bits : Bits) : Text := bits.flatMap fun b => l.style.cell b ++ [l.style.separator]

/-- The line of a row without its line break. -/
def line (r : Row) : Text := l.cells r.inputs.values ++ (l.bar ++ l.style.cell r.output)

/-- The lines of some rows, each with its line break. -/
def lines (rows : List Row) : Text := rows.flatMap fun r => l.line r ++ ['\n']

/-- A separated rendering is the heading and the lines of the rows in a layout without a bar. -/
theorem separated_eq (hbar : l.bar = []) (t : Table) :
    t.separated l.style = l.heading t ++ '\n' :: l.lines t.rows := by
  have hline : l.style.line = fun r => l.line r ++ ['\n'] := by
    funext r
    simp [SeparatedStyle.line, line, cells, hbar]
  simp [Table.separated, SeparatedStyle.heading, heading, lines, hline, hbar]

/-- Every rendering is the heading and the lines of the rows in its layout. -/
theorem render_eq (format : Format) (t : Table) :
    t.render format =
      (ofFormat format).heading t ++ '\n' :: (ofFormat format).lines t.rows := by
  cases format with
  | grid =>
      have hletter : ∀ b, SeparatedStyle.cell ⟨' ', ['T'], ['F']⟩ b = [Row.letter b] := by
        intro b
        cases b <;> rfl
      have hline : Row.gridLine = fun r => (ofFormat .grid).line r ++ ['\n'] := by
        funext r
        simp [Row.gridLine, line, cells, ofFormat, hletter]
      simp [Table.render, Table.grid, Table.gridHeading, heading, lines, hline, ofFormat]
  | tsv => exact separated_eq (ofFormat .tsv) rfl t
  | csv => exact separated_eq (ofFormat .csv) rfl t

/-! ### Reading a line -/

/-- Pieces that end with a separator each are cut off one by one. -/
theorem splitOn_flatMap_append {α : Type} {separator : Char} {piece : α → Text}
    (h : ∀ a, separator ∉ piece a) (as : List α) (rest : Text) :
    (as.flatMap (fun a => piece a ++ [separator]) ++ rest).splitOn separator =
      as.map piece ++ rest.splitOn separator := by
  induction as with
  | nil => rfl
  | cons a as ih =>
      have hcons : (a :: as).flatMap (fun a => piece a ++ [separator]) ++ rest =
          piece a ++ separator :: (as.flatMap (fun a => piece a ++ [separator]) ++ rest) := by
        simp
      rw [hcons, List.splitOn_append_cons_self_of_not_mem (h a), ih, List.map_cons,
        List.cons_append]

/-- The number of columns of a row's line: its separators that are not the bar's. -/
def columns (line : Text) : Nat :=
  line.count l.style.separator - l.bar.count l.style.separator

/-- The row that a line with this many columns shows. -/
def readLine (columns : Nat) (line : Text) : Row :=
  let found := line.splitOn l.style.separator
  ⟨⟨(found.take columns).map (· == l.style.yes)⟩, found.getLast? == some l.style.yes⟩

theorem cell_beq_yes (b : Bool) : (l.style.cell b == l.style.yes) = b := by
  cases b with
  | false => simpa [SeparatedStyle.cell] using l.yes_ne_no.symm
  | true => simp [SeparatedStyle.cell]

theorem count_cells (bits : Bits) : (l.cells bits).count l.style.separator = bits.length := by
  induction bits with
  | nil => rfl
  | cons b bits ih =>
      have hcell := List.count_eq_zero.2 (l.separator_not_mem b)
      have hcons : l.cells (b :: bits) = l.style.cell b ++ l.style.separator :: l.cells bits := by
        simp [cells]
      rw [hcons, List.count_append, hcell, List.count_cons_self, ih, List.length_cons, Nat.zero_add]

theorem columns_line (r : Row) : l.columns (l.line r) = r.inputs.size := by
  have hcell := List.count_eq_zero.2 (l.separator_not_mem r.output)
  rw [columns, line, List.count_append, List.count_append, count_cells, hcell, Valuation.size]
  omega

theorem splitOn_cells_append (bits : Bits) (rest : Text) :
    (l.cells bits ++ rest).splitOn l.style.separator =
      bits.map l.style.cell ++ rest.splitOn l.style.separator :=
  splitOn_flatMap_append l.separator_not_mem bits rest

/-- Behind the bar there is one cell. -/
theorem getLast?_splitOn_bar (b : Bool) :
    ((l.bar ++ l.style.cell b).splitOn l.style.separator).getLast? = some (l.style.cell b) := by
  have hcell := List.splitOn_eq_singleton (l.separator_not_mem b)
  rcases l.bar_ends with hbar | hbar
  · rw [hbar, List.nil_append, hcell, List.getLast?_singleton]
  · obtain ⟨front, hfront⟩ := List.getLast?_eq_some_iff.1 hbar
    rw [hfront, List.append_assoc, List.singleton_append, List.splitOn_append_cons_self, hcell,
      List.getLast?_concat]

theorem readLine_line (r : Row) : l.readLine r.inputs.size (l.line r) = r := by
  have hinputs : (r.inputs.values.map l.style.cell).map (· == l.style.yes) = r.inputs.values := by
    rw [List.map_map]
    exact (List.map_congr_left fun b _ => l.cell_beq_yes b).trans (List.map_id _)
  have houtput : (some (l.style.cell r.output) == some l.style.yes) = r.output :=
    l.cell_beq_yes r.output
  have htake : (r.inputs.values.map l.style.cell).length = r.inputs.size := List.length_map _
  rw [readLine, line, splitOn_cells_append, ← htake, List.take_left, hinputs,
    List.getLast?_append_of_ne_nil _ (List.splitOn_ne_nil _ _), getLast?_splitOn_bar, houtput]

/-! ### Reading a rendering -/

/-- The table that a rendering in this layout shows. -/
def read (text : Text) : Table :=
  let found := (text.splitOn '\n').dropLast
  let columns := l.columns (found.getLast?.getD [])
  let first := found.length - 2 ^ columns
  let heading := ['\n'].intercalate (found.take first)
  { formula := heading.drop (2 * columns + l.bar.length)
    vars := .ofList ((heading.take (2 * columns)).filterMap Variable.ofChar?)
    rows := (found.drop first).map (l.readLine columns) }

theorem newline_not_mem_line (r : Row) : '\n' ∉ l.line r := by
  obtain ⟨hbar, hcell⟩ := l.newline_not_mem
  rw [List.mem_cons, not_or] at hbar
  simp [line, cells, hbar.1, hbar.2, hcell]

theorem splitOn_lines (rows : List Row) :
    (l.lines rows).splitOn '\n' = rows.map l.line ++ [[]] := by
  have hlines := splitOn_flatMap_append l.newline_not_mem_line rows []
  rwa [List.append_nil, List.splitOn_nil] at hlines

/-- Each name takes two characters of the heading. -/
theorem length_names (xs : List Variable) :
    (xs.flatMap fun x => [x.name, l.style.separator]).length = 2 * xs.length := by
  simp [List.length_flatMap, Nat.mul_comm]

theorem filterMap_names (xs : List Variable) :
    (xs.flatMap fun x => [x.name, l.style.separator]).filterMap Variable.ofChar? = xs := by
  have hseparator := Variable.ofChar?_eq_none_iff.2 l.separator_plain
  induction xs with
  | nil => rfl
  | cons x xs ih => simp [hseparator, ih]

end Layout

/-- As many rows as a table of its columns has, and a value in each row for each column. -/
structure Table.Regular (t : Table) : Prop where
  rows_length : t.rows.length = 2 ^ t.vars.size
  inputs_size : ∀ r ∈ t.rows, r.inputs.size = t.vars.size

theorem VariableSet.ofList_toList (vars : VariableSet) : ofList vars.toList = vars :=
  ext_mem fun _ => mem_ofList

namespace Layout

variable (l : Layout)

/-- The lines before the last row are told from the rows by their number, not by what they show. -/
theorem dropLast_splitOn (t : Table) :
    ((l.heading t ++ '\n' :: l.lines t.rows).splitOn '\n').dropLast =
      (l.heading t).splitOn '\n' ++ t.rows.map l.line := by
  rw [List.splitOn_append_cons_self, splitOn_lines, ← List.append_assoc, List.dropLast_concat]

/-- The last line numbers the columns. -/
theorem columns_getLast? {t : Table} (h : t.Regular) (before : List Text) :
    l.columns ((before ++ t.rows.map l.line).getLast?.getD []) = t.vars.size := by
  have hne : t.rows ≠ [] := by
    apply List.ne_nil_of_length_pos
    rw [h.rows_length]
    exact Nat.two_pow_pos _
  obtain ⟨rows, r, hrows⟩ := (List.eq_nil_or_concat' t.rows).resolve_left hne
  have hlast : (before ++ t.rows.map l.line).getLast? = some (l.line r) := by
    rw [hrows, List.map_append, ← List.append_assoc]
    exact List.getLast?_concat ..
  rw [hlast, Option.getD_some, columns_line]
  exact h.inputs_size r (by simp [hrows])

theorem map_readLine_lines {t : Table} (h : t.Regular) :
    (t.rows.map l.line).map (l.readLine t.vars.size) = t.rows := by
  rw [List.map_map]
  refine (List.map_congr_left fun r hr => ?_).trans (List.map_id _)
  rw [Function.comp_apply, ← h.inputs_size r hr, readLine_line, id]

theorem take_heading (t : Table) :
    (l.heading t).take (2 * t.vars.size) =
      t.vars.toList.flatMap fun x => [x.name, l.style.separator] := by
  rw [heading, VariableSet.size, ← l.length_names, List.take_left]

theorem drop_heading (t : Table) :
    (l.heading t).drop (2 * t.vars.size + l.bar.length) = t.formula := by
  rw [heading, VariableSet.size, ← l.length_names, ← List.drop_drop, List.drop_left,
    List.drop_left]

/-- Reading the rendering of a regular table gives the table, whatever its heading contains. -/
theorem read_rendering {t : Table} (h : t.Regular) :
    l.read (l.heading t ++ '\n' :: l.lines t.rows) = t := by
  have hfirst : ((l.heading t).splitOn '\n' ++ t.rows.map l.line).length - 2 ^ t.vars.size =
      ((l.heading t).splitOn '\n').length := by
    rw [List.length_append, List.length_map, h.rows_length, Nat.add_sub_cancel]
  rw [read]
  simp only [dropLast_splitOn, l.columns_getLast? h, hfirst, List.take_left, List.drop_left,
    List.intercalate_splitOn, take_heading, drop_heading, filterMap_names,
    VariableSet.ofList_toList, l.map_readLine_lines h]

end Layout

namespace Table

/-- The table that a rendering in the given format shows. -/
def read (format : Format) (text : Text) : Table := (Layout.ofFormat format).read text

/-- A table of a canonical text or of a text in some notation. -/
def Tabulated (t : Table) : Prop :=
  ∃ config text, tabulate config text = .ok t ∨ ∃ style, tabulateText config style text = .ok t

theorem regular_ofFormula (text : Text) (vars : VariableSet) (f : Formula) :
    (ofFormula text vars f).Regular := by
  refine ⟨by simp [ofFormula], ?_⟩
  intro r hr
  exact (inputs_of_mem_rows hr).1

theorem Tabulated.exists_madeOf {t : Table} (h : t.Tabulated) : ∃ text, t.MadeOf text := by
  obtain ⟨config, text, h | ⟨style, h⟩⟩ := h
  · exact ⟨text, config, Or.inl h⟩
  · exact ⟨text.canonical style, config, Or.inr ⟨style, text, rfl, h⟩⟩

theorem Tabulated.regular {t : Table} (h : t.Tabulated) : t.Regular := by
  obtain ⟨text, hmade⟩ := h.exists_madeOf
  obtain ⟨heading, f, -, rfl⟩ := hmade.exists_formula
  exact regular_ofFormula heading f.support f

/-- Reading a rendering of a tabulated text gives back its table, whatever the text contains. So two
tables are rendered alike only if they are the same. -/
theorem read_render {t : Table} (h : t.Tabulated) (format : Format) :
    read format (t.render format) = t ∧
      ∀ t' : Table, t'.Tabulated → t'.render format = t.render format → t' = t := by
  have hread : ∀ t' : Table, t'.Tabulated → read format (t'.render format) = t' := by
    intro t' h'
    rw [read, Layout.render_eq]
    exact (Layout.ofFormat format).read_rendering h'.regular
  refine ⟨hread t h, ?_⟩
  intro t' h' hrender
  rw [← hread t' h', hrender, hread t h]

/-- The formula `p`, line break, tab, `AND q` takes two lines of the heading and is read back. -/
theorem read_render_two_lines :
    let text : Text := ['p', '\n', '\t', 'A', 'N', 'D', ' ', 'q']
    ∃ t, tabulateText (.ofLimit 2) .word text = .ok t ∧ t.formula = text ∧
      read .tsv (t.render .tsv) = t := by
  intro text
  cases h : tabulateText (.ofLimit 2) .word text with
  | error e =>
      have hok : (tabulateText (.ofLimit 2) .word text).isOk = true := by decide +kernel
      rw [h] at hok
      cases hok
  | ok t =>
      have hformula : (tabulateText (.ofLimit 2) .word text).map formula = .ok text := by
        decide +kernel
      rw [h] at hformula
      exact ⟨t, rfl, Except.ok.inj hformula, (read_render ⟨_, _, Or.inr ⟨_, h⟩⟩ .tsv).1⟩

end Table

end Propositional
