import Propositional.Proofs.Formula.Compound
import Propositional.Proofs.Table.Decoding
import Propositional.Proofs.Text.Spelling
/-!
# Propositional.Proofs.Table.Sheet

The lines and the cells of a separated rendering.

A program that imports a separated rendering expects a **sheet** (`Table.IsSheet`): a line for the
heading and one for each row, all of them ended by a line break, and in each line a cell for every
variable and one more. The lines of the rows are as expected. In the heading the formula stands as
it was given, so its line breaks begin new lines and its separators begin new cells
(`cells_separated`), and the rendering is a sheet exactly if the formula has neither
(`isSheet_separated_iff`).

A formula that has a table contains no comma, because compilation would have refused it. Tabs and
line breaks are blanks, which compilation skips.
-/

namespace Propositional

/-- The lines of a text, each cut into its cells. Behind the last line break no line begins. -/
def Text.cells (separator : Char) (text : Text) : List (List Text) :=
  (text.splitOn '\n').dropLast.map (·.splitOn separator)

/-- The cells of a row. -/
def SeparatedStyle.cells (style : SeparatedStyle) (r : Row) : List Text :=
  r.inputs.values.map style.cell ++ [style.cell r.output]

/-- The names of the variables, as cells. -/
def VariableSet.cells (vars : VariableSet) : List Text := vars.toList.map fun x => [x.name]

/-- A text shows a table line by line and cell by cell. -/
structure Table.IsSheet (t : Table) (style : SeparatedStyle) (text : Text) : Prop where
  /-- The last line has a line break too. -/
  ends : text.getLast? = some '\n'
  /-- A line for the heading, and one for each valuation. -/
  length_lines : (text.cells style.separator).length = 2 ^ t.vars.size + 1
  /-- A cell for each variable, and one more. -/
  length_line : ∀ line ∈ text.cells style.separator, line.length = t.vars.size + 1
  /-- The heading begins with the names. -/
  names : ∃ heading, (text.cells style.separator)[0]? = some heading ∧
    heading.take t.vars.size = t.vars.cells
  /-- The rows follow in their order. -/
  rows : ∀ i r, t.rows[i]? = some r →
    (text.cells style.separator)[i + 1]? = some (style.cells r)

/-! ### Cutting -/

/-- A text has one piece more than separators. -/
theorem length_splitOn (separator : Char) (text : Text) :
    (text.splitOn separator).length = text.count separator + 1 := by
  induction text with
  | nil => rfl
  | cons c text ih =>
      rw [List.splitOn_cons_eq_if_modifyHead, List.count_cons]
      split
      · rw [List.length_cons, ih]
      · rw [List.length_modifyHead, ih]

/-- What contains no separator belongs to the first piece. -/
theorem splitOn_append_of_not_mem {separator : Char} {front : Text} (h : separator ∉ front)
    (rest : Text) :
    (front ++ rest).splitOn separator = (rest.splitOn separator).modifyHead (front ++ ·) := by
  obtain ⟨first, more, hrest⟩ := List.exists_cons_of_ne_nil (List.splitOn_ne_nil separator rest)
  induction front with
  | nil => rw [List.nil_append, hrest, List.modifyHead_cons, List.nil_append]
  | cons c front ih =>
      have hc : (c == separator) = false := by
        simpa using fun heq : c = separator => h (heq ▸ List.mem_cons_self)
      have hfront := ih fun hmem => h (List.mem_cons_of_mem c hmem)
      rw [List.cons_append, List.splitOn_cons_eq_if_modifyHead, hfront, hrest, hc]
      rfl

namespace Layout

variable (l : Layout)

/-- A name is a cell. -/
theorem splitOn_names_append (vars : VariableSet) (rest : Text) :
    (vars.toList.flatMap (fun x => [x.name, l.style.separator]) ++ rest).splitOn
        l.style.separator = vars.cells ++ rest.splitOn l.style.separator := by
  have hnames : ∀ x : Variable, l.style.separator ∉ [x.name] := by
    intro x hx
    have hplain := l.separator_plain
    rw [List.mem_singleton.1 hx, x.isLower] at hplain
    cases hplain
  exact splitOn_flatMap_append hnames vars.toList rest

theorem newline_not_mem_names (vars : VariableSet) :
    '\n' ∉ vars.toList.flatMap fun x => [x.name, l.style.separator] := by
  obtain ⟨hbar, -⟩ := l.newline_not_mem
  intro h
  obtain ⟨x, -, hx⟩ := List.mem_flatMap.1 h
  rcases List.mem_cons.1 hx with hname | hseparator
  · exact absurd (hname ▸ x.isLower) (by decide)
  · exact hbar (List.mem_cons.2 (Or.inl (List.mem_singleton.1 hseparator)))

theorem splitOn_line (hbar : l.bar = []) (r : Row) :
    (l.line r).splitOn l.style.separator = l.style.cells r := by
  rw [line, hbar, List.nil_append, splitOn_cells_append,
    List.splitOn_eq_singleton (l.separator_not_mem r.output), SeparatedStyle.cells]

/-- The names stand before the first line of the formula, and the rows behind its last one. -/
theorem cells_separated (hbar : l.bar = []) (t : Table) :
    (t.separated l.style).cells l.style.separator =
      ((t.formula.splitOn '\n').map (·.splitOn l.style.separator)).modifyHead (t.vars.cells ++ ·) ++
        t.rows.map l.style.cells := by
  have hrows : (t.rows.map l.line).map (·.splitOn l.style.separator) = t.rows.map l.style.cells := by
    rw [List.map_map]
    exact List.map_congr_left fun r _ => l.splitOn_line hbar r
  have hheading : (l.heading t).splitOn '\n' = (t.formula.splitOn '\n').modifyHead
      (t.vars.toList.flatMap (fun x => [x.name, l.style.separator]) ++ ·) := by
    rw [heading, hbar, List.nil_append]
    exact splitOn_append_of_not_mem (l.newline_not_mem_names t.vars) t.formula
  obtain ⟨first, more, hformula⟩ :=
    List.exists_cons_of_ne_nil (List.splitOn_ne_nil '\n' t.formula)
  rw [Text.cells, separated_eq l hbar, dropLast_splitOn, List.map_append, hrows, hheading, hformula,
    List.modifyHead_cons, List.map_cons, List.map_cons, List.modifyHead_cons, splitOn_names_append]

/-- Every line of a separated rendering ends with a line break. -/
theorem getLast?_separated (hbar : l.bar = []) (t : Table) :
    (t.separated l.style).getLast? = some '\n' := by
  rw [separated_eq l hbar]
  rcases List.eq_nil_or_concat t.rows with hrows | ⟨rows, r, hrows⟩
  · simp [hrows, lines]
  · simp [hrows, lines, List.getLast?_cons]

/-- A line break in the formula adds a line. -/
theorem length_cells_separated (hbar : l.bar = []) {t : Table} (h : t.Regular) :
    ((t.separated l.style).cells l.style.separator).length =
      t.formula.count '\n' + 1 + 2 ^ t.vars.size := by
  rw [cells_separated l hbar, List.length_append, List.length_modifyHead, List.length_map,
    length_splitOn, List.length_map, h.rows_length]

theorem length_cells {t : Table} (h : t.Regular) {r : Row} (hr : r ∈ t.rows) :
    (l.style.cells r).length = t.vars.size + 1 := by
  have hsize : r.inputs.values.length = t.vars.size := h.inputs_size r hr
  rw [SeparatedStyle.cells, List.length_append, List.length_map, List.length_singleton, hsize]

/-- The formula has to be a single cell of the heading. -/
theorem isSheet_separated_iff (hbar : l.bar = []) {t : Table} (h : t.Regular) :
    t.IsSheet l.style (t.separated l.style) ↔
      '\n' ∉ t.formula ∧ l.style.separator ∉ t.formula := by
  have hnames : t.vars.cells.length = t.vars.size := List.length_map _
  constructor
  · intro hsheet
    have hlines := hsheet.length_lines
    rw [length_cells_separated l hbar h] at hlines
    have hbreak : '\n' ∉ t.formula := List.count_eq_zero.1 (by omega)
    have hheading := hsheet.length_line (t.vars.cells ++ t.formula.splitOn l.style.separator)
      (by simp [cells_separated l hbar, List.splitOn_eq_singleton hbreak])
    rw [List.length_append, hnames, length_splitOn] at hheading
    exact ⟨hbreak, List.count_eq_zero.1 (by omega)⟩
  · intro hplain
    obtain ⟨hbreak, hseparator⟩ := hplain
    have hcells : (t.separated l.style).cells l.style.separator =
        (t.vars.cells ++ [t.formula]) :: t.rows.map l.style.cells := by
      rw [cells_separated l hbar, List.splitOn_eq_singleton hbreak, List.map_singleton,
        List.splitOn_eq_singleton hseparator, List.modifyHead_cons, List.singleton_append]
    refine ⟨l.getLast?_separated hbar t, ?_, ?_, ⟨t.vars.cells ++ [t.formula], ?_, ?_⟩, ?_⟩
    · rw [hcells, List.length_cons, List.length_map, h.rows_length]
    · intro line hline
      rw [hcells] at hline
      rcases List.mem_cons.1 hline with rfl | hrow
      · rw [List.length_append, hnames, List.length_singleton]
      · obtain ⟨r, hr, rfl⟩ := List.mem_map.1 hrow
        exact l.length_cells h hr
    · rw [hcells, List.getElem?_cons_zero]
    · rw [← hnames, List.take_left]
    · intro i r hr
      rw [hcells, List.getElem?_cons_succ, List.getElem?_map, hr, Option.map_some]

end Layout

namespace Table

/-! ### Accepted formulas -/

/-- A character that belongs to no token and to no spelling of one is refused. -/
theorem not_mem_of_parse {style : Notation} {text : Text} {f : Formula}
    (h : Formula.parse (text.canonical style) = .ok f) {c : Char} (hblank : isBlank c = false)
    (htoken : Token.ofChar? c = none) (hmark : isMark c = false) (hword : isWordChar c = false) :
    c ∉ text := by
  intro hmem
  have hcanonical : c ∈ (text.canonical style).ink := by
    cases style with
    | symbolic =>
        rw [Text.canonical, Text.ink_tidy]
        exact List.mem_filter.2 ⟨hmem, by simp [hblank]⟩
    | word =>
        rw [Text.canonical, Text.ink_tidy]
        exact List.mem_filter.2 ⟨Text.mem_withSymbols hmark hword hmem, by simp [hblank]⟩
  obtain ⟨tokens, hink, -⟩ := Yard.exists_tokens_of_compile (Formula.compile_of_parse h)
  rw [hink] at hcanonical
  obtain ⟨token, -, rfl⟩ := List.mem_map.1 hcanonical
  rw [Token.ofChar?_char] at htoken
  cases htoken

/-- The separated renderings of an accepted text, line by line and cell by cell. The first cells are
the names of the variables. The lines and the cells of the text follow, and behind them the rows,
each in a line of its own with a cell for each input and one for the output. So the rendering is a
sheet exactly if the text has no line break and no separator. It never has a comma. -/
theorem separated_lines {config : Config} {style : Notation} {text : Text} {t : Table}
    (h : tabulateText config style text = .ok t) {format : SeparatedStyle}
    (hformat : format = .tsv ∨ format = .csv) :
    let n := t.vars.size
    let rendering := t.separated format
    rendering.getLast? = some '\n' ∧
    rendering.cells format.separator =
      ((text.splitOn '\n').map (·.splitOn format.separator)).modifyHead (t.vars.cells ++ ·) ++
        t.rows.map format.cells ∧
    (rendering.cells format.separator).length = text.count '\n' + 1 + 2 ^ n ∧
    t.vars.cells.length = n ∧
    (∀ r ∈ t.rows, (format.cells r).length = n + 1) ∧
    ',' ∉ text ∧
    (t.IsSheet format rendering ↔ '\n' ∉ text ∧ format.separator ∉ text) := by
  intro n rendering
  obtain ⟨l, hbar, rfl⟩ : ∃ l : Layout, l.bar = [] ∧ l.style = format := by
    rcases hformat with rfl | rfl
    · exact ⟨.ofFormat .tsv, rfl, rfl⟩
    · exact ⟨.ofFormat .csv, rfl, rfl⟩
  obtain ⟨f, hf, rfl⟩ := parse_of_tabulateText h
  have hregular := regular_ofFormula text f.support f
  have hcomma : ',' ∉ text :=
    not_mem_of_parse hf (by decide) (by decide) (by decide) (by decide +kernel)
  exact ⟨l.getLast?_separated hbar _, l.cells_separated hbar _,
    l.length_cells_separated hbar hregular, List.length_map _, fun r hr => l.length_cells hregular hr,
    hcomma, l.isSheet_separated_iff hbar hregular⟩

/-- A tab is a separator in one of the renderings and a blank of the formula in the other. -/
theorem separated_lines_tab :
    let text : Text := ['p', '\t', 'A', 'N', 'D', ' ', 'q']
    ∃ t, tabulateText (.ofLimit 2) .word text = .ok t ∧ t.IsSheet .csv (t.separated .csv) ∧
      ¬ t.IsSheet .tsv (t.separated .tsv) := by
  intro text
  have hvars : (tabulateText (.ofLimit 2) .word text).map (·.vars.size) = .ok 2 := by
    decide +kernel
  obtain ⟨t, ht, -⟩ := map_eq_ok_iff.1 hvars
  obtain ⟨-, -, -, -, -, -, hcsv⟩ := separated_lines ht (Or.inr rfl)
  obtain ⟨-, -, -, -, -, -, htsv⟩ := separated_lines ht (Or.inl rfl)
  refine ⟨t, ht, hcsv.2 (by decide), fun hsheet => ?_⟩
  exact (htsv.1 hsheet).2 (by decide)

/-- A line break in the formula makes six lines of five, in either rendering. -/
theorem not_isSheet_of_broken_formula :
    let text : Text := ['p', ' ', '∧', '\n', 'q']
    ∃ t, tabulateText (.ofLimit 2) .symbolic text = .ok t ∧
      ((t.separated .csv).cells ',').map List.length = [3, 1, 3, 3, 3, 3] ∧
      ¬ t.IsSheet .csv (t.separated .csv) ∧ ¬ t.IsSheet .tsv (t.separated .tsv) := by
  intro text
  have hshape : (tabulateText (.ofLimit 2) .symbolic text).map (fun t =>
      (t.vars.size, ((t.separated .csv).cells ',').map List.length,
        ((t.separated .tsv).cells '\t').map List.length)) =
      .ok (2, [3, 1, 3, 3, 3, 3], [3, 1, 3, 3, 3, 3]) := by
    decide +kernel
  obtain ⟨t, ht, hlengths⟩ := map_eq_ok_iff.1 hshape
  simp only [Prod.mk.injEq] at hlengths
  obtain ⟨hsize, hcsv, htsv⟩ := hlengths
  refine ⟨t, ht, hcsv, fun hsheet => ?_, fun hsheet => ?_⟩
  · have hlines : ((t.separated .csv).cells ',').length = _ := hsheet.length_lines
    rw [← List.length_map List.length, hcsv, hsize] at hlines
    cases hlines
  · have hlines : ((t.separated .tsv).cells '\t').length = _ := hsheet.length_lines
    rw [← List.length_map List.length, htsv, hsize] at hlines
    cases hlines

end Table

end Propositional
