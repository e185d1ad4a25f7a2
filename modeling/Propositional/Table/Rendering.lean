import Propositional.Table
/-!
# Propositional.Table.Rendering

The texts of a truth table.

Every rendering is a heading line and one line for each row, and every line, the last one
included, ends with a line break. The heading names the columns and shows the formula exactly as
the table holds it, without quoting.

The **grid** is for reading: cells are single letters followed by a space, and a bar stands
before the formula's column. A **separated** rendering is for other programs; a
`SeparatedStyle` says what stands between cells and how truth values are written.
-/

namespace Propositional

/-- The renderings of a truth table. -/
inductive Format where
  /-- Aligned letters, for reading. -/
  | grid
  /-- Cells separated by tabs. -/
  | tsv
  /-- Cells separated by commas. -/
  | csv
  deriving DecidableEq, Repr

def Format.name : Format → String
  | .grid => "grid"
  | .tsv => "tsv"
  | .csv => "csv"

def Format.ofName? (name : Text) : Option Format :=
  [grid, tsv, csv].find? (·.name.toList == name)

/-- How the cells of a separated rendering are written. -/
structure SeparatedStyle where
  /-- What stands between two cells. -/
  separator : Char
  /-- The text of `true`. -/
  yes : Text
  /-- The text of `false`. -/
  no : Text
  deriving DecidableEq, Repr

namespace SeparatedStyle

/-- Tabs between single letters. -/
def tsv : SeparatedStyle := ⟨'\t', ['T'], ['F']⟩

/-- Commas between words in capitals. -/
def csv : SeparatedStyle := ⟨',', ['T', 'R', 'U', 'E'], ['F', 'A', 'L', 'S', 'E']⟩

/-- The text of a truth value. -/
def cell (style : SeparatedStyle) (b : Bool) : Text := if b then style.yes else style.no

def heading (style : SeparatedStyle) (t : Table) : Text :=
  t.vars.toList.flatMap (fun x => [x.name, style.separator]) ++ t.formula ++ ['\n']

def line (style : SeparatedStyle) (r : Row) : Text :=
  r.inputs.values.flatMap (fun b => style.cell b ++ [style.separator]) ++ style.cell r.output ++
    ['\n']

end SeparatedStyle

namespace Row

/-- The letter of a truth value. -/
def letter (b : Bool) : Char := if b then 'T' else 'F'

/-- The line of a row in the grid. -/
def gridLine (r : Row) : Text :=
  r.inputs.values.flatMap (fun b => [letter b, ' ']) ++ ['|', ' ', letter r.output, '\n']

end Row

namespace Table

/-- The heading line of the grid. -/
def gridHeading (t : Table) : Text :=
  t.vars.toList.flatMap (fun x => [x.name, ' ']) ++ ['|', ' '] ++ t.formula ++ ['\n']

def grid (t : Table) : Text := t.gridHeading ++ t.rows.flatMap Row.gridLine

/-- A separated rendering. -/
def separated (style : SeparatedStyle) (t : Table) : Text :=
  style.heading t ++ t.rows.flatMap style.line

/-- The rendering in a given format. -/
def render (format : Format) (t : Table) : Text :=
  match format with
  | .grid => t.grid
  | .tsv => t.separated .tsv
  | .csv => t.separated .csv

end Table

end Propositional
