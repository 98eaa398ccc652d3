import Mathlib.Data.String.Basic
import Mathlib.Tactic.Common

/-!
# Tables on the console

What the tasks put into an `AsciiTable`: how it is laid out, its rules and its rows.  How
it is drawn is left to a `Renderer`, of which only this is used: a table of two lines or
more is drawn over more than one line.
-/

set_option autoImplicit false

namespace GradleLocalstack.Model

/-- The text alignments that the tasks use. -/
inductive TextAlignment where
  | justifiedLeft
  deriving DecidableEq, Repr

/-- `CWC_LongestLine`: the columns are as wide as their longest lines. -/
inductive ColumnWidthCalculator where
  | longestLine
  deriving DecidableEq, Repr

/-- A rule, or a row of cells; a cell may be `null`. -/
inductive TableLine where
  | rule
  | row (columns : List (Option String))
  deriving DecidableEq, Repr

/-- `AsciiTable`; what was not set is `none`. -/
structure AsciiTable where
  textAlignment : Option TextAlignment := none
  width : Option ℕ := none
  cwc : Option ColumnWidthCalculator := none
  lines : List TableLine := []
  deriving DecidableEq, Repr

namespace AsciiTable

variable (table : AsciiTable)

/-- `setTextAlignment`. -/
def setTextAlignment (textAlignment : TextAlignment) : AsciiTable :=
  { table with textAlignment := some textAlignment }

/-- `getContext().setWidth`. -/
def setWidth (width : ℕ) : AsciiTable := { table with width := some width }

/-- `getRenderer().setCWC`. -/
def setCWC (cwc : ColumnWidthCalculator) : AsciiTable := { table with cwc := some cwc }

/-- `addRule`. -/
def addRule : AsciiTable := { table with lines := table.lines ++ [.rule] }

/-- `addRow`. -/
def addRow (columns : List (Option String)) : AsciiTable :=
  { table with lines := table.lines ++ [.row columns] }

/-- The rows of the table, in order. -/
def rows : List (List (Option String)) :=
  table.lines.filterMap fun
    | .rule => none
    | .row columns => some columns

/-- The table with a row and a rule for each item. -/
def addRows {α : Type} (row : α → List (Option String)) (items : List α) : AsciiTable :=
  items.foldl (fun t item => (t.addRow (row item)).addRule) table

variable {table}

/-- Rows may be added one list after the other or all at once. -/
theorem addRows_append {α : Type} (row : α → List (Option String)) (items items' : List α) :
    table.addRows row (items ++ items') = (table.addRows row items).addRows row items' :=
  List.foldl_append ..

/-- The rows of the items come after the rows of the table. -/
theorem rows_addRows {α : Type} (row : α → List (Option String)) (items : List α) :
    (table.addRows row items).rows = table.rows ++ items.map row := by
  induction items generalizing table with
  | nil => simp [addRows]
  | cons item items ih =>
    show (((table.addRow (row item)).addRule).addRows row items).rows = _
    rw [ih]
    simp [rows, addRow, addRule]

end AsciiTable

/-- How tables are drawn. -/
structure Renderer where
  render : AsciiTable → String
  newline_mem_render : ∀ table, 2 ≤ table.lines.length → '\n' ∈ (render table).toList

/-- A message on one line is not what a table looks like. -/
theorem Renderer.render_ne (renderer : Renderer) {table : AsciiTable} {message : String}
    (htable : 2 ≤ table.lines.length) (hmessage : '\n' ∉ message.toList) :
    renderer.render table ≠ message := by
  intro heq
  exact hmessage (heq ▸ renderer.newline_mem_render table htable)

/-- The lines of a table as plain text, with bars between the cells. -/
def plainText : List TableLine → String
  | [] => ""
  | .rule :: lines => "---\n" ++ plainText lines
  | .row columns :: lines =>
    "|".intercalate (columns.map fun column => column.getD "null") ++ "\n" ++ plainText lines

/-- A renderer without any layout. -/
def Renderer.plain : Renderer where
  render table := plainText table.lines
  newline_mem_render := by
    intro table htable
    cases hlines : table.lines with
    | nil =>
      rw [hlines, List.length_nil] at htable
      omega
    | cons line lines => cases line <;> simp [plainText]

end GradleLocalstack.Model
