import DataGrid.Cell.Value
import DataGrid.Column.Id

/-!
# Cells and merges

A cell is named in two ways: by its `Slot` and the number of its row on the screen (`GridCell`),
or by its column, the band of rows it belongs to and its number in that band (`DataCell`).  Cells
may be merged: a `Span` says how many columns and rows the cell at its top-left corner covers.
-/

namespace DataGrid

/-- The bands of rows, from top to bottom. -/
inductive Band where
  | header
  | filter
  | data
deriving DecidableEq

/-- A cell by its place on the grid. -/
structure GridCell where
  x : Slot
  y : Nat
deriving DecidableEq

/-- A cell by its place in the table. -/
structure DataCell where
  x : ColumnId
  y : Nat
  band : Band
deriving DecidableEq

/-- How many columns and rows a cell covers. -/
structure Span where
  columns : Nat
  rows : Nat
deriving DecidableEq

namespace Span

/-- The span of a cell that is not merged. -/
def single : Span := ⟨1, 1⟩

/-- A span of at least one column and one row. -/
def ofSize (columns rows : Nat) : Span := ⟨max columns 1, max rows 1⟩

/-- Whether a span covers more than its own cell. -/
def isMerge (s : Span) : Bool := 1 < s.columns || 1 < s.rows

end Span

end DataGrid
