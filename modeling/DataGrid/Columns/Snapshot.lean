import DataGrid.Columns

/-!
# Snapshots

A `Snapshot` keeps what a person changes about the columns of a grid: widths, properties, the
order of the shown columns and how many columns and rows are fixed.
-/

namespace DataGrid

/-- What a snapshot keeps of a column. -/
structure ColumnSnapshot (α : Type) where
  id : ColumnId
  width : α
  properties : Properties

/-- What can be kept of a grid from one session to the next. -/
structure Snapshot (α : Type) where
  /-- The places in the table of the shown columns, in order. -/
  order : List Nat
  columns : List (ColumnSnapshot α)
  fixedColumns : Nat
  fixedRows : Nat

namespace Columns

variable {α : Type}

/-- The snapshot of a column. -/
def columnSnapshot (c : Column α) : ColumnSnapshot α := ⟨c.id, c.width, c.properties⟩

/-- The snapshot of the columns; the synthetic ones come first. -/
def snapshot (c : Columns α) (config : Config α) : Snapshot α where
  order := c.order
  columns := columnSnapshot c.handle :: columnSnapshot c.tree :: c.data.toList.map columnSnapshot
  fixedColumns := config.fixedColumns
  fixedRows := config.fixedRows

variable [Pixel α]

/-- Give a column the width and the properties of its snapshot. -/
def restoreColumn (c : Columns α) (s : ColumnSnapshot α) : Columns α :=
  c.modify s.id fun d => { d.resize s.width with properties := s.properties }

/-- Bring the columns into the state of a snapshot; what it says of columns that are not there is
passed over. -/
def restore (c : Columns α) (s : Snapshot α) : Columns α :=
  (s.columns.foldl restoreColumn c).setOrder s.order

/-- The settings that a snapshot brings back.  There are at most as many fixed columns as shown
ones. -/
def restoreConfig (c : Columns α) (s : Snapshot α) (config : Config α) : Config α :=
  { config with
    fixedColumns := min s.fixedColumns c.shownCount
    fixedRows := s.fixedRows }

end Columns

end DataGrid
