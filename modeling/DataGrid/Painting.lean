import DataGrid.Scene

/-!
# Painting

What a host draws of a grid: the cells on the screen, row by row, without those that lie under a
merged cell.
-/

namespace DataGrid

/-- A cell as it is drawn. -/
structure PaintedCell (α : Type) where
  gridCell : GridCell
  dataCell : DataCell
  bounds : Rect α
  text : String
  isSelected : Bool
  isHovered : Bool
  isFixed : Bool

namespace Scene

variable {α σ : Type} [DataSource σ]

/-- The cells on the screen, row by row. -/
def cells (s : Scene α σ) : List (Binding α) :=
  s.layout.rows.flatMap fun row => s.layout.columns.map fun column => .ofPlaced s column row

variable [Pixel α]

/-- A cell of the screen as it is drawn. -/
def paint (s : Scene α σ) (b : Binding α) : PaintedCell α where
  gridCell := b.gridCell
  dataCell := b.dataCell
  bounds := b.bounds s
  text := b.text s (b.properties s none)
  isSelected := b.isCellSelected s || b.isRowSelected s || b.isColumnSelected s
  isHovered := b.isHovered s
  isFixed := b.isColumnFixed s || b.isRowFixed s

/-- The cells that are drawn. -/
def painted (s : Scene α σ) : List (PaintedCell α) :=
  (s.cells.filter fun b => !b.isCovered).map s.paint

end Scene

end DataGrid
