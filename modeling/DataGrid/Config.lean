import DataGrid.Json
import DataGrid.Pixel

/-!
# Configuration

The settings of a grid and their defaults.
-/

namespace DataGrid

/-- The features of a grid, in the order in which they see an event.  Resizing and fixation stand
before selection and moving, so that a press on a divider is not taken for the start of a move. -/
def defaultFeatures : List String :=
  ["on_hover", "column_fixation", "row_fixation", "column_resizing", "row_selection",
   "column_selection", "column_moving", "cell_selection", "key_paging", "context_menu"]

/-- The settings of a grid.  Times are in milliseconds. -/
structure Config (α : Type) where
  /-- Leading shown columns that do not scroll. -/
  fixedColumns : Nat
  /-- Leading data rows that do not scroll. -/
  fixedRows : Nat
  headerRows : Nat
  showFilterRow : Bool
  showRowHandle : Bool
  showTree : Bool
  columnsReorderable : Bool
  rowSelection : Bool
  columnWidth : α
  minimumColumnWidth : α
  maximumColumnWidth : Option α
  rowHeight : α
  headerRowHeight : α
  rowHandleWidth : α
  treeWidth : α
  /-- How far from a divider a press still takes hold of it. -/
  resizeMargin : α
  insertLineWidth : α
  fixedLineWidth : α
  /-- How near to an edge of the viewport a dragged column makes it scroll. -/
  autoscrollThreshold : α
  minScrollDelay : Float
  maxScrollDelay : Float
  scrollDelayStep : Float
  /-- The time between the scrolling steps of a selection that is dragged. -/
  selectScrollInterval : Float
  /-- The time from a drop until the features that were cut off see events again. -/
  reattachDelay : Float
  autosizeCharWidth : α
  autosizePadding : α
  /-- How many columns and rows back a cell that covers another one is looked for. -/
  spanLookback : Nat
  /-- The properties that every cell starts from. -/
  cellDefaults : Properties
  /-- The names of the features, in order. -/
  features : List String

namespace Config

variable {α : Type} [Pixel α]

/-- The settings of a grid for which nothing else is said. -/
def default : Config α where
  fixedColumns := 0
  fixedRows := 0
  headerRows := 1
  showFilterRow := false
  showRowHandle := true
  showTree := false
  columnsReorderable := true
  rowSelection := true
  columnWidth := Pixel.ofNat 100
  minimumColumnWidth := Pixel.ofNat 5
  maximumColumnWidth := none
  rowHeight := Pixel.ofNat 20
  headerRowHeight := Pixel.ofNat 24
  rowHandleWidth := Pixel.ofNat 40
  treeWidth := Pixel.ofNat 20
  resizeMargin := Pixel.ofNat 3
  insertLineWidth := Pixel.ofNat 2
  fixedLineWidth := Pixel.ofNat 2
  autoscrollThreshold := Pixel.ofNat 20
  minScrollDelay := 30
  maxScrollDelay := 100
  scrollDelayStep := 5
  selectScrollInterval := 25
  reattachDelay := 200
  autosizeCharWidth := Pixel.ofNat 7
  autosizePadding := Pixel.ofNat 12
  spanLookback := 8
  cellDefaults := .empty
  features := defaultFeatures

/-- The height of all rows above the data. -/
def headerHeight (c : Config α) : α :=
  Pixel.sum (List.replicate c.headerRows c.headerRowHeight)
    + (if c.showFilterRow then c.rowHeight else Pixel.zero)

/-- The number of rows above the data. -/
def topRows (c : Config α) : Nat := c.headerRows + (if c.showFilterRow then 1 else 0)

omit [Pixel α] in
/-- The wait before a further step of scrolling while a column is dragged; it grows shorter with
every step, down to a least one. -/
def scrollDelay (c : Config α) (attempt : Nat) : Float :=
  let delay := c.maxScrollDelay - Float.ofNat attempt * c.scrollDelayStep
  if delay < c.minScrollDelay || delay.isNaN then c.minScrollDelay else delay

end Config

end DataGrid
