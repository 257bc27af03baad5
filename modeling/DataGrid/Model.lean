import DataGrid.Columns.Snapshot
import DataGrid.Overlays
import DataGrid.Scene

/-!
# The state of a grid

A `Model` is the state that features read and change: where things are, the table, the selection,
the hovered cell and the overlays.  Every change that can move something on the screen brings the
scroll position within its limits and computes the layout anew (`Model.relayout`), and leaves a
mark that this was done.  What listeners are to be told waits as notices.
-/

namespace DataGrid

/-- The state of a grid. -/
structure Model (α σ : Type) extends Frame α where
  data : σ
  selection : Selection
  hovered : Option GridCell
  formatters : Formatters
  overlays : Overlays α
  /-- Changes that nobody has been told of, without those that wait with the columns. -/
  notices : List (Notice α)
  /-- Whether the layout has been computed since the features were last told so. -/
  relaid : Bool

namespace Model

variable {α σ : Type} [Pixel α] [DataSource σ]

omit [Pixel α] in
def rowCount (m : Model α σ) : Nat := DataSource.rowCount m.data

omit [Pixel α] [DataSource σ] in
/-- What cells are read from. -/
def scene (m : Model α σ) : Scene α σ where
  columns := m.columns
  config := m.config
  layout := m.layout
  data := m.data
  selection := m.selection
  hovered := m.hovered
  formatters := m.formatters

/-- How far the viewport can be scrolled. -/
def limits (m : Model α σ) : ScrollLimits := m.scrollLimits m.rowCount

/-- Bring the scroll position within its limits and compute the layout. -/
def relayout (m : Model α σ) : Model α σ :=
  let viewport := m.viewport.clamp m.limits
  { m with
    viewport := viewport
    layout := .compute m.columns m.config viewport m.rowCount
    relaid := true }

/-- The state of a new grid. -/
def ofData (data : σ) (schema : List ColumnSchema) (config : Config α) : Model α σ :=
  { columns := .ofSchema schema config
    config := config
    viewport := .initial
    layout := .empty
    data := data
    selection := .empty
    hovered := none
    formatters := .standard
    overlays := .none
    notices := []
    relaid := false : Model α σ }.relayout

omit [Pixel α] [DataSource σ] in
/-- Note something that listeners are to be told. -/
def emit (m : Model α σ) (n : Notice α) : Model α σ := { m with notices := m.notices ++ [n] }

omit [Pixel α] [DataSource σ] in
/-- Change the selection and note that. -/
def select (m : Model α σ) (s : Selection) : Model α σ :=
  { m with selection := s }.emit .selectionChanged

omit [Pixel α] [DataSource σ] in
/-- Change the selection, and note it if it is another one. -/
def selectIfNew (m : Model α σ) (s : Selection) : Model α σ :=
  if s = m.selection then m else m.select s

/-- Scroll by columns and rows; `none` if that leads nowhere. -/
def scrollBy? (m : Model α σ) (columns rows : Int) : Option (Model α σ) :=
  let viewport := m.viewport.scrollBy columns rows m.limits
  if m.viewport.scrolledApart viewport then some { m with viewport := viewport }.relayout else none

/-- Scroll by columns and rows, as far as the limits allow. -/
def scrollBy (m : Model α σ) (columns rows : Int) : Model α σ := (m.scrollBy? columns rows).getD m

/-- Scroll to a place, as far as the limits allow. -/
def scrollTo (m : Model α σ) (left top : Nat) : Model α σ :=
  { m with viewport := m.viewport.scrollTo left top m.limits }.relayout

/-- Give the viewport a size. -/
def resizeViewport (m : Model α σ) (width height : α) : Model α σ :=
  { m with viewport := m.viewport.resize width height }.relayout

/-- Fix the first shown columns, at most all of them. -/
def setFixedColumns (m : Model α σ) (count : Nat) : Model α σ :=
  let before := m.config.fixedColumns
  let after := min count m.columns.shownCount
  if before = after then m
  else
    ({ m with config := { m.config with fixedColumns := after } }.emit
      (.fixedColumnsChanged before after)).relayout

/-- Fix the first rows, at most all of them. -/
def setFixedRows (m : Model α σ) (count : Nat) : Model α σ :=
  let before := m.config.fixedRows
  let after := min count m.rowCount
  if before = after then m
  else
    ({ m with config := { m.config with fixedRows := after } }.emit
      (.fixedRowsChanged before after)).relayout

/-- Fix no more columns than are shown. -/
def clampFixedColumns (m : Model α σ) : Model α σ :=
  if m.columns.shownCount < m.config.fixedColumns then m.setFixedColumns m.columns.shownCount
  else m

/-- Fix no more rows than there are. -/
def clampFixedRows (m : Model α σ) : Model α σ :=
  if m.rowCount < m.config.fixedRows then m.setFixedRows m.rowCount else m

/-- Move a run of shown columns before the one at `target`, and the selection with them; `none` if
nothing changes. -/
def moveColumns? (m : Model α σ) (start count target : Nat) : Option (Model α σ) :=
  (m.columns.move? start count target).map fun columns =>
    let selection :=
      match movedPositions? m.columns.shownCount start count target with
      | some positions => m.selection.remapColumns positions.toArray
      | none => m.selection
    ({ m with columns := columns }.selectIfNew selection).relayout

/-- Show columns at a place. -/
def showColumns (m : Model α σ) (source : Columns.Source) (indexes : List Nat)
    (placement : Columns.Placement) (duplicates : Bool) : Model α σ :=
  let columns := m.columns.showColumns source indexes placement duplicates
  ({ m with columns := columns }.clampFixedColumns).relayout

/-- Take columns off the grid. -/
def hideColumns (m : Model α σ) (source : Columns.Source) (indexes : List Nat) : Model α σ :=
  ({ m with columns := m.columns.hideColumns source indexes }.clampFixedColumns).relayout

/-- Give a column a width, as far as its limits allow.  Nobody is told. -/
def setColumnWidth (m : Model α σ) (id : ColumnId) (width : α) : Model α σ :=
  match m.columns.column? id with
  | some _ => { m with columns := m.columns.setWidth id width }.relayout
  | none => m

/-- Put another table into the grid. -/
def load (m : Model α σ) (data : σ) (schema : List ColumnSchema) : Model α σ :=
  let fresh : Model α σ :=
    { m with
      data := data
      columns := m.columns.reset schema m.config
      selection := .empty
      hovered := none
      overlays := .none }
  fresh.clampFixedColumns.clampFixedRows.relayout

/-- Bring the columns and the settings into the state of a snapshot. -/
def restore (m : Model α σ) (s : Snapshot α) : Model α σ :=
  let columns := m.columns.restore s
  let config := columns.restoreConfig s m.config
  { m with
    columns := columns
    config := { config with fixedRows := min config.fixedRows m.rowCount }
    selection := .empty }.relayout

omit [Pixel α] [DataSource σ] in
/-- The snapshot of the columns and the settings. -/
def snapshot (m : Model α σ) : Snapshot α := m.columns.snapshot m.config

omit [Pixel α] [DataSource σ] in
/-- The notices that wait, those of the columns first, and the model without them. -/
def takeNotices (m : Model α σ) : List (Notice α) × Model α σ :=
  let (notices, columns) := m.columns.takeNotices
  (notices ++ m.notices, { m with columns := columns, notices := [] })

end Model

end DataGrid
