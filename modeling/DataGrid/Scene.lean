import DataGrid.DataSource
import DataGrid.Formatter
import DataGrid.Frame
import DataGrid.Selection

/-!
# Reading cells

A `Scene` is all that a cell is read from, and a `Binding` is a cell of the screen together with
the cell that its value comes from.  The two differ for a cell that lies under a merged cell.  The
properties of a cell are laid over one another: the defaults of the grid, the properties of the
column, those that the column has for the band or the synthetic column the cell is in, and the
cell's own.
-/

namespace DataGrid

/-- All that a cell is read from. -/
structure Scene (α σ : Type) where
  columns : Columns α
  config : Config α
  layout : Layout α
  data : σ
  selection : Selection
  hovered : Option GridCell
  formatters : Formatters

/-- A cell of the screen and the cell that holds its value. -/
structure Binding (α : Type) where
  column : PlacedColumn α
  row : PlacedRow α
  valueCell : DataCell

namespace Binding

variable {α σ : Type}

/-- The place of the cell on the grid. -/
def gridCell (b : Binding α) : GridCell := ⟨b.column.slot, b.row.index⟩

/-- The place of the cell in the table. -/
def dataCell (b : Binding α) : DataCell := ⟨b.column.id, b.row.row, b.row.band⟩

/-- How far the cell at `(x, y)` reaches over the cell `dx` columns to the right of it and `dy` rows
below: far enough, or not. -/
def reaches (span : Span) (dx dy : Nat) : Bool := dx < span.columns && dy < span.rows

/-- The steps back at which a merged cell is looked for, at most `lookback` in each direction. -/
def steps (lookback column row : Nat) : List (Nat × Nat) :=
  (List.range (min lookback row + 1)).flatMap fun dy =>
    (List.range (min lookback column + 1)).filterMap fun dx =>
      if dx = 0 ∧ dy = 0 then none else some (dx, dy)

/-- The merged cell at a step back from a cell, if it reaches that cell. -/
def ownerAt? [DataSource σ] (s : Scene α σ) (column row : Nat) (step : Nat × Nat) :
    Option DataCell :=
  (s.columns.shown[column - step.1]?.bind ColumnId.dataIndex?).bind fun x =>
    if reaches (DataSource.span s.data x (row - step.2)) step.1 step.2 then
      some ⟨.data x, row - step.2, .data⟩
    else none

/-- The merged cell that a cell of the screen lies under, if it is another one. -/
def owner? [DataSource σ] (s : Scene α σ) (column : PlacedColumn α) (row : PlacedRow α) :
    Option DataCell :=
  if row.band = .data ∧ DataSource.hasSpans s.data then
    column.slot.shownIndex?.bind fun i =>
      (steps s.config.spanLookback i row.row).findSome? (ownerAt? s i row.row)
  else none

/-- The cell of the screen in a column and a row. -/
def ofPlaced [DataSource σ] (s : Scene α σ) (column : PlacedColumn α) (row : PlacedRow α) :
    Binding α :=
  ⟨column, row, (owner? s column row).getD ⟨column.id, row.row, row.band⟩⟩

/-- The cell of the screen at a place on the grid. -/
def ofGrid? [DataSource σ] (s : Scene α σ) (x : Slot) (y : Nat) : Option (Binding α) := do
  let column ← s.layout.bySlot? x
  let row ← s.layout.rows[y]?
  return ofPlaced s column row

/-- The cell of the screen at a place in the table. -/
def ofData? [DataSource σ] (s : Scene α σ) (x : ColumnId) (y : Nat) (band : Band) :
    Option (Binding α) := do
  let column ← s.layout.byId? x
  let row ← s.layout.byRow? y band
  return ofPlaced s column row

/-! ### What kind of cell it is -/

/-- Whether the cell lies under another one. -/
def isCovered (b : Binding α) : Bool := b.valueCell ≠ b.dataCell

def isDataRow (b : Binding α) : Bool := b.row.band = .data

def isHeaderRow (b : Binding α) : Bool := b.row.band = .header

def isFilterRow (b : Binding α) : Bool := b.row.band = .filter

def isDataColumn (b : Binding α) : Bool := b.column.id.dataIndex?.isSome

def isHandleColumn (b : Binding α) : Bool := b.column.id = .rowHandle

def isTreeColumn (b : Binding α) : Bool := b.column.id = .tree

def isDataCell (b : Binding α) : Bool := b.isDataRow && b.isDataColumn

def isHeaderCell (b : Binding α) : Bool := b.isHeaderRow && b.isDataColumn

def isHeaderHandle (b : Binding α) : Bool := b.isHeaderRow && b.isHandleColumn

def isHandleCell (b : Binding α) : Bool := b.isDataRow && b.isHandleColumn

/-- The index of the cell's column among the shown columns. -/
def shownIndex? (b : Binding α) : Option Nat := b.column.slot.shownIndex?

/-- Whether the cell's column is a data column that does not scroll. -/
def isColumnFixed (b : Binding α) (s : Scene α σ) : Bool :=
  b.isDataColumn && b.shownIndex?.any (· < s.config.fixedColumns)

/-- Whether the cell's row is a data row that does not scroll. -/
def isRowFixed (b : Binding α) (s : Scene α σ) : Bool :=
  b.isDataRow && b.row.row < s.config.fixedRows

def isColumnSelected (b : Binding α) (s : Scene α σ) : Bool :=
  b.shownIndex?.any s.selection.isColumnSelected

def isRowSelected (b : Binding α) (s : Scene α σ) : Bool :=
  b.isDataRow && s.selection.isRowSelected b.row.row

def isCellSelected (b : Binding α) (s : Scene α σ) : Bool :=
  b.isDataRow && b.shownIndex?.any (s.selection.isCellSelected b.row.row)

def isHovered (b : Binding α) (s : Scene α σ) : Bool := s.hovered = some b.gridCell

def isRowHovered (b : Binding α) (s : Scene α σ) : Bool := s.hovered.any (·.y = b.row.index)

def isColumnHovered (b : Binding α) (s : Scene α σ) : Bool := s.hovered.any (·.x = b.column.slot)

/-! ### Properties -/

/-- The cell's column. -/
def column? (b : Binding α) (s : Scene α σ) : Option (Column α) := s.columns.column? b.column.id

/-- The names under which a column keeps properties for some of its cells. -/
def sectionNames : List String := ["columnHeader", "filterRow", "rowHeader", "treeHeader"]

/-- The name under which the cell's column keeps properties for cells such as this one. -/
def sectionName? (b : Binding α) : Option String :=
  match b.row.band, b.column.id with
  | .header, _ => some "columnHeader"
  | .filter, _ => some "filterRow"
  | .data, .rowHandle => some "rowHeader"
  | .data, .tree => some "treeHeader"
  | .data, .data _ => none

/-- The properties that the column has for all its cells. -/
def columnProperties (c : Column α) : Properties :=
  c.properties.filterNames fun name => !sectionNames.contains name

/-- The properties that the column has for cells such as this one. -/
def sectionProperties (b : Binding α) (c : Column α) : Properties :=
  ((b.sectionName?.bind c.properties.get?).bind Json.properties?).getD .empty

/-- The properties of the cell alone: those kept for it in the properties of its row, under the
name of its column. -/
def storedProperties? [DataSource σ] (b : Binding α) (s : Scene α σ) : Option Properties :=
  if b.isDataRow then do
    let c ← b.column? s
    let row ← DataSource.rowProperties? s.data b.row.row
    (← row.get? c.name).properties?
  else none

/-- The properties of the cell, where `own?` stands for its own ones if it is given. -/
def properties [DataSource σ] (b : Binding α) (s : Scene α σ) (own? : Option Properties) :
    Properties :=
  let below :=
    match b.column? s with
    | some c => (s.config.cellDefaults.merge (columnProperties c)).merge (b.sectionProperties c)
    | none => s.config.cellDefaults
  below.merge ((own?.or (b.storedProperties? s)).getD .empty)

/-! ### Value, text and place -/

/-- Whether the value of the cell is one of its properties. -/
def valueIsProperty (b : Binding α) : Bool := b.isFilterRow && b.isDataColumn

/-- The value of the cell, given its properties.  A header shows the header of its column, a row
handle the number of its row counted from one, and a filter cell what its properties say. -/
def value [DataSource σ] (b : Binding α) (s : Scene α σ) (props : Properties) : CellValue :=
  match b.row.band, b.column.id with
  | .data, .data _ =>
    match b.valueCell.x with
    | .data x => DataSource.value s.data x b.valueCell.y
    | _ => .empty
  | .data, .rowHandle => .number (Float.ofNat (b.row.row + 1))
  | .data, .tree => .empty
  | .header, .rowHandle => .empty
  | .header, _ =>
    match b.column? s with
    | some c => .text c.header
    | none => .empty
  | .filter, .data _ =>
    match (props.get? "filter").bind Json.text? with
    | some t => .text t
    | none => .empty
  | .filter, _ => .empty

/-- The display text of the cell, given its properties. -/
def text [DataSource σ] (b : Binding α) (s : Scene α σ) (props : Properties) : String :=
  s.formatters.format (b.value s props) props

/-- What the cell covers; only data cells cover others. -/
def span [DataSource σ] (b : Binding α) (s : Scene α σ) : Span :=
  match b.row.band, b.column.id with
  | .data, .data x => DataSource.span s.data x b.row.row
  | _, _ => .single

/-- How far a merged cell at an index of the shown columns reaches beyond its own column and
row. -/
def reach [Pixel α] (s : Scene α σ) (shownIndex : Nat) (span : Span) : α × α :=
  let covered := (s.columns.shown.drop (shownIndex + 1)).take (span.columns - 1)
  (Pixel.sum (covered.filterMap fun id => (s.columns.column? id).map (·.width)),
    Pixel.sum (List.replicate (span.rows - 1) s.config.rowHeight))

/-- The rectangle of the cell with all that it covers. -/
def bounds [Pixel α] [DataSource σ] (b : Binding α) (s : Scene α σ) : Rect α :=
  let alone : Rect α := ⟨b.column.left, b.row.top, b.column.width, b.row.height⟩
  if b.isCovered || !(b.span s).isMerge then alone
  else
    match b.shownIndex? with
    | some i =>
      let (right, down) := reach s i (b.span s)
      { alone with width := alone.width + right, height := alone.height + down }
    | none => alone

end Binding

end DataGrid
