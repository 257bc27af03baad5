import DataGrid.Feature.Step

/-!
# Resizing columns

The right edge of a column can be dragged in the header, and a double click on it makes the column
as wide as its widest text on the screen.
-/

namespace DataGrid

/-- A column whose edge is dragged. -/
structure ResizeDrag (α : Type) where
  column : ColumnId
  startWidth : α
  startX : α

/-- How a column is being resized. -/
structure ColumnResizing (α : Type) where
  drag : Option (ResizeDrag α)
  overDivider : Bool

namespace ColumnResizing

variable {α σ : Type} [Pixel α] [DataSource σ]

/-- Nothing is dragged. -/
def idle : ColumnResizing α := ⟨none, false⟩

/-- The column whose edge is under a pointer in a header cell.  The left edge of a cell belongs to
the column before it on the screen. -/
def edgeColumn? (m : Model α σ) (c : PointedCell α) : Option ColumnId :=
  let margin := m.config.resizeMargin
  if c.offset.x ≤ margin then
    match c.cell.column.index with
    | 0 => none
    | before + 1 => m.layout.columns[before]?.map (·.id)
  else if c.cell.column.width - margin ≤ c.offset.x then some c.cell.column.id
  else none

/-- The column whose edge is under the pointer, if its width is not locked. -/
def divider? (m : Model α σ) (e : PointerEvent α) : Option ColumnId :=
  ((e.cell?.filter (·.cell.isHeaderRow)).bind (edgeColumn? m)).filter fun id =>
    (m.columns.column? id).any fun c => !c.locked

/-- Whether two widths differ when they are rounded to whole pixels. -/
def roundedDiffers (a b : α) : Bool := Pixel.ofNat 1 ≤ Pixel.abs (Pixel.round a - Pixel.round b)

/-- Note a change of a width, if it can be seen. -/
def noteResize (m : Model α σ) (id : ColumnId) (before after : α) : Model α σ :=
  if roundedDiffers after before then m.emit (.columnResized id before after) else m

/-- The number of characters of the longest text in a column on the screen. -/
def widestText (m : Model α σ) (c : PlacedColumn α) : Nat :=
  (m.layout.rows.map fun row =>
    let b := Binding.ofPlaced m.scene c row
    (b.text m.scene (b.properties m.scene none)).length).foldl max 0

/-- Make a column as wide as its longest text. -/
def autosize (m : Model α σ) (id : ColumnId) : Model α σ :=
  match m.layout.byId? id, m.columns.column? id with
  | some placed, some column =>
    let wanted :=
      Pixel.ofNat (widestText m placed) * m.config.autosizeCharWidth + m.config.autosizePadding
    let m := m.setColumnWidth id wanted
    match m.columns.column? id with
    | some resized => noteResize m id column.width resized.width
    | none => m
  | _, _ => m

/-- Answer an input. -/
def handle (s : ColumnResizing α) (input : Input α) (t : GridTurn α σ) :
    Step (ColumnResizing α) (Model α σ) :=
  match input with
  | .pointer .move e => .pass { s with overDivider := (divider? t.model e).isSome } t
  | .pointer .down e =>
    if e.button = .primary then
      match (divider? t.model e).bind t.model.columns.column?, divider? t.model e with
      | some column, some id =>
        .stop { s with drag := some ⟨id, column.width, e.point.x⟩ } t
      | _, _ => .pass s t
    else .pass s t
  | .pointer .drag e =>
    match s.drag with
    | none => .pass s t
    | some d =>
      let width := d.startWidth + (e.point.x - d.startX)
      .stop s (t.modify fun m => m.setColumnWidth d.column width)
  | .pointer .up _ =>
    match s.drag with
    | none => .pass s t
    | some d =>
      .stop { s with drag := none } (t.modify fun m =>
        match m.columns.column? d.column with
        | some c => noteResize m d.column d.startWidth c.width
        | none => m)
  | .pointer .doubleClick e =>
    match divider? t.model e with
    | none => .pass s t
    | some id => .stop s (t.modify fun m => autosize m id)
  | .key .down e =>
    match s.drag with
    | some d =>
      if e.key = "Escape" then
        .stop { s with drag := none } (t.modify fun m => m.setColumnWidth d.column d.startWidth)
      else .pass s t
    | none => .pass s t
  | _ => .pass s t

/-- The shape of the pointer on an edge. -/
def icon? (s : ColumnResizing α) : Option PointerIcon :=
  if s.drag.isSome || s.overDivider then some .columnResize else none

end ColumnResizing

end DataGrid
