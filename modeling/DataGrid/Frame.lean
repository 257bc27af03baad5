import DataGrid.Layout

/-!
# Finding things on the grid

A `Frame` is all that decides where things are: the columns, the settings, the viewport and the
layout.  It leads from the table to the shown columns, from there to the screen and to pixels, and
back.  What is not on the screen has no place, and the answer is `none`.
-/

namespace DataGrid

/-- All that decides where things are on a grid. -/
structure Frame (α : Type) where
  columns : Columns α
  config : Config α
  viewport : Viewport α
  layout : Layout α

/-- The cell under a point, and the point as seen from the cell's top-left corner. -/
structure Hit (α : Type) where
  column : PlacedColumn α
  row : PlacedRow α
  offset : Point α

namespace Frame

variable {α : Type} [Pixel α]

omit [Pixel α] in
/-- The index among the shown columns of the data column at a place in the table. -/
def shownIndex? (f : Frame α) (dataIndex : Nat) : Option Nat :=
  f.columns.shownIndex? (.data dataIndex)

omit [Pixel α] in
/-- The place in the table of the shown column at an index. -/
def dataIndex? (f : Frame α) (shownIndex : Nat) : Option Nat :=
  f.columns.shown[shownIndex]?.bind ColumnId.dataIndex?

omit [Pixel α] in
/-- The slot at the left edge. -/
def leftmost (f : Frame α) : Slot :=
  if f.config.showRowHandle then .rowHandle
  else if f.config.showTree then .tree
  else .shown 0

omit [Pixel α] in
/-- How many shown columns do not scroll. -/
def fixedColumns (f : Frame α) : Nat := min f.config.fixedColumns f.columns.shownCount

omit [Pixel α] in
/-- Whether the column in a slot is one of those that do not scroll. -/
def isFixed (f : Frame α) : Slot → Bool
  | .shown i => i < f.fixedColumns
  | _ => false

/-- The widths of the shown columns from index `first` up to, and not including, index `stop`. -/
def widths (f : Frame α) (first stop : Nat) : List α :=
  ((f.columns.shown.drop first).take (stop - first)).map fun id =>
    ((f.columns.column? id).map (·.width)).getD Pixel.zero

/-- The left edge that the shown column at an index would have if the viewport were wide enough;
the index after the last column stands for its right edge.  A column that is scrolled out has
none. -/
def shownStart? (f : Frame α) (index : Nat) : Option α :=
  let fixed := f.fixedColumns
  let first := fixed + f.viewport.scrollLeft
  let x := leadingWidth f.columns f.config + Pixel.sum (f.widths 0 (min index fixed))
  if f.columns.shownCount < index then none
  else if index < fixed then some x
  else if index < first then none
  else some (x + Pixel.sum (f.widths first index))

/-- The left edge of a slot, if it is not beyond the right edge of the viewport. -/
def start? (f : Frame α) (slot : Slot) : Option α :=
  let x? := match slot with
    | .rowHandle => if f.config.showRowHandle then some Pixel.zero else none
    | .tree =>
      if f.config.showTree then
        some (if f.config.showRowHandle then f.columns.handle.width else Pixel.zero)
      else none
    | .shown i => f.shownStart? i
  x?.filter fun x => x ≤ f.viewport.width

/-- The right edge of the columns that do not scroll. -/
def fixedEdge (f : Frame α) : α :=
  leadingWidth f.columns f.config + Pixel.sum (f.widths 0 f.fixedColumns)

/-- The bottom edge of the rows that do not scroll. -/
def fixedRowEdge (f : Frame α) : α :=
  let standing := f.layout.rows.takeWhile fun r => r.band ≠ .data || r.row < f.config.fixedRows
  (standing.getLast?.map (·.bottom)).getD Pixel.zero

/-- The cell under a point. -/
def cellAt? (f : Frame α) (p : Point α) : Option (Hit α) := do
  let column ← f.layout.columnAt? p.x
  let row ← f.layout.rowAt? p.y
  return ⟨column, row, ⟨p.x - column.left, p.y - row.top⟩⟩

/-- An item along one axis: its edges, and its index in the list it comes from. -/
structure Extent (α : Type) where
  index : Nat
  low : α
  high : α

/-- The edge, named by the index of the item after it, that is nearest to a position inside one of
the items.  Of two equally near edges the higher one counts; the edge after the last item is named
by the next index. -/
def nearestAmong? (x : α) : List (Extent α) → Option Nat
  | [] => none
  | e :: rest =>
    if e.low ≤ x ∧ x < e.high then
      if Pixel.abs (e.low - x) < Pixel.abs (e.high - x) then some e.index
      else
        match rest with
        | next :: _ => some next.index
        | [] => some (e.index + 1)
    else nearestAmong? x rest

/-- The edge nearest to a position.  A position in front of all items gives the first one, and a
position behind all items the last one. -/
def nearestEdge? (x : α) (items : List (Extent α)) : Option Nat :=
  match items.head?, items.getLast? with
  | some first, some last =>
    if x < first.low then some first.index
    else if last.high ≤ x then some last.index
    else nearestAmong? x items
  | _, _ => none

/-- The shown columns on the screen as extents. -/
def columnExtents (f : Frame α) : List (Extent α) :=
  f.layout.columns.filterMap fun c => c.slot.shownIndex?.map fun i => ⟨i, c.left, c.right⟩

/-- The data rows on the screen as extents. -/
def rowExtents (f : Frame α) : List (Extent α) :=
  f.layout.dataRows.map fun r => ⟨r.row, r.top, r.bottom⟩

/-- The index before which a column would be put at a position. -/
def nearestColumn? (f : Frame α) (x : α) : Option Nat := nearestEdge? x f.columnExtents

/-- The index of the data row whose upper edge is nearest to a position. -/
def nearestRow? (f : Frame α) (y : α) : Option Nat := nearestEdge? y f.rowExtents

/-- How far the viewport can be scrolled. -/
def scrollLimits (f : Frame α) (rowCount : Nat) : ScrollLimits :=
  .compute f.columns f.config f.viewport rowCount

end Frame

end DataGrid
