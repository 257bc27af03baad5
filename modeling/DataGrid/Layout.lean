import DataGrid.Cell
import DataGrid.Viewport

/-!
# The layout of a grid

A `Layout` lists the columns and rows that are on the screen, with their edges.  The synthetic
columns come first, then the fixed ones, then those that scroll, from the first one that is not
scrolled out to the right edge of the viewport.  Rows follow in the same way: header rows, the
filter row, fixed data rows and data rows that scroll.
-/

namespace DataGrid

/-- A column on the screen. -/
structure PlacedColumn (α : Type) where
  /-- Its place among the columns on the screen. -/
  index : Nat
  slot : Slot
  id : ColumnId
  left : α
  width : α

/-- A row on the screen. -/
structure PlacedRow (α : Type) where
  /-- Its place among the rows on the screen. -/
  index : Nat
  /-- Its place in its band. -/
  row : Nat
  band : Band
  top : α
  height : α

/-- The columns and rows on the screen, from the left and from the top. -/
structure Layout (α : Type) where
  columns : List (PlacedColumn α)
  rows : List (PlacedRow α)

variable {α : Type}

def PlacedColumn.right [Add α] (c : PlacedColumn α) : α := c.left + c.width

def PlacedRow.bottom [Add α] (r : PlacedRow α) : α := r.top + r.height

/-- A column that is to be placed. -/
structure ColumnPlan (α : Type) where
  slot : Slot
  id : ColumnId
  width : α
  /-- Whether it is left out when it begins beyond the viewport. -/
  scrolls : Bool

namespace Layout

/-- Nothing is on the screen. -/
def empty : Layout α := ⟨[], []⟩

/-- The place for the next row: its index on the screen and its top edge. -/
structure RowCursor (α : Type) where
  index : Nat
  y : α

/-- Place `count` rows of one height below one another, beginning with row `first` of a band. -/
def placeRows [Add α] (band : Band) (height : α) :
    (count first : Nat) → RowCursor α → List (PlacedRow α)
  | 0, _, _ => []
  | count + 1, first, at' =>
    ⟨at'.index, first, band, at'.y, height⟩
      :: placeRows band height count (first + 1) ⟨at'.index + 1, at'.y + height⟩

/-- The place below the last of some rows. -/
def RowCursor.below [Add α] (start : RowCursor α) (rows : List (PlacedRow α)) : RowCursor α :=
  match rows.getLast? with
  | some r => ⟨r.index + 1, r.bottom⟩
  | none => start

variable [Pixel α]

/-- The synthetic columns that are shown. -/
def syntheticPlans (c : Columns α) (config : Config α) : List (ColumnPlan α) :=
  (if config.showRowHandle then [⟨.rowHandle, .rowHandle, c.handle.width, false⟩] else [])
    ++ (if config.showTree then [⟨.tree, .tree, c.tree.width, false⟩] else [])

/-- The shown columns of a part of the list that begins at index `first`. -/
def shownPlans (c : Columns α) (scrolls : Bool) (first : Nat) (ids : List ColumnId) :
    List (ColumnPlan α) :=
  (ids.zipIdx first).map fun (id, i) =>
    ⟨.shown i, id, ((c.column? id).map (·.width)).getD Pixel.zero, scrolls⟩

/-- All columns that may be placed: the synthetic ones, the fixed ones and, from the first one that
is not scrolled out, those that scroll. -/
def columnPlans (c : Columns α) (config : Config α) (v : Viewport α) : List (ColumnPlan α) :=
  let fixed := min config.fixedColumns c.shownCount
  let first := fixed + v.scrollLeft
  syntheticPlans c config ++ shownPlans c false 0 (c.shown.take fixed)
    ++ shownPlans c true first (c.shown.drop first)

/-- Place columns side by side from `x`, up to the first one that scrolls and begins at the limit
or beyond it. -/
def placeColumns (limit : α) (index : Nat) (x : α) :
    List (ColumnPlan α) → List (PlacedColumn α)
  | [] => []
  | p :: rest =>
    if p.scrolls ∧ limit ≤ x then []
    else ⟨index, p.slot, p.id, x, p.width⟩ :: placeColumns limit (index + 1) (x + p.width) rest

/-- Place at most `count` rows in the same way, up to the first one that begins at the limit or
beyond it. -/
def placeRowsTo (limit : α) (band : Band) (height : α) :
    (count first : Nat) → RowCursor α → List (PlacedRow α)
  | 0, _, _ => []
  | count + 1, first, at' =>
    if limit ≤ at'.y then []
    else
      ⟨at'.index, first, band, at'.y, height⟩
        :: placeRowsTo limit band height count (first + 1) ⟨at'.index + 1, at'.y + height⟩

/-- The rows above those that scroll. -/
def standingRows (config : Config α) (rowCount : Nat) : List (PlacedRow α) :=
  let start : RowCursor α := ⟨0, Pixel.zero⟩
  let header := placeRows .header config.headerRowHeight config.headerRows 0 start
  let start := start.below header
  let filter := placeRows .filter config.rowHeight (if config.showFilterRow then 1 else 0) 0 start
  let start := start.below filter
  header ++ filter
    ++ placeRows .data config.rowHeight (min config.fixedRows rowCount) 0 start

/-- The rows on the screen. -/
def computeRows (config : Config α) (v : Viewport α) (rowCount : Nat) : List (PlacedRow α) :=
  let standing := standingRows config rowCount
  let first := min config.fixedRows rowCount + v.scrollTop
  standing ++ placeRowsTo v.height .data config.rowHeight (rowCount - first) first
    (RowCursor.below ⟨0, Pixel.zero⟩ standing)

/-- The layout of a grid. -/
def compute (c : Columns α) (config : Config α) (v : Viewport α) (rowCount : Nat) : Layout α where
  columns := placeColumns v.width 0 Pixel.zero (columnPlans c config v)
  rows := computeRows config v rowCount

/-- The number of items in front of the first one that fails a test, found by halving the list.
Items that pass have to stand in front of items that fail. -/
def partitionIn {β : Type} (items : Array β) (test : β → Bool) (base size : Nat) : Nat :=
  if _h : 1 < size then
    let half := size / 2
    let passes := (items[base + half]?.map test).getD false
    partitionIn items test (if passes then base + half else base) (size - half)
  else
    base + (if (items[base]?.map test).getD false then 1 else 0)
termination_by size
decreasing_by omega

/-- The number of items in front of the first one that fails a test. -/
def partitionPoint {β : Type} (items : List β) (test : β → Bool) : Nat :=
  partitionIn items.toArray test 0 items.length

/-- The last item whose edge is at a position or before it. -/
def lastAtOrBefore? {β : Type} (items : List β) (edge : β → α) (x : α) : Option β :=
  match partitionPoint items fun i => edge i ≤ x with
  | 0 => none
  | n + 1 => items[n]?

/-- The column on the screen that holds a position. -/
def columnAt? (l : Layout α) (x : α) : Option (PlacedColumn α) :=
  (lastAtOrBefore? l.columns (·.left) x).filter fun c => x < c.right

/-- The row on the screen that holds a position. -/
def rowAt? (l : Layout α) (y : α) : Option (PlacedRow α) :=
  (lastAtOrBefore? l.rows (·.top) y).filter fun r => y < r.bottom

/-- The right edge of the last column. -/
def rightEdge (l : Layout α) : α := (l.columns.getLast?.map (·.right)).getD Pixel.zero

/-- The bottom edge of the last row. -/
def bottomEdge (l : Layout α) : α := (l.rows.getLast?.map (·.bottom)).getD Pixel.zero

omit [Pixel α]

/-- The shown columns on the screen, without the synthetic ones. -/
def shownColumns (l : Layout α) : List (PlacedColumn α) :=
  l.columns.filter fun c => c.slot.shownIndex?.isSome

/-- The data rows on the screen. -/
def dataRows (l : Layout α) : List (PlacedRow α) := l.rows.filter fun r => r.band = .data

/-- The column on the screen in a slot. -/
def bySlot? (l : Layout α) (slot : Slot) : Option (PlacedColumn α) :=
  l.columns.find? fun c => c.slot = slot

/-- The first place on the screen of a column. -/
def byId? (l : Layout α) (id : ColumnId) : Option (PlacedColumn α) :=
  l.columns.find? fun c => c.id = id

/-- The row on the screen for a row of a band. -/
def byRow? (l : Layout α) (row : Nat) (band : Band) : Option (PlacedRow α) :=
  l.rows.find? fun r => r.band = band && r.row = row

end Layout

end DataGrid
