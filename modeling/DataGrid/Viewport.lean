import DataGrid.Columns

/-!
# The viewport

A viewport is as wide and as high as the grid is on the screen, and it is scrolled by whole columns
and rows past the fixed ones.  `ScrollLimits.compute` says how far: so far that the last column
and the last row can be seen in full.
-/

namespace DataGrid

/-- How far a viewport can be scrolled. -/
structure ScrollLimits where
  left : Nat
  top : Nat
deriving DecidableEq

/-- The part of a grid that is on the screen. -/
structure Viewport (α : Type) where
  /-- Columns that are scrolled out behind the fixed ones. -/
  scrollLeft : Nat
  /-- Rows that are scrolled out behind the fixed ones. -/
  scrollTop : Nat
  width : α
  height : α

variable {α : Type} [Pixel α]

/-- The width of the synthetic columns that are shown. -/
def leadingWidth (c : Columns α) (config : Config α) : α :=
  let handle := if config.showRowHandle then Pixel.zero + c.handle.width else Pixel.zero
  if config.showTree then handle + c.tree.width else handle

/-- How many of these widths, one after the other, fit in what is left of a length of which `used`
is in use. -/
def fitting (available used : α) : List α → Nat
  | [] => 0
  | w :: rest => if available < used + w then 0 else fitting available (used + w) rest + 1

namespace ScrollLimits

/-- How many columns can be scrolled out so that the last ones fill the viewport; at least one
column that scrolls stays. -/
def computeLeft (c : Columns α) (config : Config α) (v : Viewport α) : Nat :=
  let fixed := min config.fixedColumns c.shownCount
  let widths := c.shownColumns.map (·.width)
  let leading := leadingWidth c config + Pixel.sum (widths.take fixed)
  let available := Pixel.nonneg (v.width - leading)
  let scrolling := widths.drop fixed
  scrolling.length - max (fitting available Pixel.zero scrolling.reverse) 1

/-- How many rows can be scrolled out so that the last ones fill the viewport; at least one row
that scrolls stays. -/
def computeTop (config : Config α) (v : Viewport α) (rowCount : Nat) : Nat :=
  let fixed := min config.fixedRows rowCount
  let leading := config.headerHeight + Pixel.ofNat fixed * config.rowHeight
  let available := Pixel.nonneg (v.height - leading)
  let rows :=
    if Pixel.zero < config.rowHeight then max (Pixel.floorNat (available / config.rowHeight)) 1
    else 1
  rowCount - fixed - rows

/-- How far the viewport can be scrolled. -/
def compute (c : Columns α) (config : Config α) (v : Viewport α) (rowCount : Nat) : ScrollLimits :=
  ⟨computeLeft c config v, computeTop config v rowCount⟩

end ScrollLimits

namespace Viewport

/-- A viewport of this size that is not scrolled. -/
def ofSize {α : Type} (width height : α) : Viewport α := ⟨0, 0, width, height⟩

/-- The viewport of a new grid. -/
def initial : Viewport α := ofSize (Pixel.ofNat 800) (Pixel.ofNat 600)

omit [Pixel α] in
/-- Scroll back to where the limits allow. -/
def clamp (v : Viewport α) (limits : ScrollLimits) : Viewport α :=
  { v with scrollLeft := min v.scrollLeft limits.left, scrollTop := min v.scrollTop limits.top }

omit [Pixel α] in
/-- Scroll to a place, as far as the limits allow. -/
def scrollTo (v : Viewport α) (left top : Nat) (limits : ScrollLimits) : Viewport α :=
  { v with scrollLeft := left, scrollTop := top }.clamp limits

/-- Step from an index, not below zero. -/
def stepBy (from' : Nat) (delta : Int) : Nat := (from' + delta : Int).toNat

omit [Pixel α] in
/-- Scroll by columns and rows, as far as the limits allow. -/
def scrollBy (v : Viewport α) (columns rows : Int) (limits : ScrollLimits) : Viewport α :=
  v.scrollTo (stepBy v.scrollLeft columns) (stepBy v.scrollTop rows) limits

omit [Pixel α] in
/-- Whether two viewports are scrolled to different places. -/
def scrolledApart (v w : Viewport α) : Bool :=
  v.scrollLeft ≠ w.scrollLeft || v.scrollTop ≠ w.scrollTop

/-- Give the viewport a size; a negative one counts as none. -/
def resize (v : Viewport α) (width height : α) : Viewport α :=
  { v with width := Pixel.nonneg width, height := Pixel.nonneg height }

end Viewport

end DataGrid
