import DataGrid.Pixel

/-!
# Points, rectangles and bars

Positions are measured from the top-left corner of the viewport.  A rectangle holds its left and
top edges and not its right and bottom edges.
-/

namespace DataGrid

/-- A point of the viewport. -/
structure Point (α : Type) where
  x : α
  y : α

/-- A rectangle of the viewport. -/
structure Rect (α : Type) where
  x : α
  y : α
  width : α
  height : α

/-- A thin marker line. -/
structure Bar (α : Type) where
  x : α
  y : α
  length : α
  thickness : α

namespace Rect

variable {α : Type} [Pixel α]

def right (r : Rect α) : α := r.x + r.width

def bottom (r : Rect α) : α := r.y + r.height

/-- Whether a point lies in the rectangle. -/
def contains (r : Rect α) (p : Point α) : Bool :=
  r.x ≤ p.x && p.x < r.right && r.y ≤ p.y && p.y < r.bottom

end Rect

end DataGrid
