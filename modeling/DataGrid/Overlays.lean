import DataGrid.Geometry

/-!
# Overlays

What is drawn over a grid while something is dragged.
-/

namespace DataGrid

/-- The shapes drawn over a grid. -/
structure Overlays (α : Type) where
  /-- The columns that are dragged, under the pointer. -/
  floater : Option (Rect α)
  /-- Where the dragged columns would be put. -/
  dropBar : Option (Bar α)
  /-- Where the fixed columns would end. -/
  fixedColumnBar : Option (Bar α)
  /-- Where the fixed rows would end. -/
  fixedRowBar : Option (Bar α)

namespace Overlays

variable {α : Type}

/-- Nothing is drawn. -/
def none : Overlays α := ⟨.none, .none, .none, .none⟩

def isNone (o : Overlays α) : Bool :=
  o.floater.isNone && o.dropBar.isNone && o.fixedColumnBar.isNone && o.fixedRowBar.isNone

/-- Without the shapes of dragged columns. -/
def withoutColumnDrag (o : Overlays α) : Overlays α := { o with floater := .none, dropBar := .none }

end Overlays

end DataGrid
