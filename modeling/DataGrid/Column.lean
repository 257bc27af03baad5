import DataGrid.Column.Id
import DataGrid.Json
import DataGrid.Pixel
import DataGrid.Schema

/-!
# Columns

A column has a width between a least and, if it is bounded, a greatest one, and properties that
its cells share.
-/

namespace DataGrid

/-- A column of a grid. -/
structure Column (α : Type) where
  id : ColumnId
  name : String
  header : String
  typeName : Option String
  width : α
  minimum : α
  /-- The greatest width, if there is one. -/
  maximum : Option α
  /-- Whether the width cannot be changed with the pointer. -/
  locked : Bool
  properties : Properties

namespace Column

variable {α : Type}

/-- A column whose header is its name and whose width is not bounded. -/
def ofName (id : ColumnId) (name : String) (width minimum : α) : Column α where
  id := id
  name := name
  header := name
  typeName := none
  width := width
  minimum := minimum
  maximum := none
  locked := false
  properties := .empty

variable [Pixel α]

/-- The width nearest to `w` that the column may have. -/
def bound (c : Column α) (w : α) : α :=
  match c.maximum with
  | none => if w < c.minimum then c.minimum else w
  | some m => Pixel.clamp w c.minimum (Pixel.greater m c.minimum)

/-- Give the column a width, as far as its limits allow. -/
def resize (c : Column α) (w : α) : Column α := { c with width := c.bound w }

omit [Pixel α] in
/-- Lay properties over those of the column. -/
def addProperties (c : Column α) (p : Properties) : Column α :=
  { c with properties := c.properties.merge p }

end Column

end DataGrid
