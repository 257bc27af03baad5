import DataGrid.Cell
import DataGrid.Json

/-!
# Data sources

A grid keeps no rows.  It reads and writes the table behind it through `DataSource`, by the place
of a column in the table and the number of a row.
-/

namespace DataGrid

/-- What a grid needs of the table behind it. -/
class DataSource (σ : Type) where
  rowCount : σ → Nat
  /-- The value in column `x` of row `y`; empty where there is none. -/
  value : σ → (x y : Nat) → CellValue
  /-- Store a value; a row that does not exist is left alone. -/
  setValue : σ → (x y : Nat) → CellValue → σ
  /-- The properties of a row.  Under the name of a column they hold those of its cell. -/
  rowProperties? : σ → (y : Nat) → Option Properties
  setRowProperties : σ → (y : Nat) → Properties → σ
  /-- What the cell in column `x` of row `y` covers. -/
  span : σ → (x y : Nat) → Span := fun _ _ _ => .single
  /-- Whether any cell may cover another one. -/
  hasSpans : σ → Bool := fun _ => true

end DataGrid
