import DataGrid.DataSource

/-!
# Tables

A `Table` keeps its rows, the properties of rows and its merged cells in memory.  Rows may be of
different lengths; what is missing reads as empty.
-/

namespace DataGrid

/-- The span of the merged cell in column `x` of row `y`. -/
structure Merge where
  x : Nat
  y : Nat
  span : Span

/-- A table in memory. -/
structure Table where
  rows : Array (Array CellValue)
  /-- The properties of rows, one entry for a row. -/
  properties : List (Nat × Properties)
  /-- The merged cells, one entry for a cell. -/
  merges : List Merge

namespace Table

/-- A table without properties and merged cells. -/
def ofRows (rows : Array (Array CellValue)) : Table := ⟨rows, [], []⟩

/-- A table of the given size with the value that `f` gives for each column and row. -/
def generate (columns rows : Nat) (f : (x y : Nat) → CellValue) : Table :=
  ofRows (Array.ofFn fun y : Fin rows => Array.ofFn fun x : Fin columns => f x y)

/-- A row that is at least `n` long. -/
def padTo (n : Nat) (row : Array CellValue) : Array CellValue :=
  row ++ Array.replicate (n - row.size) CellValue.empty

def value (t : Table) (x y : Nat) : CellValue :=
  (t.rows[y]?.bind fun row => row[x]?).getD .empty

/-- Store a value; a row that is too short is filled up with empty values first. -/
def setValue (t : Table) (x y : Nat) (value : CellValue) : Table :=
  { t with rows := t.rows.modify y fun row => (padTo (x + 1) row).setIfInBounds x value }

def rowProperties? (t : Table) (y : Nat) : Option Properties :=
  (t.properties.find? (·.1 = y)).map (·.2)

/-- Replace the properties of a row; a row that does not exist has none. -/
def setRowProperties (t : Table) (y : Nat) (p : Properties) : Table :=
  if y < t.rows.size then
    { t with properties := (y, p) :: t.properties.filter (·.1 ≠ y) }
  else t

def span (t : Table) (x y : Nat) : Span :=
  ((t.merges.find? fun m => m.x = x && m.y = y).map (·.span)).getD .single

/-- Merge the cells below and to the right of a cell into it; a span of one cell undoes this. -/
def setSpan (t : Table) (x y : Nat) (span : Span) : Table :=
  let others := t.merges.filter fun m => !(m.x = x && m.y = y)
  { t with merges := if span.isMerge then ⟨x, y, span⟩ :: others else others }

end Table

instance : DataSource Table where
  rowCount t := t.rows.size
  value := Table.value
  setValue := Table.setValue
  rowProperties? := Table.rowProperties?
  setRowProperties := Table.setRowProperties
  span := Table.span
  hasSpans t := !t.merges.isEmpty

end DataGrid
