import DataGrid.Proofs.Layout.Search

/-!
# Cells under a point

A cell is found under a point exactly if its column and its row hold the point
(`Frame.exists_cellAt?_iff`).
-/

namespace DataGrid

variable {α : Type} [Pixel α]

namespace Frame

/-- A column and a row on the screen hold a point between their edges. -/
structure Holds (f : Frame α) (p : Point α) (column : PlacedColumn α) (row : PlacedRow α) :
    Prop where
  column_mem : column ∈ f.layout.columns
  row_mem : row ∈ f.layout.rows
  x_bounds : column.left ≤ p.x ∧ p.x < column.right
  y_bounds : row.top ≤ p.y ∧ p.y < row.bottom

/-- No column has a negative width and no row a negative height. -/
structure HasSizes (f : Frame α) : Prop where
  hasLengths : f.columns.HasLengths
  header : Pixel.zero ≤ f.config.headerRowHeight
  height : Pixel.zero ≤ f.config.rowHeight

/-- The layout is the one that belongs to the columns, the settings and the viewport, over some
number of rows. -/
def IsPlaced (f : Frame α) : Prop :=
  ∃ rowCount, f.layout = .compute f.columns f.config f.viewport rowCount

variable {f f' : Frame α} {p : Point α}

theorem IsCoherent.isPlaced {rowCount : Nat} (h : f.IsCoherent rowCount) :
  f.IsPlaced
  := ⟨rowCount, h.layout_eq⟩

/-- Notices that wait do not count. -/
theorem isPlaced_silent_iff :
  f.silent.IsPlaced ↔ f.IsPlaced
  := Iff.rfl

/-- A cell is found where a column and a row are. -/
theorem isSome_cellAt? (f : Frame α) (p : Point α) :
  (f.cellAt? p).isSome = ((f.layout.columnAt? p.x).isSome && (f.layout.rowAt? p.y).isSome)
  := by
  rw [cellAt?]
  cases f.layout.columnAt? p.x with
  | none => rfl
  | some column => cases f.layout.rowAt? p.y <;> rfl

/-- A cell that is found is that of the column and the row at its point. -/
theorem eq_of_cellAt? {hit : Hit α} (h : f.cellAt? p = some hit) :
  f.layout.columnAt? p.x = some hit.column ∧ f.layout.rowAt? p.y = some hit.row
    ∧ hit.offset = ⟨p.x - hit.column.left, p.y - hit.row.top⟩
  := by
  obtain ⟨column, hcolumn, h⟩ := Option.bind_eq_some_iff.mp h
  obtain ⟨row, hrow, h⟩ := Option.bind_eq_some_iff.mp h
  obtain rfl := Option.some.inj h
  exact ⟨hcolumn, hrow, rfl⟩

/-- A cell that is found is on the screen. -/
theorem mem_of_cellAt? {hit : Hit α} (h : f.cellAt? p = some hit) :
  hit.column ∈ f.layout.columns ∧ hit.row ∈ f.layout.rows
  := by
  obtain ⟨hcolumn, hrow, -⟩ := eq_of_cellAt? h
  exact ⟨Layout.mem_of_columnAt? hcolumn, Layout.mem_of_rowAt? hrow⟩

/-- Where nothing has a negative size, a cell is found exactly if its column and its row hold the
point. -/
theorem exists_cellAt?_iff [OrderedPixel α] (h : f.HasSizes) (hf : f.IsPlaced)
    {column : PlacedColumn α} {row : PlacedRow α} :
  (∃ hit, f.cellAt? p = some hit ∧ hit.column = column ∧ hit.row = row) ↔ f.Holds p column row
  := by
  obtain ⟨rowCount, hlayout⟩ := hf
  have hcolumns : f.layout.columnAt? p.x = some column
      ↔ column ∈ f.layout.columns ∧ column.left ≤ p.x ∧ p.x < column.right := by
    rw [hlayout]
    apply Layout.columnAt?_eq_some_iff h.hasLengths
  have hrows : f.layout.rowAt? p.y = some row
      ↔ row ∈ f.layout.rows ∧ row.top ≤ p.y ∧ p.y < row.bottom := by
    rw [hlayout]
    apply Layout.rowAt?_eq_some_iff h.header h.height
  constructor
  · rintro ⟨hit, hhit, rfl, rfl⟩
    obtain ⟨hcolumn, hrow, -⟩ := eq_of_cellAt? hhit
    obtain ⟨hcolumn, hx⟩ := hcolumns.mp hcolumn
    obtain ⟨hrow, hy⟩ := hrows.mp hrow
    exact ⟨hcolumn, hrow, hx, hy⟩
  · rintro ⟨hcolumn, hrow, hx, hy⟩
    have hcolumn := hcolumns.mpr ⟨hcolumn, hx⟩
    have hrow := hrows.mpr ⟨hrow, hy⟩
    refine ⟨⟨column, row, ⟨p.x - column.left, p.y - row.top⟩⟩, ?_, rfl, rfl⟩
    rw [cellAt?, hcolumn, hrow]
    rfl

end Frame

end DataGrid
