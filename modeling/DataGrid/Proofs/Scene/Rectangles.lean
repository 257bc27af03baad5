import DataGrid.Painting
import DataGrid.Proofs.Layout.Screens
import DataGrid.Proofs.Scene.Merges

/-!
# Rectangles of cells

A painted cell takes up a run of columns and a run of rows (`Binding.columnRun`, `Binding.rowRun`).
Where whatever is on the grid has a size, its rectangle is where these runs are on the two axes of
the screen (`Scene.IsRegular.isPlaced_columnRun`, `Scene.IsRegular.isPlaced_rowRun`).
-/

namespace DataGrid

section Definitions

variable {α σ : Type} [DataSource σ]

namespace Scene

/-- The cell in a column and a row of the screen is painted. -/
structure Paints (s : Scene α σ) (column : PlacedColumn α) (row : PlacedRow α) : Prop where
  column_mem : column ∈ s.layout.columns
  row_mem : row ∈ s.layout.rows
  isCovered_eq : (Binding.ofPlaced s column row).isCovered = false

/-- The grid is laid out, and whatever is on it has a size. -/
structure IsRegular (s : Scene Rat σ) (v : Viewport Rat) (rowCount : Nat) : Prop where
  layout_eq : s.layout = .compute s.columns s.config v rowCount
  isWellFormed : s.columns.IsWellFormed
  nodup : s.columns.shown.Nodup
  widths : s.columns.HasPositiveWidths
  header_pos : 0 < s.config.headerRowHeight
  row_pos : 0 < s.config.rowHeight
  tidy : s.HasTidyMerges rowCount
  /-- No merged cell is empty. -/
  covers : ∀ m : s.LaidMerge, m.Covers m.index m.y
  span_eq : DataSource.hasSpans s.data = false → ∀ x y, DataSource.span s.data x y = .single

end Scene

namespace Binding

/-- How many columns and rows a cell takes up. -/
def extent (b : Binding α) (s : Scene α σ) : Span :=
  if (b.span s).isMerge then b.span s else .single

/-- The columns that a cell takes up. -/
def columnRun (b : Binding Rat) (s : Scene Rat σ) : Axis.Run where
  low := (b.bounds s).x
  high := (b.bounds s).right
  items? := b.column.slot.shownIndex?.map (·, (b.extent s).columns)

/-- The rows that a cell takes up. -/
def rowRun (b : Binding Rat) (s : Scene Rat σ) : Axis.Run where
  low := (b.bounds s).y
  high := (b.bounds s).bottom
  items? := if b.row.band = .data then some (b.row.row, (b.extent s).rows) else none

end Binding

end Definitions

/-! ### Rectangles -/

namespace Binding

variable {σ : Type} [DataSource σ] {s : Scene Rat σ} {b : Binding Rat}

theorem sum_filterMap_width (c : Columns Rat) (ids : List ColumnId) :
  Pixel.sum (ids.filterMap fun id => (c.column? id).map (·.width)) = c.totalWidth ids
  := by
  rw [Pixel.sum_eq]
  induction ids with
  | nil => rfl
  | cons id rest ih =>
    rw [List.filterMap_cons, Columns.totalWidth_cons, Columns.widthOf, ← ih]
    cases (c.column? id).map (·.width) with
    | none => exact (zero_add _).symm
    | some w => rfl

omit [DataSource σ] in
theorem reach_eq (s : Scene Rat σ) (i : Nat) (span : Span) :
  reach s i span
    = (s.columns.widthBefore (i + 1 + (span.columns - 1)) - s.columns.widthBefore (i + 1),
        ((span.rows - 1 : Nat) : Rat) * s.config.rowHeight)
  := by
  rw [reach, sum_filterMap_width, Columns.totalWidth_take_drop, Pixel.sum_eq, List.sum_replicate,
    nsmul_eq_mul]

@[simp]
theorem bounds_x (b : Binding Rat) (s : Scene Rat σ) :
  (b.bounds s).x = b.column.left
  := by
  rw [bounds]
  split
  · rfl
  · split <;> rfl

@[simp]
theorem bounds_y (b : Binding Rat) (s : Scene Rat σ) :
  (b.bounds s).y = b.row.top
  := by
  rw [bounds]
  split
  · rfl
  · split <;> rfl

theorem items?_columnRun {i count : Nat} (h : (b.columnRun s).items? = some (i, count)) :
  b.column.slot = .shown i ∧ count = (b.extent s).columns
  := by
  obtain ⟨j, hj, heq⟩ := Option.map_eq_some_iff.mp h
  obtain ⟨rfl, rfl⟩ := Prod.mk.inj heq
  exact ⟨Slot.shownIndex?_eq_some.mp hj, rfl⟩

theorem items?_rowRun {i count : Nat} (h : (b.rowRun s).items? = some (i, count)) :
  b.row.band = .data ∧ i = b.row.row ∧ count = (b.extent s).rows
  := by
  obtain ⟨hband, heq⟩ := Option.ite_none_right_eq_some.mp h
  obtain ⟨rfl, rfl⟩ := Prod.mk.inj (Option.some.inj heq)
  exact ⟨hband, rfl, rfl⟩

theorem shownIndex?_of_items?_columnRun (h : (b.columnRun s).items? = none) :
  b.column.slot.shownIndex? = none
  := Option.map_eq_none_iff.mp h

theorem band_ne_of_items?_rowRun (h : (b.rowRun s).items? = none) :
  b.row.band ≠ .data
  := by
  intro hband
  rw [rowRun, hband] at h
  cases h

theorem span_of_data {x : Nat} (hband : b.row.band = .data) (hid : b.column.id = .data x) :
  b.span s = DataSource.span s.data x b.row.row
  := by
  rw [span, hband, hid]

/-- Only a cell with data covers others. -/
theorem exists_data_of_isMerge (h : (b.span s).isMerge = true) :
  b.row.band = .data ∧ ∃ x, b.column.id = .data x
  := by
  rw [span] at h
  split at h
  case h_1 x hband hid => exact ⟨hband, x, hid⟩
  case h_2 => cases h

/-- A cell that is not merged has the rectangle of its column and row. -/
theorem bounds_of_not_isMerge (h : (b.span s).isMerge = false) :
  b.bounds s = ⟨b.column.left, b.row.top, b.column.width, b.row.height⟩
  := by
  rw [bounds, h, Bool.not_false, Bool.or_true, if_pos rfl]

/-- A merged cell has the rectangle of its column and row, widened as far as it reaches. -/
theorem bounds_of_isMerge (hfree : b.isCovered = false) (h : (b.span s).isMerge = true) {i : Nat}
    (hslot : b.column.slot = .shown i) :
  b.bounds s
    = ⟨b.column.left, b.row.top, b.column.width + (reach s i (b.span s)).1,
        b.row.height + (reach s i (b.span s)).2⟩
  := by
  rw [bounds, h, hfree, Bool.not_true, Bool.or_false, if_neg Bool.false_ne_true, shownIndex?, hslot]
  rfl

theorem extent_of_isMerge (h : (b.span s).isMerge = true) :
  b.extent s = b.span s
  := if_pos h

theorem extent_of_not_isMerge (h : (b.span s).isMerge = false) :
  b.extent s = .single
  := by
  rw [extent, h, if_neg Bool.false_ne_true]

end Binding

/-! ### Regular scenes -/

namespace Scene.IsRegular

open Binding

variable {σ : Type} [DataSource σ] {s : Scene Rat σ} {v : Viewport Rat} {rowCount : Nat}
  (h : s.IsRegular v rowCount) {column : PlacedColumn Rat} {row : PlacedRow Rat}
  (hcolumn : column ∈ s.layout.columns) (hrow : row ∈ s.layout.rows)

include h

section Cells

include hcolumn

theorem place_of_mem :
  column.slot.shownIndex? = none ∧ column.id.isSynthetic = true
    ∨ ∃ i, column.slot = .shown i ∧ s.columns.shown[i]? = some column.id
  := Layout.place_of_mem_columns (h.layout_eq ▸ hcolumn)

theorem shown_of_slot {i : Nat} (hslot : column.slot = .shown i) :
  s.columns.shown[i]? = some column.id
  := by
  obtain ⟨hnone, -⟩ | ⟨j, hj, hid⟩ := h.place_of_mem hcolumn
  · rw [hslot] at hnone
    cases hnone
  · obtain rfl := Slot.shown.inj (hslot.symm.trans hj)
    apply hid

/-- A cell that covers others is the one at the top left of a merged cell. -/
theorem exists_laidMerge_of_isMerge (hmerge : ((ofPlaced s column row).span s).isMerge = true) :
  ∃ m : s.LaidMerge, column.slot = .shown m.index ∧ row.band = .data ∧ row.row = m.y
    ∧ m.cell = (ofPlaced s column row).dataCell ∧ m.span = (ofPlaced s column row).span s
  := by
  obtain ⟨hband, x, hid⟩ := exists_data_of_isMerge hmerge
  change row.band = .data at hband
  change column.id = .data x at hid
  have hdata : (ofPlaced s column row).span s = DataSource.span s.data x row.row :=
    span_of_data hband hid
  have hcell : (ofPlaced s column row).dataCell = ⟨.data x, row.row, .data⟩ := by
    rw [dataCell_ofPlaced, hid, hband]
  obtain ⟨-, hsynthetic⟩ | ⟨i, hslot, hshown⟩ := h.place_of_mem hcolumn
  · rw [hid] at hsynthetic
    cases hsynthetic
  · exact ⟨⟨i, x, row.row, hid ▸ hshown, hdata ▸ hmerge⟩, hslot, hband, rfl, hcell.symm, hdata.symm⟩

theorem extent_pos (row : PlacedRow Rat) :
  0 < ((ofPlaced s column row).extent s).columns ∧ 0 < ((ofPlaced s column row).extent s).rows
  := by
  cases hmerge : ((ofPlaced s column row).span s).isMerge with
  | false =>
    rw [extent_of_not_isMerge hmerge]
    decide
  | true =>
    obtain ⟨m, -, -, -, -, hspan⟩ := h.exists_laidMerge_of_isMerge hcolumn hmerge
    have hcolumns := (h.covers m).lt_columns
    have hrows := (h.covers m).lt_rows
    rw [extent_of_isMerge hmerge, ← hspan]
    omega

/-- A painted cell in a shown column is as wide as the columns that it takes up. -/
theorem width_bounds (hfree : (ofPlaced s column row).isCovered = false) {i : Nat}
    (hslot : column.slot = .shown i) :
  ((ofPlaced s column row).bounds s).width
    = s.columns.widthBefore (i + ((ofPlaced s column row).extent s).columns)
        - s.columns.widthBefore i
  := by
  have hwidth : column.width = s.columns.widthBefore (i + 1) - s.columns.widthBefore i := by
    rw [Columns.widthBefore_succ (h.shown_of_slot hcolumn hslot),
      (Layout.left_of_mem_columns (h.layout_eq ▸ hcolumn) hslot).2.2.2]
    linarith
  cases hmerge : ((ofPlaced s column row).span s).isMerge with
  | false =>
    rw [bounds_of_not_isMerge hmerge, extent_of_not_isMerge hmerge]
    apply hwidth
  | true =>
    have hpos := (h.extent_pos hcolumn row).1
    rw [extent_of_isMerge hmerge] at hpos
    have hend : i + 1 + (((ofPlaced s column row).span s).columns - 1)
        = i + ((ofPlaced s column row).span s).columns := by omega
    rw [bounds_of_isMerge hfree hmerge hslot, extent_of_isMerge hmerge, reach_eq, hend]
    change column.width + _ = _
    linarith

/-- A cell in a synthetic column or above the data has the rectangle of its column and row. -/
theorem bounds_of_items? (hnone : ((ofPlaced s column row).columnRun s).items? = none
      ∨ ((ofPlaced s column row).rowRun s).items? = none) :
  (ofPlaced s column row).bounds s = ⟨column.left, row.top, column.width, row.height⟩
  := by
  apply bounds_of_not_isMerge
  rw [← Bool.not_eq_true]
  intro hmerge
  obtain ⟨m, hslot, hband, -⟩ := h.exists_laidMerge_of_isMerge hcolumn hmerge
  obtain hnone | hnone := hnone
  · have hsynthetic := shownIndex?_of_items?_columnRun hnone
    change column.slot.shownIndex? = none at hsynthetic
    rw [hslot] at hsynthetic
    cases hsynthetic
  · exact band_ne_of_items?_rowRun hnone hband

include hrow

/-- A painted cell in a data row is as high as the rows that it takes up. -/
theorem height_bounds (hfree : (ofPlaced s column row).isCovered = false)
    (hband : row.band = .data) :
  ((ofPlaced s column row).bounds s).height
    = ((ofPlaced s column row).extent s).rows * s.config.rowHeight
  := by
  have hheight : row.height = s.config.rowHeight :=
    (Layout.top_of_mem_rows (h.layout_eq ▸ hrow) hband).2.2
  cases hmerge : ((ofPlaced s column row).span s).isMerge with
  | false =>
    rw [bounds_of_not_isMerge hmerge, extent_of_not_isMerge hmerge]
    change row.height = (1 : Nat) * s.config.rowHeight
    rw [hheight, Nat.cast_one, one_mul]
  | true =>
    obtain ⟨m, hslot, -⟩ := h.exists_laidMerge_of_isMerge hcolumn hmerge
    have hpos := (h.extent_pos hcolumn row).2
    rw [extent_of_isMerge hmerge] at hpos
    rw [bounds_of_isMerge hfree hmerge hslot, extent_of_isMerge hmerge, reach_eq]
    change row.height + ((((ofPlaced s column row).span s).rows - 1 : Nat) : Rat) * _ = _
    rw [hheight, Nat.cast_sub hpos, Nat.cast_succ, Nat.cast_zero]
    linarith

end Cells

/-! ### The axes of the screen -/

theorem columnScreen :
  Axis.Screen s.columns.widthBefore (min s.config.fixedColumns s.columns.shownCount) v.scrollLeft
    s.layout.ShowsColumn
  := h.layout_eq ▸ Layout.columnScreen h.widths h.isWellFormed s.config v rowCount

theorem rowScreen :
  Axis.Screen (fun i => i * s.config.rowHeight) (min s.config.fixedRows rowCount) v.scrollTop
    s.layout.ShowsRow
  := h.layout_eq ▸ Layout.rowScreen h.row_pos s.columns v rowCount

/-- A shown column stands behind the synthetic ones, as far as it is offset. -/
theorem left_eq (hcolumn : column ∈ s.layout.columns) {i : Nat} (hslot : column.slot = .shown i) :
  column.left = leadingWidth s.columns s.config
    + Axis.offset s.columns.widthBefore (min s.config.fixedColumns s.columns.shownCount)
        v.scrollLeft i
  := (Layout.left_of_mem_columns (h.layout_eq ▸ hcolumn) hslot).2.2.1

/-- A data row stands below those above the data, as far as it is offset. -/
theorem top_eq (hrow : row ∈ s.layout.rows) (hband : row.band = .data) :
  row.top = (Layout.topEdge s.config).y
    + Axis.offset (fun i => i * s.config.rowHeight) (min s.config.fixedRows rowCount) v.scrollTop
        row.row
  := (Layout.top_of_mem_rows (h.layout_eq ▸ hrow) hband).2.1

/-- The columns that a painted cell takes up are those of the screen, from its own one on. -/
theorem isPlaced_columnRun (hb : s.Paints column row) :
  ((ofPlaced s column row).columnRun s).IsPlaced s.columns.widthBefore
    (min s.config.fixedColumns s.columns.shownCount) v.scrollLeft s.layout.ShowsColumn
    (leadingWidth s.columns s.config)
  := by
  constructor
  case high_le =>
    intro hnone
    change ((ofPlaced s column row).bounds s).right ≤ _
    rw [h.bounds_of_items? hb.column_mem (.inl hnone)]
    apply Layout.right_le_leadingWidth h.widths.hasWidths (h.layout_eq ▸ hb.column_mem)
    apply shownIndex?_of_items?_columnRun hnone
  case low_eq =>
    intro i count hsome
    obtain ⟨hslot, -⟩ := items?_columnRun hsome
    apply (bounds_x _ _).trans
    apply h.left_eq hb.column_mem hslot
  case high_eq =>
    intro i count hsome
    obtain ⟨hslot, rfl⟩ := items?_columnRun hsome
    rw [← h.width_bounds hb.column_mem hb.isCovered_eq hslot]
    rfl
  case on_first =>
    intro i count hsome
    obtain ⟨hslot, -⟩ := items?_columnRun hsome
    exact ⟨column, hb.column_mem, hslot⟩

/-- The rows that a painted cell takes up are those of the screen, from its own one on. -/
theorem isPlaced_rowRun (hb : s.Paints column row) :
  ((ofPlaced s column row).rowRun s).IsPlaced (fun i => i * s.config.rowHeight)
    (min s.config.fixedRows rowCount) v.scrollTop s.layout.ShowsRow (Layout.topEdge s.config).y
  := by
  constructor
  case high_le =>
    intro hnone
    change ((ofPlaced s column row).bounds s).bottom ≤ _
    rw [h.bounds_of_items? hb.column_mem (.inr hnone)]
    apply Layout.bottom_le_topEdge (le_of_lt h.header_pos) (le_of_lt h.row_pos)
      (h.layout_eq ▸ hb.row_mem)
    apply band_ne_of_items?_rowRun hnone
  case low_eq =>
    intro i count hsome
    obtain ⟨hband, rfl, -⟩ := items?_rowRun hsome
    apply (bounds_y _ _).trans
    apply h.top_eq hb.row_mem hband
  case high_eq =>
    intro i count hsome
    obtain ⟨hband, rfl, rfl⟩ := items?_rowRun hsome
    have hheight := h.height_bounds hb.column_mem hb.row_mem hb.isCovered_eq hband
    change _ + ((ofPlaced s column row).bounds s).height = _ + _
    rw [hheight, Nat.cast_add]
    congr 1
    linarith
  case on_first =>
    intro i count hsome
    obtain ⟨hband, rfl, -⟩ := items?_rowRun hsome
    exact ⟨row, hb.row_mem, hband, rfl⟩

end Scene.IsRegular

end DataGrid
