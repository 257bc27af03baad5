import DataGrid.Proofs.Scene.Rectangles

/-!
# Painted cells lie apart

If every merged cell whose top left is on the screen is whole there, the rectangles of painted cells
lie apart (`Scene.IsRegular.pairwise_painted`).  If every merged cell on the screen begins there, they
lie apart only then (`Scene.IsRegular.isWhole_of_pairwise`).
-/

namespace DataGrid

namespace Rect

/-- No point lies in both rectangles. -/
def Apart {α : Type} [Pixel α] (r r' : Rect α) : Prop :=
  ∀ p, ¬ (r.contains p = true ∧ r'.contains p = true)

theorem Apart.symm {α : Type} [Pixel α] {r r' : Rect α} (h : r.Apart r') :
  r'.Apart r
  := fun p hp => h p hp.symm

theorem contains_iff {r : Rect Rat} {p : Point Rat} :
  r.contains p = true ↔ (r.x ≤ p.x ∧ p.x < r.right) ∧ (r.y ≤ p.y ∧ p.y < r.bottom)
  := by
  simp only [contains, Bool.and_eq_true, decide_eq_true_eq, and_assoc]

end Rect

section Definitions

variable {α σ : Type} [DataSource σ]

namespace Scene.LaidMerge

variable {s : Scene α σ} (m : s.LaidMerge)

/-- The cell at the top left of a merged cell is on the screen. -/
def IsOnScreen : Prop := s.layout.ShowsColumn m.index ∧ s.layout.ShowsRow m.y

/-- Nothing behind a merged cell is on the screen while one of its columns or rows is not. -/
structure IsWhole : Prop where
  columns : Axis.IsWhole s.layout.ShowsColumn m.index m.span.columns
  rows : Axis.IsWhole s.layout.ShowsRow m.y m.span.rows

end Scene.LaidMerge

namespace Binding

/-- A column of the screen is that of a cell, or one of those that the cell takes up. -/
def HoldsColumn (b : Binding Rat) (s : Scene Rat σ) (column : PlacedColumn Rat) : Prop :=
  column = b.column ∨ ∃ j, column.slot = .shown j ∧ (b.columnRun s).Holds j

/-- A row of the screen is that of a cell, or one of those that the cell takes up. -/
def HoldsRow (b : Binding Rat) (s : Scene Rat σ) (row : PlacedRow Rat) : Prop :=
  row = b.row ∨ row.band = .data ∧ (b.rowRun s).Holds row.row

end Binding

end Definitions

namespace Scene.IsRegular

open Binding

variable {σ : Type} [DataSource σ] {s : Scene Rat σ} {v : Viewport Rat} {rowCount : Nat}
  (h : s.IsRegular v rowCount) {column column' : PlacedColumn Rat} {row row' : PlacedRow Rat}

include h

/-! ### What a painted cell holds -/

section Holding

theorem column_eq_of_slot_eq (hcolumn : column ∈ s.layout.columns)
    (hcolumn' : column' ∈ s.layout.columns) (hslot : column.slot = column'.slot) :
  column = column'
  := by
  rw [h.layout_eq] at hcolumn hcolumn'
  apply List.inj_on_of_nodup_map (Layout.nodup_slot_columns _ _ _ _) hcolumn hcolumn' hslot

theorem row_eq_of_place_eq (hrow : row ∈ s.layout.rows) (hrow' : row' ∈ s.layout.rows)
    (hplace : row.place = row'.place) :
  row = row'
  := by
  rw [h.layout_eq] at hrow hrow'
  apply List.inj_on_of_nodup_map (Layout.nodup_place_rows _ _ _ _) hrow hrow' hplace

/-- The columns that a cell in a shown column holds are those that it takes up. -/
theorem exists_of_holdsColumn (hcolumn : column ∈ s.layout.columns) {i : Nat}
    (hslot : column.slot = .shown i) (hheld : (ofPlaced s column row).HoldsColumn s column') :
  ∃ j, column'.slot = .shown j ∧ i ≤ j ∧ j < i + ((ofPlaced s column row).extent s).columns
  := by
  obtain rfl | ⟨j, hj, i', count, hitems, hle, hlt⟩ := hheld
  · exact ⟨i, hslot, Nat.le_refl i, Nat.lt_add_of_pos_right (h.extent_pos hcolumn _).1⟩
  · obtain ⟨hi', rfl⟩ := items?_columnRun hitems
    obtain rfl := Slot.shown.inj (hslot.symm.trans hi')
    exact ⟨j, hj, hle, hlt⟩

/-- The rows that a cell in a data row holds are those that it takes up. -/
theorem of_holdsRow (hcolumn : column ∈ s.layout.columns) (hband : row.band = .data)
    (hheld : (ofPlaced s column row).HoldsRow s row') :
  row'.band = .data ∧ row.row ≤ row'.row
    ∧ row'.row < row.row + ((ofPlaced s column row).extent s).rows
  := by
  obtain rfl | ⟨hband', i, count, hitems, hle, hlt⟩ := hheld
  · exact ⟨hband, Nat.le_refl _, Nat.lt_add_of_pos_right (h.extent_pos hcolumn _).2⟩
  · obtain ⟨-, rfl, rfl⟩ := items?_rowRun hitems
    exact ⟨hband', hle, hlt⟩

/-- A cell that is not merged holds nothing but itself. -/
theorem eq_of_holds (hcolumn : column ∈ s.layout.columns) (hrow : row ∈ s.layout.rows)
    (hcolumn' : column' ∈ s.layout.columns) (hrow' : row' ∈ s.layout.rows)
    (hmerge : ((ofPlaced s column row).span s).isMerge = false)
    (hheldColumn : (ofPlaced s column row).HoldsColumn s column')
    (hheldRow : (ofPlaced s column row).HoldsRow s row') :
  column' = column ∧ row' = row
  := by
  have hextent := extent_of_not_isMerge hmerge
  constructor
  · obtain heq | ⟨j, hj, i, count, hitems, hle, hlt⟩ := hheldColumn
    · exact heq
    · obtain ⟨hi, rfl⟩ := items?_columnRun hitems
      rw [hextent] at hlt
      obtain rfl : i = j := Nat.le_antisymm hle (Nat.le_of_lt_succ hlt)
      apply h.column_eq_of_slot_eq hcolumn' hcolumn (hj.trans hi.symm)
  · obtain heq | ⟨hband', i, count, hitems, hle, hlt⟩ := hheldRow
    · exact heq
    · obtain ⟨hband, rfl, rfl⟩ := items?_rowRun hitems
      rw [hextent] at hlt
      have hplace : row'.place = row.place := by
        rw [PlacedRow.place, PlacedRow.place, hband']
        exact Prod.ext hband.symm (Nat.le_antisymm (Nat.le_of_lt_succ hlt) hle)
      apply h.row_eq_of_place_eq hrow' hrow hplace

/-- What a painted cell holds takes its value from it. -/
theorem valueCell_of_holds (hb : s.Paints column row) (hcolumn' : column' ∈ s.layout.columns)
    (hrow' : row' ∈ s.layout.rows) (hheldColumn : (ofPlaced s column row).HoldsColumn s column')
    (hheldRow : (ofPlaced s column row).HoldsRow s row') :
  (ofPlaced s column' row').valueCell = (ofPlaced s column row).dataCell
  := by
  cases hmerge : ((ofPlaced s column row).span s).isMerge with
  | false =>
    obtain ⟨rfl, rfl⟩ :=
      h.eq_of_holds hb.column_mem hb.row_mem hcolumn' hrow' hmerge hheldColumn hheldRow
    have hfree := hb.isCovered_eq
    rw [isCovered, decide_eq_false_iff_not, not_not] at hfree
    apply hfree
  | true =>
    obtain ⟨m, hslot, hband, hy, hcell, hspan⟩ := h.exists_laidMerge_of_isMerge
      hb.column_mem hmerge
    obtain ⟨j, hj, hle, hlt⟩ := h.exists_of_holdsColumn hb.column_mem hslot hheldColumn
    obtain ⟨hband', hrowLe, hrowLt⟩ := h.of_holdsRow hb.column_mem hband hheldRow
    rw [extent_of_isMerge hmerge, ← hspan] at hlt hrowLt
    rw [hy] at hrowLe hrowLt
    rw [← hcell]
    apply Binding.valueCell_of_holds h.tidy h.span_eq
      (fun i hi => h.shown_of_slot hcolumn' hi)
    · intro hdata
      apply Layout.row_lt_of_mem_rows (h.layout_eq ▸ hrow') hdata
    · exact ⟨hband', j, hj, hle, hlt, hrowLe, hrowLt⟩

end Holding

/-! ### Painted cells of whole merges lie apart -/

section Apart

theorem pairwise_columns :
  s.layout.columns.Pairwise fun column column' => column.right ≤ column'.left
  := by
  rw [h.layout_eq]
  apply Layout.pairwise_columns h.widths.hasWidths

theorem pairwise_rows :
  s.layout.rows.Pairwise fun row row' => row.bottom ≤ row'.top
  := by
  rw [h.layout_eq]
  apply Layout.pairwise_rows (le_of_lt h.header_pos) (le_of_lt h.row_pos)

variable (hwhole : ∀ m : s.LaidMerge, m.IsOnScreen → m.IsWhole)

include hwhole

/-- The columns that a painted cell takes up are whole if merged cells are whole. -/
theorem isWhole_columnRun (hb : s.Paints column row) {i count : Nat}
    (hitems : ((ofPlaced s column row).columnRun s).items? = some (i, count)) :
  Axis.IsWhole s.layout.ShowsColumn i count
  := by
  obtain ⟨hslot, rfl⟩ := items?_columnRun hitems
  cases hmerge : ((ofPlaced s column row).span s).isMerge with
  | false =>
    rw [extent_of_not_isMerge hmerge]
    intro j hle hlt hoff
    obtain rfl : i = j := Nat.le_antisymm hle (Nat.le_of_lt_succ hlt)
    exact absurd ⟨column, hb.column_mem, hslot⟩ hoff
  | true =>
    obtain ⟨m, hm, hband, hy, -, hspan⟩ := h.exists_laidMerge_of_isMerge hb.column_mem hmerge
    obtain rfl := Slot.shown.inj (hslot.symm.trans hm)
    rw [extent_of_isMerge hmerge, ← hspan]
    apply (hwhole m ⟨⟨column, hb.column_mem, hm⟩, ⟨row, hb.row_mem, hband, hy⟩⟩).columns

/-- The rows that a painted cell takes up are whole if merged cells are whole. -/
theorem isWhole_rowRun (hb : s.Paints column row) {i count : Nat}
    (hitems : ((ofPlaced s column row).rowRun s).items? = some (i, count)) :
  Axis.IsWhole s.layout.ShowsRow i count
  := by
  obtain ⟨hband, rfl, rfl⟩ := items?_rowRun hitems
  cases hmerge : ((ofPlaced s column row).span s).isMerge with
  | false =>
    rw [extent_of_not_isMerge hmerge]
    intro j hle hlt hoff
    obtain rfl : row.row = j := Nat.le_antisymm hle (Nat.le_of_lt_succ hlt)
    exact absurd ⟨row, hb.row_mem, hband, rfl⟩ hoff
  | true =>
    obtain ⟨m, hm, -, hy, -, hspan⟩ := h.exists_laidMerge_of_isMerge hb.column_mem hmerge
    change Axis.IsWhole _ row.row _
    rw [extent_of_isMerge hmerge, ← hspan, hy]
    apply (hwhole m ⟨⟨column, hb.column_mem, hm⟩, ⟨row, hb.row_mem, hband, hy⟩⟩).rows

variable (hb : s.Paints column row) (hb' : s.Paints column' row')

include hb hb'

/-- Of two painted cells with a point in common one holds the column of the other. -/
theorem holdsColumn_of_contains {p : Point Rat}
    (hp : ((ofPlaced s column row).bounds s).contains p = true)
    (hp' : ((ofPlaced s column' row').bounds s).contains p = true) :
  (ofPlaced s column row).HoldsColumn s column'
    ∨ (ofPlaced s column' row').HoldsColumn s column
  := by
  have hx := (Rect.contains_iff.mp hp).1
  have hx' := (Rect.contains_iff.mp hp').1
  obtain ⟨hnone, hnone'⟩ | ⟨j, count, hitems, hholds⟩ | ⟨i, count, hitems, hholds⟩ :=
    (h.isPlaced_columnRun hb).holds_of_meet h.columnScreen (h.isPlaced_columnRun hb')
      (fun _ _ => h.isWhole_columnRun hwhole hb) (fun _ _ => h.isWhole_columnRun hwhole hb') hx hx'
  · -- neither column is a shown one
    rw [h.bounds_of_items? hb.column_mem (.inl hnone)] at hx
    rw [h.bounds_of_items? hb'.column_mem (.inl hnone')] at hx'
    left
    left
    apply Axis.eq_of_meet h.pairwise_columns hb'.column_mem hb.column_mem hx' hx
  · exact .inl (.inr ⟨j, (items?_columnRun hitems).1, hholds⟩)
  · exact .inr (.inr ⟨i, (items?_columnRun hitems).1, hholds⟩)

/-- Of two painted cells with a point in common one holds the row of the other. -/
theorem holdsRow_of_contains {p : Point Rat}
    (hp : ((ofPlaced s column row).bounds s).contains p = true)
    (hp' : ((ofPlaced s column' row').bounds s).contains p = true) :
  (ofPlaced s column row).HoldsRow s row' ∨ (ofPlaced s column' row').HoldsRow s row
  := by
  have hy := (Rect.contains_iff.mp hp).2
  have hy' := (Rect.contains_iff.mp hp').2
  obtain ⟨hnone, hnone'⟩ | ⟨j, count, hitems, hholds⟩ | ⟨i, count, hitems, hholds⟩ :=
    (h.isPlaced_rowRun hb).holds_of_meet h.rowScreen (h.isPlaced_rowRun hb')
      (fun _ _ => h.isWhole_rowRun hwhole hb) (fun _ _ => h.isWhole_rowRun hwhole hb') hy hy'
  · -- neither row is a data row
    rw [h.bounds_of_items? hb.column_mem (.inr hnone)] at hy
    rw [h.bounds_of_items? hb'.column_mem (.inr hnone')] at hy'
    left
    left
    apply Axis.eq_of_meet h.pairwise_rows hb'.row_mem hb.row_mem hy' hy
  · obtain ⟨hband, rfl, -⟩ := items?_rowRun hitems
    exact .inl (.inr ⟨hband, hholds⟩)
  · obtain ⟨hband, rfl, -⟩ := items?_rowRun hitems
    exact .inr (.inr ⟨hband, hholds⟩)

/-- Painted cells with a point in common are the same. -/
theorem eq_of_contains {p : Point Rat}
    (hp : ((ofPlaced s column row).bounds s).contains p = true)
    (hp' : ((ofPlaced s column' row').bounds s).contains p = true) :
  column = column' ∧ row = row'
  := by
  -- there is a cell of the screen that both hold
  have hshared : ∃ column'' ∈ s.layout.columns, ∃ row'' ∈ s.layout.rows,
      ((ofPlaced s column row).HoldsColumn s column'' ∧ (ofPlaced s column row).HoldsRow s row'')
        ∧ (ofPlaced s column' row').HoldsColumn s column''
        ∧ (ofPlaced s column' row').HoldsRow s row'' := by
    obtain hc | hc := h.holdsColumn_of_contains hwhole hb hb' hp hp'
    · obtain hr | hr := h.holdsRow_of_contains hwhole hb hb' hp hp'
      · exact ⟨column', hb'.column_mem, row', hb'.row_mem, ⟨hc, hr⟩, .inl rfl, .inl rfl⟩
      · exact ⟨column', hb'.column_mem, row, hb.row_mem, ⟨hc, .inl rfl⟩, .inl rfl, hr⟩
    · obtain hr | hr := h.holdsRow_of_contains hwhole hb hb' hp hp'
      · exact ⟨column, hb.column_mem, row', hb'.row_mem, ⟨.inl rfl, hr⟩, hc, .inl rfl⟩
      · exact ⟨column, hb.column_mem, row, hb.row_mem, ⟨.inl rfl, .inl rfl⟩, hc, hr⟩
  obtain ⟨column'', hcolumn, row'', hrow, ⟨hc, hr⟩, hc', hr'⟩ := hshared
  have hvalue := h.valueCell_of_holds hb hcolumn hrow hc hr
  rw [h.valueCell_of_holds hb' hcolumn hrow hc' hr'] at hvalue
  obtain ⟨hid, hy, hband⟩ := DataCell.mk.inj hvalue.symm
  constructor
  · have hcolumns := h.layout_eq ▸ hb.column_mem
    have hcolumns' := h.layout_eq ▸ hb'.column_mem
    apply List.inj_on_of_nodup_map (Layout.nodup_id_columns h.isWellFormed h.nodup _ _ _)
      hcolumns hcolumns' hid
  · apply h.row_eq_of_place_eq hb.row_mem hb'.row_mem (Prod.ext hband hy)

end Apart

/-! ### The list of painted cells -/

section Painted

omit h in
theorem mem_painted {b : Binding Rat} :
  b ∈ s.cells.filter (fun b => !b.isCovered)
    ↔ ∃ column row, s.Paints column row ∧ b = ofPlaced s column row
  := by
  rw [List.mem_filter, cells, List.mem_flatMap, Bool.not_eq_true']
  constructor
  · rintro ⟨⟨row, hrow, hb⟩, hfree⟩
    obtain ⟨column, hcolumn, rfl⟩ := List.mem_map.mp hb
    exact ⟨column, row, ⟨hcolumn, hrow, hfree⟩, rfl⟩
  · rintro ⟨column, row, ⟨hcolumn, hrow, hfree⟩, rfl⟩
    exact ⟨⟨row, hrow, List.mem_map_of_mem hcolumn⟩, hfree⟩

theorem nodup_cells :
  s.cells.Nodup
  := by
  have hcolumns : s.layout.columns.Nodup := by
    rw [h.layout_eq]
    apply (Layout.nodup_slot_columns _ _ _ _).of_map
  have hrows : s.layout.rows.Nodup := by
    rw [h.layout_eq]
    apply (Layout.nodup_place_rows _ _ _ _).of_map
  rw [cells]
  apply List.nodup_flatMap.mpr
  constructor
  · intro row _
    apply hcolumns.map
    intro column column' heq
    apply congrArg Binding.column heq
  · apply hrows.imp
    intro row row' hne b hb hb'
    obtain ⟨_, -, rfl⟩ := List.mem_map.mp hb
    obtain ⟨_, -, heq⟩ := List.mem_map.mp hb'
    apply hne (congrArg Binding.row heq).symm

/-- The rectangles of painted cells lie apart if no two of them have a point in common. -/
theorem pairwise_painted_iff :
  (s.painted.Pairwise fun c c' => c.bounds.Apart c'.bounds)
    ↔ ∀ column row column' row', s.Paints column row → s.Paints column' row' →
        ∀ p, ((ofPlaced s column row).bounds s).contains p = true →
          ((ofPlaced s column' row').bounds s).contains p = true → column = column' ∧ row = row'
  := by
  rw [painted, List.pairwise_map]
  constructor
  · intro hpairwise column row column' row' hb hb' p hp hp'
    have hsymm : Std.Symm fun b b' : Binding Rat => (s.paint b).bounds.Apart (s.paint b').bounds :=
      ⟨fun _ _ => Rect.Apart.symm⟩
    by_contra hne
    have hcells : ofPlaced s column row ≠ ofPlaced s column' row' := by
      intro heq
      apply hne ⟨congrArg Binding.column heq, congrArg Binding.row heq⟩
    apply hpairwise.forall (mem_painted.mpr ⟨_, _, hb, rfl⟩) (mem_painted.mpr ⟨_, _, hb', rfl⟩)
      hcells p ⟨hp, hp'⟩
  · intro hall
    apply (h.nodup_cells.filter _).pairwise_of_forall_ne
    intro b hmem b' hmem' hne p hp
    obtain ⟨column, row, hb, rfl⟩ := mem_painted.mp hmem
    obtain ⟨column', row', hb', rfl⟩ := mem_painted.mp hmem'
    obtain ⟨rfl, rfl⟩ := hall column row column' row' hb hb' p hp.1 hp.2
    exact hne rfl

/-- If merged cells are whole, painted cells lie apart. -/
theorem pairwise_painted (hwhole : ∀ m : s.LaidMerge, m.IsOnScreen → m.IsWhole) :
  s.painted.Pairwise fun c c' => c.bounds.Apart c'.bounds
  := h.pairwise_painted_iff.mpr fun _ _ _ _ hb hb' _ hp hp' => h.eq_of_contains hwhole hb hb' hp hp'

end Painted

/-! ### Whole merged cells -/

/-- A merged cell that lies among the fixed columns or among those that scroll, and so with its rows,
is whole, and every merged cell on a grid that is not scrolled. -/
theorem isWhole_of_same_part {m : s.LaidMerge} (hm : m.IsOnScreen)
    (hcolumns : m.index + m.span.columns ≤ min s.config.fixedColumns s.columns.shownCount
      ∨ min s.config.fixedColumns s.columns.shownCount ≤ m.index ∨ v.scrollLeft = 0)
    (hrows : m.y + m.span.rows ≤ min s.config.fixedRows rowCount
      ∨ min s.config.fixedRows rowCount ≤ m.y ∨ v.scrollTop = 0) :
  m.IsWhole
  := ⟨h.columnScreen.isWhole hm.1 hcolumns, h.rowScreen.isWhole hm.2 hrows⟩

/-! ### Merged cells that are not whole -/

section Torn

variable {m : s.LaidMerge} {j : Nat}

theorem followsMerges (hcolumn : column ∈ s.layout.columns) (hrow : row ∈ s.layout.rows) :
  (ofPlaced s column row).FollowsMerges s
  := by
  apply followsMerges_ofPlaced h.tidy h.span_eq (h.place_of_mem hcolumn)
  intro hband
  apply Layout.row_lt_of_mem_rows (h.layout_eq ▸ hrow) hband

/-- The cell at the top left of a merged cell takes up what is merged, and it is painted. -/
theorem paints_of_laidMerge (hcolumn : column ∈ s.layout.columns) (hrow : row ∈ s.layout.rows)
    (hslot : column.slot = .shown m.index) (hband : row.band = .data) (hy : row.row = m.y) :
  s.Paints column row
    ∧ ((ofPlaced s column row).columnRun s).items? = some (m.index, m.span.columns)
    ∧ ((ofPlaced s column row).rowRun s).items? = some (m.y, m.span.rows)
  := by
  have hid : column.id = .data m.x :=
    Option.some.inj ((h.shown_of_slot hcolumn hslot).symm.trans m.shown_eq)
  have hcell : m.cell = (ofPlaced s column row).dataCell := by
    rw [dataCell_ofPlaced, hid, hy, hband, LaidMerge.cell]
  have hspan : (ofPlaced s column row).span s = m.span := by
    rw [span_of_data hband hid, LaidMerge.span, ← hy]
    rfl
  have hextent : (ofPlaced s column row).extent s = m.span := by
    rw [extent_of_isMerge (hspan ▸ m.isMerge), hspan]
  have hcovers := h.covers m
  have hpos := hcovers.lt_columns
  have hpos' := hcovers.lt_rows
  refine ⟨⟨hcolumn, hrow, ?_⟩, ?_, ?_⟩
  · apply (h.followsMerges hcolumn hrow).isCovered_anchor m (by omega) (by omega) hcell
  · change column.slot.shownIndex?.map _ = _
    rw [hslot, hextent]
    rfl
  · change (if row.band = .data then some (row.row, ((ofPlaced s column row).extent s).rows)
      else none) = _
    rw [if_pos hband, hextent, hy]

/-- A painted cell lies under the beginning of each column and row that it takes up. -/
theorem contains_of_holds (hb : s.Paints column row) (hcolumn' : column' ∈ s.layout.columns)
    (hslot' : column'.slot = .shown j) (hrow' : row' ∈ s.layout.rows) (hband' : row'.band = .data)
    (hc : ((ofPlaced s column row).columnRun s).Holds j)
    (hr : ((ofPlaced s column row).rowRun s).Holds row'.row) :
  ((ofPlaced s column row).bounds s).contains ⟨column'.left, row'.top⟩ = true
  := by
  apply Rect.contains_iff.mpr
  constructor
  · rw [h.left_eq hcolumn' hslot']
    apply (h.isPlaced_columnRun hb).low_le_and_lt_high h.columnScreen ⟨column', hcolumn', hslot'⟩ hc
  · rw [h.top_eq hrow' hband']
    apply (h.isPlaced_rowRun hb).low_le_and_lt_high h.rowScreen ⟨row', hrow', hband', rfl⟩ hr

variable (hanchored : ∀ m : s.LaidMerge, (∃ b ∈ s.cells, m.Holds b) → m.IsOnScreen)

include hanchored

/-- If every merged cell on the screen begins there, every data cell of the screen is taken up by a
painted cell. -/
theorem exists_paints_holding (hcolumn' : column' ∈ s.layout.columns)
    (hslot' : column'.slot = .shown j) (hrow' : row' ∈ s.layout.rows)
    (hband' : row'.band = .data) :
  ∃ column row, s.Paints column row ∧ ((ofPlaced s column row).columnRun s).Holds j
    ∧ ((ofPlaced s column row).rowRun s).Holds row'.row
  := by
  cases hcovered : (ofPlaced s column' row').isCovered with
  | false =>
    obtain ⟨hcolumns, hrows⟩ := h.extent_pos hcolumn' row'
    refine ⟨column', row', ⟨hcolumn', hrow', hcovered⟩, ?_, ?_⟩
    · refine ⟨j, _, ?_, Nat.le_refl j, Nat.lt_add_of_pos_right hcolumns⟩
      change column'.slot.shownIndex?.map _ = _
      rw [hslot']
      rfl
    · exact ⟨row'.row, _, if_pos hband', Nat.le_refl _, Nat.lt_add_of_pos_right hrows⟩
  | true =>
    obtain ⟨m, hm, -⟩ := (h.followsMerges hcolumn' hrow').isCovered_iff.mp hcovered
    have hmem : ofPlaced s column' row' ∈ s.cells :=
      List.mem_flatMap.mpr ⟨row', hrow', List.mem_map_of_mem hcolumn'⟩
    obtain ⟨⟨column, hcolumn, hslot⟩, ⟨row, hrow, hband, hy⟩⟩ := hanchored m ⟨_, hmem, hm⟩
    obtain ⟨hb, hitems, hitems'⟩ := h.paints_of_laidMerge hcolumn hrow hslot hband hy
    obtain ⟨-, j', hj', hcovers⟩ := holds_ofPlaced_iff.mp hm
    obtain rfl := Slot.shown.inj (hslot'.symm.trans hj')
    exact ⟨column, row, hb, ⟨_, _, hitems, hcovers.index_le, hcovers.lt_columns⟩,
      ⟨_, _, hitems', hcovers.y_le, hcovers.lt_rows⟩⟩

/-- If painted cells lie apart, a painted cell under which a column and a row begin takes them up. -/
theorem holds_of_contains (hapart : s.painted.Pairwise fun c c' => c.bounds.Apart c'.bounds)
    (hb : s.Paints column row) (hcolumn' : column' ∈ s.layout.columns)
    (hslot' : column'.slot = .shown j) (hrow' : row' ∈ s.layout.rows) (hband' : row'.band = .data)
    (hp : ((ofPlaced s column row).bounds s).contains ⟨column'.left, row'.top⟩ = true) :
  ((ofPlaced s column row).columnRun s).Holds j
    ∧ ((ofPlaced s column row).rowRun s).Holds row'.row
  := by
  obtain ⟨column'', row'', hb'', hc, hr⟩ :=
    h.exists_paints_holding hanchored hcolumn' hslot' hrow' hband'
  have hp'' := h.contains_of_holds hb'' hcolumn' hslot' hrow' hband' hc hr
  obtain ⟨rfl, rfl⟩ := h.pairwise_painted_iff.mp hapart _ _ _ _ hb hb'' _ hp hp''
  exact ⟨hc, hr⟩

/-- If painted cells lie apart, merged cells whose top left is on the screen are whole. -/
theorem isWhole_of_pairwise (hapart : s.painted.Pairwise fun c c' => c.bounds.Apart c'.bounds)
    (hm : m.IsOnScreen) :
  m.IsWhole
  := by
  obtain ⟨⟨column, hcolumn, hslot⟩, ⟨row, hrow, hband, hy⟩⟩ := hm
  obtain ⟨hb, hitems, hitems'⟩ := h.paints_of_laidMerge hcolumn hrow hslot hband hy
  have hcovers := h.covers m
  have hown : ((ofPlaced s column row).columnRun s).Holds m.index :=
    ⟨_, _, hitems, hcovers.index_le, hcovers.lt_columns⟩
  have hown' : ((ofPlaced s column row).rowRun s).Holds row.row :=
    ⟨_, _, hitems', hy ▸ hcovers.y_le, hy ▸ hcovers.lt_rows⟩
  have hcorner := Rect.contains_iff.mp
    (h.contains_of_holds hb hcolumn hslot hrow hband hown hown')
  constructor
  case columns =>
    by_contra hnot
    obtain ⟨j, ⟨column', hcolumn', hslot'⟩, hholds, hreached⟩ :=
      (h.isPlaced_columnRun hb).exists_reached h.columnScreen hitems hnot
    rw [← h.left_eq hcolumn' hslot'] at hreached
    apply hholds
    apply (h.holds_of_contains hanchored hapart hb hcolumn' hslot' hrow hband _).1
    apply Rect.contains_iff.mpr
    exact ⟨hreached, hcorner.2⟩
  case rows =>
    by_contra hnot
    obtain ⟨_, ⟨row', hrow', hband', rfl⟩, hholds, hreached⟩ :=
      (h.isPlaced_rowRun hb).exists_reached h.rowScreen hitems' hnot
    rw [← h.top_eq hrow' hband'] at hreached
    apply hholds
    apply (h.holds_of_contains hanchored hapart hb hcolumn hslot hrow' hband' _).2
    apply Rect.contains_iff.mpr
    exact ⟨hcorner.1, hreached⟩

end Torn

end Scene.IsRegular

end DataGrid
