import Mathlib
import DataGrid.Proofs.Columns.Restore
import DataGrid.Proofs.Layout.Lookup
import DataGrid.Scene
import DataGrid.Table

/-!
# Four ways to count columns and rows

A column has a place in the table, an index among the shown columns, a slot on the grid and a place
on the screen, and the rows have as many.  A layout keeps them apart and together
(`Layout.Mirrors`), and a cell of the screen is the same one whether it is looked up by its place on
the grid or by its place in the table (`Scene.spaces_agree`).
-/

namespace DataGrid

variable {α σ : Type} [Pixel α]

/-- What stands on the screen stands there once, and where it belongs. -/
structure Layout.Mirrors (l : Layout α) (c : Columns α) (config : Config α) (v : Viewport α)
    (rowCount : Nat) : Prop where
  /-- The shown columns on the screen are all fixed ones and a run of those that scroll, from the one
  the grid is scrolled to up to the last one or the right edge of the viewport. -/
  columns :
    let fixed := min config.fixedColumns c.shownCount
    let first := fixed + v.scrollLeft
    ∃ n ≤ c.shownCount - first,
      l.shownColumns.map (·.slot) = (List.range fixed ++ List.range' first n).map Slot.shown
        ∧ (n < c.shownCount - first → v.width ≤ l.rightEdge)
  /-- The data rows on the screen are all fixed ones and a run of those that scroll, from the one the
  grid is scrolled to up to the last one or the lower edge of the viewport. -/
  rows :
    let fixed := min config.fixedRows rowCount
    let first := fixed + v.scrollTop
    ∃ n ≤ rowCount - first,
      l.dataRows.map (·.row) = List.range fixed ++ List.range' first n
        ∧ (n < rowCount - first → v.height ≤ l.bottomEdge)
  columnIndex_eq : ∀ (k : Nat) (column : PlacedColumn α), l.columns[k]? = some column →
    column.index = k
  rowIndex_eq : ∀ (k : Nat) (row : PlacedRow α), l.rows[k]? = some row → row.index = k
  /-- In the slot of an index stands the column that is shown at that index. -/
  id_eq : ∀ column ∈ l.columns, ∀ i, column.slot = .shown i → c.shown[i]? = some column.id
  nodup_slots : (l.columns.map (·.slot)).Nodup
  nodup_rows : (l.rows.map fun r => (r.band, r.row)).Nodup
  exists_fixedColumn : ∀ i < min config.fixedColumns c.shownCount,
    ∃ column ∈ l.columns, column.slot = .shown i
  exists_fixedRow : ∀ i < min config.fixedRows rowCount,
    ∃ row ∈ l.rows, row.band = .data ∧ row.row = i

namespace Layout

theorem slot_shownColumns (c : Columns α) (config : Config α) (v : Viewport α) (rowCount : Nat) :
  let l := compute c config v rowCount
  let fixed := min config.fixedColumns c.shownCount
  let first := fixed + v.scrollLeft
  ∃ n ≤ c.shownCount - first,
    l.shownColumns.map (·.slot) = (List.range fixed ++ List.range' first n).map Slot.shown
      ∧ (n < c.shownCount - first → v.width ≤ l.rightEdge)
  := by
  intro l fixed first
  obtain ⟨n, hn, hslots, -, hlimit⟩ := exists_slots_columns c config v rowCount
  refine ⟨n, hn, ?_, hlimit⟩
  have hfilter : l.shownColumns.map (·.slot)
      = (l.columns.map (·.slot)).filter fun slot => slot.shownIndex?.isSome := by
    rw [List.filter_map]
    rfl
  rw [hfilter, hslots, List.filter_append]
  have hsynthetic : ((syntheticPlaces config).map Prod.fst).filter
      (fun slot => slot.shownIndex?.isSome) = [] := by
    apply List.filter_eq_nil_iff.mpr
    intro slot hslot
    obtain ⟨p, hp, rfl⟩ := List.mem_map.mp hslot
    rw [(synthetic_of_mem_syntheticPlaces hp).1]
    simp
  have hshown : ((List.range fixed ++ List.range' first n).map Slot.shown).filter
      (fun slot => slot.shownIndex?.isSome)
        = (List.range fixed ++ List.range' first n).map Slot.shown := by
    apply List.filter_eq_self.mpr
    intro slot hslot
    obtain ⟨i, -, rfl⟩ := List.mem_map.mp hslot
    rfl
  rw [hsynthetic, hshown, List.nil_append]

theorem row_dataRows (c : Columns α) (config : Config α) (v : Viewport α) (rowCount : Nat) :
  let l := compute c config v rowCount
  let fixed := min config.fixedRows rowCount
  let first := fixed + v.scrollTop
  ∃ n ≤ rowCount - first,
    l.dataRows.map (·.row) = List.range fixed ++ List.range' first n
      ∧ (n < rowCount - first → v.height ≤ l.bottomEdge)
  := by
  intro l fixed first
  obtain ⟨n, hn, hplaces, hlimit⟩ := exists_places_rows c config v rowCount
  refine ⟨n, hn, ?_, hlimit⟩
  have hfilter : l.dataRows.map (·.row)
      = ((l.rows.map (·.place)).filter fun p => p.1 = .data).map Prod.snd := by
    rw [List.filter_map, List.map_map]
    rfl
  rw [hfilter, hplaces, List.filter_append]
  have htop : (topPlaces config).filter (fun p => p.1 = .data) = [] := by
    apply List.filter_eq_nil_iff.mpr
    intro p hp
    simp [band_ne_of_mem_topPlaces hp]
  have hdata : ((List.range fixed ++ List.range' first n).map (Band.data, ·)).filter
      (fun p => p.1 = .data) = (List.range fixed ++ List.range' first n).map (Band.data, ·) := by
    apply List.filter_eq_self.mpr
    intro p hp
    obtain ⟨i, -, rfl⟩ := List.mem_map.mp hp
    rfl
  rw [htop, hdata, List.nil_append, List.map_map]
  apply List.map_id

theorem exists_fixedColumn (c : Columns α) (config : Config α) (v : Viewport α) (rowCount : Nat)
    {i : Nat} (hi : i < min config.fixedColumns c.shownCount) :
  ∃ column ∈ (compute c config v rowCount).columns, column.slot = .shown i
  := by
  obtain ⟨n, -, hslots, -⟩ := exists_slots_columns c config v rowCount
  have hmem : Slot.shown i ∈ (compute c config v rowCount).columns.map (·.slot) := by
    rw [hslots]
    apply List.mem_append_right
    apply List.mem_map_of_mem
    apply List.mem_append_left _ (List.mem_range.mpr hi)
  apply List.mem_map.mp hmem

theorem exists_fixedRow (c : Columns α) (config : Config α) (v : Viewport α) (rowCount : Nat)
    {i : Nat} (hi : i < min config.fixedRows rowCount) :
  ∃ row ∈ (compute c config v rowCount).rows, row.band = .data ∧ row.row = i
  := by
  obtain ⟨n, -, hplaces, -⟩ := exists_places_rows c config v rowCount
  have hmem : (Band.data, i) ∈ (compute c config v rowCount).rows.map (·.place) := by
    rw [hplaces]
    apply List.mem_append_right
    apply List.mem_map_of_mem
    apply List.mem_append_left _ (List.mem_range.mpr hi)
  obtain ⟨row, hrow, hplace⟩ := List.mem_map.mp hmem
  exact ⟨row, hrow, Prod.mk.inj hplace⟩

/-- Whatever the settings and the scroll position are, the layout holds what belongs there. -/
theorem mirrors_compute (c : Columns α) (config : Config α) (v : Viewport α) (rowCount : Nat) :
  (compute c config v rowCount).Mirrors c config v rowCount
  := by
  constructor
  case columns => apply slot_shownColumns
  case rows => apply row_dataRows
  case columnIndex_eq =>
    intro k column
    apply index_eq_of_getElem? (numbered_columns c config v rowCount)
  case rowIndex_eq =>
    intro k row
    apply index_eq_of_getElem? (numbered_rows c config v rowCount)
  case id_eq =>
    intro column hcolumn i hi
    obtain ⟨hnone, -⟩ | ⟨j, hj, hid⟩ := place_of_mem_columns hcolumn
    · rw [hi] at hnone
      cases hnone
    · rw [hi] at hj
      obtain rfl := Slot.shown.inj hj
      apply hid
  case nodup_slots => apply nodup_slot_columns
  case nodup_rows => apply nodup_place_rows
  case exists_fixedColumn =>
    intro i
    apply exists_fixedColumn
  case exists_fixedRow =>
    intro i
    apply exists_fixedRow

end Layout

omit [Pixel α] in
/-- If no column is shown twice, the place of a column in the table and its index among the shown
columns lead to one another. -/
theorem Frame.shownIndex?_eq_some_iff {f : Frame α} (hnodup : f.columns.shown.Nodup) {d g : Nat} :
  f.shownIndex? d = some g ↔ f.dataIndex? g = some d
  := by
  rw [shownIndex?, Columns.shownIndex?, idxOf?_eq_some_iff_of_nodup hnodup, dataIndex?,
    Option.bind_eq_some_iff]
  simp

namespace Binding

variable [DataSource σ] {s : Scene α σ} {c : Columns α} {config : Config α} {v : Viewport α}
variable {rowCount : Nat} {column : PlacedColumn α} {row : PlacedRow α}

/-- A cell of the screen is found by its place on the grid. -/
theorem ofGrid?_of_mem (hs : s.layout = .compute c config v rowCount)
    (hcolumn : column ∈ s.layout.columns) (hrow : row ∈ s.layout.rows) :
  ofGrid? s column.slot row.index = some (ofPlaced s column row)
  := by
  rw [hs] at hcolumn hrow
  rw [ofGrid?, hs, Layout.bySlot?_of_mem hcolumn, Layout.getElem?_rows_of_mem hrow]
  rfl

/-- A cell of the screen is found by its place in the table if no column is shown twice. -/
theorem ofData?_of_mem (hc : c.IsWellFormed) (hnodup : c.shown.Nodup)
    (hs : s.layout = .compute c config v rowCount) (hcolumn : column ∈ s.layout.columns)
    (hrow : row ∈ s.layout.rows) :
  ofData? s column.id row.row row.band = some (ofPlaced s column row)
  := by
  rw [hs] at hcolumn hrow
  rw [ofData?, hs, Layout.byId?_of_mem hc hnodup hcolumn, Layout.byRow?_of_mem hrow]
  rfl

end Binding

/-- The spaces of coordinates agree if no column is shown twice.  What is on the screen stands there
once, a cell of the screen is the same one by its place on the grid and by its place in the table,
and places in the table and indexes of shown columns lead to one another. -/
theorem Scene.spaces_agree [DataSource σ] {c : Columns α} (hc : c.IsReachable)
    (hnodup : c.shown.Nodup) (config : Config α) (v : Viewport α) (rowCount : Nat) :
  let l := Layout.compute c config v rowCount
  l.Mirrors c config v rowCount
    ∧ (∀ s : Scene α σ, s.layout = l → ∀ column ∈ l.columns, ∀ row ∈ l.rows,
        Binding.ofGrid? s column.slot row.index = some (.ofPlaced s column row)
          ∧ Binding.ofData? s column.id row.row row.band = some (.ofPlaced s column row))
    ∧ ∀ d g : Nat, Frame.shownIndex? ⟨c, config, v, l⟩ d = some g
        ↔ Frame.dataIndex? ⟨c, config, v, l⟩ g = some d
  := by
  intro l
  refine ⟨Layout.mirrors_compute c config v rowCount, ?_, ?_⟩
  · intro s hs column hcolumn row hrow
    rw [← hs] at hcolumn hrow
    constructor
    · apply Binding.ofGrid?_of_mem hs hcolumn hrow
    · apply Binding.ofData?_of_mem hc.isWellFormed hnodup hs hcolumn hrow
  · intro d g
    apply Frame.shownIndex?_eq_some_iff (f := ⟨c, config, v, l⟩) hnodup

/-- The last of four columns was moved to the front and is fixed, and the grid is scrolled. -/
theorem Scene.spaces_agree_scrolled :
  let c : Columns Rat :=
    (Columns.ofSchema (ColumnSchema.ofNames ["A", "B", "C", "D"]) Config.default).apply
      (.move 3 1 0)
  let config : Config Rat := { Config.default with fixedColumns := 1, fixedRows := 2 }
  let v : Viewport Rat := ⟨1, 3, 260, 90⟩
  let l := Layout.compute c config v 9
  c.IsReachable ∧ c.shown.Nodup
    ∧ l.columns.map (·.place)
      = [(.rowHandle, .rowHandle), (.shown 0, .data 3), (.shown 2, .data 1), (.shown 3, .data 2)]
    ∧ l.rows.map (·.place)
      = [(.header, 0), (.data, 0), (.data, 1), (.data, 5), (.data, 6)]
    ∧ l.Mirrors c config v 9
    ∧ (∀ s : Scene Rat Table, s.layout = l → ∀ column ∈ l.columns, ∀ row ∈ l.rows,
        Binding.ofGrid? s column.slot row.index = some (.ofPlaced s column row)
          ∧ Binding.ofData? s column.id row.row row.band = some (.ofPlaced s column row))
    ∧ ∀ d g : Nat, Frame.shownIndex? ⟨c, config, v, l⟩ d = some g
        ↔ Frame.dataIndex? ⟨c, config, v, l⟩ g = some d
  := by
  intro c config v l
  have hreachable : c.IsReachable := .apply _ (.ofSchema _ _)
  have hshown : c.shown = [.data 3, .data 0, .data 1, .data 2] := by
    simp only [c]
    cbv
  have hnodup : c.shown.Nodup := by
    rw [hshown]
    decide
  have hplaces : l.columns.map (·.place) = [(.rowHandle, .rowHandle), (.shown 0, .data 3),
        (.shown 2, .data 1), (.shown 3, .data 2)]
      ∧ l.rows.map (·.place) = [(.header, 0), (.data, 0), (.data, 1), (.data, 5), (.data, 6)] := by
    simp only [l, c, config, v]
    cbv
  refine ⟨hreachable, hnodup, hplaces.1, hplaces.2, ?_⟩
  apply Scene.spaces_agree hreachable hnodup config v 9

end DataGrid
