import DataGrid.Proofs.Layout.Offsets

/-!
# The two axes of the screen

Where columns are wide and rows are high, the shown columns and the data rows of a layout are
arranged along their axes (`columnScreen`, `rowScreen`): the fixed ones, and a run of those that
scroll.
-/

namespace DataGrid

namespace Layout

theorem mem_range_append_range'_iff {fixed first n i : Nat} :
  i ∈ List.range fixed ++ List.range' first n ↔ i < fixed ∨ first ≤ i ∧ i < first + n
  := by
  rw [List.mem_append, List.mem_range, List.mem_range'_1]

section Shows

variable {α : Type}

/-- The shown column at an index is on the screen. -/
def ShowsColumn (l : Layout α) (i : Nat) : Prop := ∃ column ∈ l.columns, column.slot = .shown i

/-- The data row at a place in the table is on the screen. -/
def ShowsRow (l : Layout α) (y : Nat) : Prop := ∃ row ∈ l.rows, row.band = .data ∧ row.row = y

theorem showsColumn_iff {l : Layout α} {i : Nat} :
  l.ShowsColumn i ↔ .shown i ∈ l.columns.map (·.slot)
  := List.mem_map.symm

theorem showsRow_iff {l : Layout α} {y : Nat} :
  l.ShowsRow y ↔ (.data, y) ∈ l.rows.map (·.place)
  := by
  simp only [ShowsRow, List.mem_map, PlacedRow.place, Prod.mk.injEq]

variable [Pixel α] (c : Columns α) (config : Config α) (v : Viewport α) (rowCount : Nat)

theorem exists_showsColumn_iff :
  let fixed := min config.fixedColumns c.shownCount
  let first := fixed + v.scrollLeft
  ∃ n ≤ c.shownCount - first, ∀ i,
    (compute c config v rowCount).ShowsColumn i ↔ i < fixed ∨ first ≤ i ∧ i < first + n
  := by
  intro fixed first
  obtain ⟨n, hn, hslots, -⟩ := exists_slots_columns c config v rowCount
  refine ⟨n, hn, fun i => ?_⟩
  rw [showsColumn_iff, hslots, ← mem_range_append_range'_iff]
  constructor
  · intro hslot
    obtain hsynthetic | hshown := List.mem_append.mp hslot
    · obtain ⟨p, hp, hslot⟩ := List.mem_map.mp hsynthetic
      have hnone := (synthetic_of_mem_syntheticPlaces hp).1
      rw [hslot] at hnone
      cases hnone
    · obtain ⟨j, hj, hslot⟩ := List.mem_map.mp hshown
      obtain rfl := Slot.shown.inj hslot
      apply hj
  · intro hi
    apply List.mem_append_right _ (List.mem_map_of_mem hi)

theorem exists_showsRow_iff :
  let fixed := min config.fixedRows rowCount
  let first := fixed + v.scrollTop
  ∃ n ≤ rowCount - first, ∀ y,
    (compute c config v rowCount).ShowsRow y ↔ y < fixed ∨ first ≤ y ∧ y < first + n
  := by
  intro fixed first
  obtain ⟨n, hn, hplaces, -⟩ := exists_places_rows c config v rowCount
  refine ⟨n, hn, fun y => ?_⟩
  rw [showsRow_iff, hplaces, ← mem_range_append_range'_iff]
  constructor
  · intro hplace
    obtain htop | hdata := List.mem_append.mp hplace
    · exact absurd rfl (band_ne_of_mem_topPlaces htop)
    · obtain ⟨j, hj, hplace⟩ := List.mem_map.mp hdata
      obtain rfl := (Prod.mk.inj hplace).2
      apply hj
  · intro hy
    apply List.mem_append_right _ (List.mem_map_of_mem hy)

end Shows

/-! ### Screens -/

section Screens

variable {c : Columns Rat} {config : Config Rat}

theorem columnScreen (h : c.HasPositiveWidths) (hc : c.IsWellFormed) (config : Config Rat)
    (v : Viewport Rat) (rowCount : Nat) :
  Axis.Screen c.widthBefore (min config.fixedColumns c.shownCount) v.scrollLeft
    (compute c config v rowCount).ShowsColumn
  := by
  obtain ⟨n, hn, hshows⟩ := exists_showsColumn_iff c config v rowCount
  apply Axis.Screen.of_iff rfl h.hasWidths.monotone_widthBefore _ hshows
  intro i last hlast hi
  apply (h.showsWidths hc).widthBefore_lt (Nat.lt_succ_self i)
  have hcount := (hshows last).mp hlast
  omega

theorem rowScreen (h : 0 < config.rowHeight) (c : Columns Rat) (v : Viewport Rat)
    (rowCount : Nat) :
  Axis.Screen (fun i => i * config.rowHeight) (min config.fixedRows rowCount) v.scrollTop
    (compute c config v rowCount).ShowsRow
  := by
  obtain ⟨n, -, hshows⟩ := exists_showsRow_iff c config v rowCount
  have hzero : ((0 : Nat) : Rat) * config.rowHeight = 0 := by
    rw [Nat.cast_zero, zero_mul]
  apply Axis.Screen.of_iff hzero (monotone_rowEdge (le_of_lt h)) _ hshows
  intro i last _ _
  rw [Nat.cast_add, Nat.cast_one]
  linarith

end Screens

end Layout

end DataGrid
