import DataGrid.Proofs.Layout.Lookup
import DataGrid.Proofs.Model.Coherence

/-!
# Edges between shown columns

In a frame whose columns are placed, every column on the screen is one of the shown ones, and the
edge nearest to a position is named by the index of a shown column or by the index after the last
one.  At least as many columns are shown as are fixed or scrolled out.
-/

namespace DataGrid

variable {α : Type} [Pixel α]

namespace Layout

theorem shownIndex_bounds_of_mem_shownPlans {c : Columns α} {scrolls : Bool} {first i : Nat}
    {ids : List ColumnId} {p : ColumnPlan α} (h : p ∈ shownPlans c scrolls first ids)
    (hp : p.slot.shownIndex? = some i) :
  first ≤ i ∧ i < first + ids.length
  := by
  obtain ⟨⟨id, j⟩, hj, rfl⟩ := List.mem_map.mp h
  obtain rfl := Option.some.inj hp
  apply And.intro (List.le_snd_of_mem_zipIdx hj) (List.snd_lt_add_of_mem_zipIdx hj)

theorem shownIndex_lt_of_mem_columnPlans {c : Columns α} {config : Config α} {v : Viewport α}
    {i : Nat} {p : ColumnPlan α} (h : p ∈ columnPlans c config v)
    (hp : p.slot.shownIndex? = some i) :
  i < c.shownCount
  := by
  rw [columnPlans] at h
  obtain h | hscrolling := List.mem_append.mp h
  · obtain hsynthetic | hfixed := List.mem_append.mp h
    · rw [not_shown_of_mem_syntheticPlans hsynthetic] at hp
      cases hp
    · obtain ⟨-, hlt⟩ := shownIndex_bounds_of_mem_shownPlans hfixed hp
      rw [List.length_take] at hlt
      rw [Columns.shownCount]
      omega
  · obtain ⟨hle, hlt⟩ := shownIndex_bounds_of_mem_shownPlans hscrolling hp
    rw [List.length_drop] at hlt
    rw [Columns.shownCount] at *
    omega

/-- What is found by its edge is there. -/
theorem mem_of_lastAtOrBefore? {β : Type} {items : List β} {edge : β → α} {x : α} {item : β}
    (h : lastAtOrBefore? items edge x = some item) :
  item ∈ items
  := by
  rw [lastAtOrBefore?] at h
  split at h
  · cases h
  · apply List.mem_of_getElem? h

/-- A column that is found on the screen is there. -/
theorem mem_of_columnAt? {l : Layout α} {x : α} {c : PlacedColumn α} (h : l.columnAt? x = some c) :
  c ∈ l.columns
  := mem_of_lastAtOrBefore? (Option.filter_eq_some_iff.mp h).1

/-- A row that is found on the screen is there. -/
theorem mem_of_rowAt? {l : Layout α} {y : α} {r : PlacedRow α} (h : l.rowAt? y = some r) :
  r ∈ l.rows
  := mem_of_lastAtOrBefore? (Option.filter_eq_some_iff.mp h).1

end Layout

namespace Frame

/-! ### The nearest edge -/

/-- The nearest edge is that of an item or the one after it. -/
theorem exists_of_nearestAmong? {x : α} {i : Nat} :
  ∀ {items : List (Extent α)}, nearestAmong? x items = some i →
    ∃ e ∈ items, i = e.index ∨ i = e.index + 1
  | [], h => by
    cases h
  | e :: rest, h => by
    rw [nearestAmong?.eq_def] at h
    dsimp only at h
    split at h
    · split at h
      · apply Exists.intro e ⟨List.mem_cons_self, Or.inl (Option.some.inj h).symm⟩
      · cases rest with
        | nil => apply Exists.intro e ⟨List.mem_cons_self, Or.inr (Option.some.inj h).symm⟩
        | cons next rest =>
          have hnext : next ∈ e :: next :: rest := List.mem_cons_of_mem e List.mem_cons_self
          apply Exists.intro next ⟨hnext, Or.inl (Option.some.inj h).symm⟩
    · obtain ⟨e', he', hi⟩ := exists_of_nearestAmong? h
      apply Exists.intro e' ⟨List.mem_cons_of_mem e he', hi⟩

theorem exists_of_nearestEdge? {x : α} {i : Nat} {items : List (Extent α)}
    (h : nearestEdge? x items = some i) :
  ∃ e ∈ items, i = e.index ∨ i = e.index + 1
  := by
  rw [nearestEdge?] at h
  split at h
  case h_2 => cases h
  case h_1 first last hfirst hlast =>
    split at h
    · apply Exists.intro first ⟨List.mem_of_head? hfirst, Or.inl (Option.some.inj h).symm⟩
    · split at h
      · apply Exists.intro last ⟨List.mem_of_getLast? hlast, Or.inl (Option.some.inj h).symm⟩
      · apply exists_of_nearestAmong? h

/-! ### Placed columns -/

section Placed

variable {f : Frame α} (h : f.HasPlacedColumns)

include h

/-- Every shown column on the screen has an index in the list of shown columns. -/
theorem HasPlacedColumns.shownIndex_lt {c : PlacedColumn α} {i : Nat}
    (hc : c ∈ f.layout.columns) (hi : c.slot.shownIndex? = some i) :
  i < f.columns.shownCount
  := by
  rw [h.columns_eq] at hc
  obtain ⟨p, hp, hslot⟩ := Layout.exists_plan_of_mem_placeColumns hc
  rw [← hslot] at hi
  apply Layout.shownIndex_lt_of_mem_columnPlans hp hi

theorem HasPlacedColumns.shownIndex_lt_of_cellAt? {p : Point α} {hit : Hit α} {i : Nat}
    (hhit : f.cellAt? p = some hit) (hi : hit.column.slot.shownIndex? = some i) :
  i < f.columns.shownCount
  := by
  obtain ⟨column, hcolumn, hhit⟩ := Option.bind_eq_some_iff.mp hhit
  obtain ⟨row, -, hhit⟩ := Option.bind_eq_some_iff.mp hhit
  obtain rfl := Option.some.inj hhit
  apply h.shownIndex_lt (Layout.mem_of_columnAt? hcolumn) hi

theorem HasPlacedColumns.nearestColumn?_le {x : α} {i : Nat} (hi : f.nearestColumn? x = some i) :
  i ≤ f.columns.shownCount
  := by
  obtain ⟨e, he, hedge⟩ := exists_of_nearestEdge? hi
  obtain ⟨c, hc, hextent⟩ := List.mem_filterMap.mp he
  obtain ⟨j, hj, rfl⟩ := Option.map_eq_some_iff.mp hextent
  have hlt := h.shownIndex_lt hc hj
  obtain rfl | rfl := hedge
  · apply Nat.le_of_lt hlt
  · apply hlt

/-- The fixed columns and those that are scrolled out are shown columns. -/
theorem HasPlacedColumns.first_le :
  f.fixedColumns + f.viewport.scrollLeft ≤ f.columns.shownCount
  := by
  have hleft := h.left_le
  have hcolumns : f.columns.shownColumns.length ≤ f.columns.shownCount :=
    List.length_filterMap_le _ _
  have hfixed : f.fixedColumns ≤ f.columns.shownCount := Nat.min_le_right _ _
  rw [ScrollLimits.computeLeft] at hleft
  simp only [List.length_drop, List.length_map] at hleft
  rw [fixedColumns] at *
  omega

end Placed

/-- A data cell that is found lies in a row of the table. -/
theorem IsCoherent.row_lt_of_cellAt? {f : Frame α} {rowCount : Nat} (h : f.IsCoherent rowCount)
    {p : Point α} {hit : Hit α} (hhit : f.cellAt? p = some hit) (hband : hit.row.band = .data) :
  hit.row.row < rowCount
  := by
  obtain ⟨column, -, hhit⟩ := Option.bind_eq_some_iff.mp hhit
  obtain ⟨row, hrow, hhit⟩ := Option.bind_eq_some_iff.mp hhit
  obtain rfl := Option.some.inj hhit
  have hmem := Layout.mem_of_rowAt? hrow
  rw [h.layout_eq] at hmem
  apply Layout.row_lt_of_mem_rows hmem hband

end Frame

end DataGrid
