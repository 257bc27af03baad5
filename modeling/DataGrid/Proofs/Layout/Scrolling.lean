import DataGrid.Proofs.Layout.Screens
import DataGrid.Proofs.Layout.Search
import DataGrid.Proofs.Model.Scrolling

/-!
# What scrolling does not move

The fixed columns and rows and those in front of them stay where they are when the grid is scrolled.
If the last column on the screen ends before the viewport does, all columns are on the screen but
those that are scrolled out, and scrolling on puts none further to the right; rows are alike.  So a
position is over the same column as before if it is in front of those that scroll
(`Layout.columnAt?_of_lt_fixed`), and over none, before and after, if it is behind the last one
(`Layout.columnAt?_behind`).
-/

namespace DataGrid

namespace Layout

/-! ### Columns -/

section Columns

variable {c : Columns Rat} {config : Config Rat} {v v' : Viewport Rat} {rowCount : Nat} {x : Rat}
  {column : PlacedColumn Rat}

/-- The columns do not depend on which rows the grid is scrolled to. -/
theorem columnAt?_of_scrollLeft_eq (hwidth : v'.width = v.width)
    (hleft : v'.scrollLeft = v.scrollLeft) :
  (compute c config v' rowCount).columnAt? x = (compute c config v rowCount).columnAt? x
  := by
  simp only [columnAt?, compute, columnPlans, hwidth, hleft]

/-- Columns that scroll begin behind the fixed ones. -/
theorem fixed_le_left_of_mem_scrollingPart (h : c.HasWidths)
    (hcolumn : column ∈ scrollingPart c config v) :
  leadingWidth c config + c.widthBefore (min config.fixedColumns c.shownCount) ≤ column.left
  := by
  obtain ⟨g, -, -, -, hleft, -⟩ := left_of_mem_scrollingPart hcolumn
  have hbefore := h.totalWidth_nonneg ((c.shown.drop (min config.fixedColumns c.shownCount
    + v.scrollLeft)).take (g - (min config.fixedColumns c.shownCount + v.scrollLeft)))
  rw [hleft, Columns.widthBefore]
  linarith

/-- The columns in front of those that scroll are the same ones, wherever the grid is scrolled to. -/
theorem mem_columns_of_left_lt (h : c.HasWidths) (hwidth : v'.width = v.width)
    (hcolumn : column ∈ (compute c config v rowCount).columns)
    (hleft : column.left
      < leadingWidth c config + c.widthBefore (min config.fixedColumns c.shownCount)) :
  column ∈ (compute c config v' rowCount).columns
  := by
  rw [columns_eq_parts] at hcolumn ⊢
  obtain hsynthetic | hshown := List.mem_append.mp hcolumn
  · rw [syntheticPart, ← hwidth] at hsynthetic
    exact List.mem_append_left _ hsynthetic
  · obtain hfixed | hscrolling := List.mem_append.mp hshown
    · rw [fixedPart, ← hwidth] at hfixed
      exact List.mem_append_right _ (List.mem_append_left _ hfixed)
    · exact absurd hleft (not_lt.mpr (fixed_le_left_of_mem_scrollingPart h hscrolling))

theorem columnAt?_of_lt_fixed (h : c.HasWidths) (hwidth : v'.width = v.width)
    (hx : x < leadingWidth c config + c.widthBefore (min config.fixedColumns c.shownCount)) :
  (compute c config v' rowCount).columnAt? x = (compute c config v rowCount).columnAt? x
  := by
  apply Option.ext
  intro column
  rw [columnAt?_eq_some_iff h, columnAt?_eq_some_iff h]
  constructor
  · rintro ⟨hcolumn, hleft, hright⟩
    exact ⟨mem_columns_of_left_lt h hwidth.symm hcolumn (lt_of_le_of_lt hleft hx), hleft, hright⟩
  · rintro ⟨hcolumn, hleft, hright⟩
    exact ⟨mem_columns_of_left_lt h hwidth hcolumn (lt_of_le_of_lt hleft hx), hleft, hright⟩

/-- If the last column on the screen ends before the viewport does, columns reach no further when the
grid is scrolled on. -/
theorem right_le_rightEdge_of_scrolled (h : c.HasWidths) (hwidth : v'.width = v.width)
    (hleft : v.scrollLeft ≤ v'.scrollLeft)
    (hedge : (compute c config v rowCount).rightEdge < v.width)
    (hcolumn : column ∈ (compute c config v' rowCount).columns) :
  column.right ≤ (compute c config v rowCount).rightEdge
  := by
  obtain ⟨n, hn, hslots, -, hlimit⟩ := exists_slots_columns c config v rowCount
  have hall : n = c.shownCount - (min config.fixedColumns c.shownCount + v.scrollLeft) := by
    by_contra hne
    exact absurd hedge (not_lt.mpr (hlimit (Nat.lt_of_le_of_ne hn hne)))
  have hparts := hcolumn
  rw [columns_eq_parts] at hparts
  obtain hsynthetic | hshown := List.mem_append.mp hparts
  · apply right_le_rightEdge h
    rw [syntheticPart, hwidth] at hsynthetic
    rw [columns_eq_parts]
    exact List.mem_append_left _ hsynthetic
  · obtain hfixed | hscrolling := List.mem_append.mp hshown
    · apply right_le_rightEdge h
      rw [fixedPart, hwidth] at hfixed
      rw [columns_eq_parts]
      exact List.mem_append_right _ (List.mem_append_left _ hfixed)
    · -- the column was on the screen before, at the same place or further to the right
      obtain ⟨g, hfirst, hg, hslot, -⟩ := left_of_mem_scrollingPart hscrolling
      have hon : (compute c config v rowCount).ShowsColumn g := by
        rw [showsColumn_iff, hslots]
        apply List.mem_append_right _ (List.mem_map_of_mem _)
        rw [mem_range_append_range'_iff]
        omega
      obtain ⟨before, hbefore, hslot'⟩ := hon
      obtain ⟨-, -, hleft', hwidth'⟩ := left_of_mem_columns hcolumn hslot
      obtain ⟨-, -, hleftBefore, hwidthBefore⟩ := left_of_mem_columns hbefore hslot'
      have hid : column.id = before.id := Option.some.inj
        ((getElem?_shown_of_slot_eq hcolumn hslot).symm.trans
          (getElem?_shown_of_slot_eq hbefore hslot'))
      have hanti := Axis.offset_anti h.monotone_widthBefore hleft hfirst
      have hright := right_le_rightEdge h hbefore
      rw [PlacedColumn.right] at hright ⊢
      rw [hwidth', hid, ← hwidthBefore]
      linarith

/-- A position between the last column and the edge of the viewport is over no column, and it is not
when the grid is scrolled on. -/
theorem columnAt?_behind (h : c.HasWidths) (hwidth : v'.width = v.width)
    (hleft : v.scrollLeft ≤ v'.scrollLeft) (hedge : (compute c config v rowCount).rightEdge ≤ x)
    (hx : x < v.width) :
  (compute c config v' rowCount).columnAt? x = (compute c config v rowCount).columnAt? x
  := by
  have hnone {v' : Viewport Rat} (hright : ∀ column ∈ (compute c config v' rowCount).columns,
      column.right ≤ (compute c config v rowCount).rightEdge) :
      (compute c config v' rowCount).columnAt? x = none := by
    apply Option.eq_none_iff_forall_ne_some.mpr
    intro column hcolumn
    obtain ⟨hmem, -, hlt⟩ := (columnAt?_eq_some_iff h).mp hcolumn
    linarith [hright column hmem]
  rw [hnone fun column => right_le_rightEdge h, hnone fun column =>
    right_le_rightEdge_of_scrolled h hwidth hleft (lt_of_le_of_lt hedge hx)]

end Columns

/-! ### Rows -/

section Rows

variable {c : Columns Rat} {config : Config Rat} {v v' : Viewport Rat} {rowCount : Nat} {y : Rat}
  {row : PlacedRow Rat}

/-- The rows do not depend on which columns the grid is scrolled to. -/
theorem rowAt?_of_scrollTop_eq (hheight : v'.height = v.height)
    (htop : v'.scrollTop = v.scrollTop) :
  (compute c config v' rowCount).rowAt? y = (compute c config v rowCount).rowAt? y
  := by
  simp only [rowAt?, compute, computeRows, hheight, htop]

/-- Where the rows end that do not scroll. -/
def standingEdge (config : Config Rat) (rowCount : Nat) : Rat :=
  (topEdge config).y + (min config.fixedRows rowCount : Nat) * config.rowHeight

/-- A row is one of those that do not scroll, or it begins behind them. -/
theorem mem_standingRows_or_le (hheight : 0 ≤ config.rowHeight)
    (hrow : row ∈ (compute c config v rowCount).rows) :
  row ∈ standingRows config rowCount ∨ standingEdge config rowCount ≤ row.top
  := by
  obtain ⟨n, -, hrows⟩ := exists_rows_eq c config v rowCount
  rw [hrows, ← List.append_assoc, ← standingRows_eq] at hrow
  obtain hstanding | hscrolling := List.mem_append.mp hrow
  · exact .inl hstanding
  · right
    obtain ⟨j, -, -, htop, -, -⟩ := top_of_mem_placeRows hscrolling
    have hbefore : 0 ≤ (j : Rat) * config.rowHeight := mul_nonneg (Nat.cast_nonneg j) hheight
    rw [y_below_placeRows] at htop
    rw [htop, standingEdge]
    linarith

theorem mem_rows_of_mem_standingRows (hrow : row ∈ standingRows config rowCount) :
  row ∈ (compute c config v rowCount).rows
  := List.mem_append_left _ hrow

theorem rowAt?_of_lt_standingEdge (hheader : 0 ≤ config.headerRowHeight)
    (hheight : 0 ≤ config.rowHeight) (hy : y < standingEdge config rowCount) :
  (compute c config v' rowCount).rowAt? y = (compute c config v rowCount).rowAt? y
  := by
  have hmem {v v' : Viewport Rat} {row : PlacedRow Rat}
      (hrow : row ∈ (compute c config v rowCount).rows) (htop : row.top ≤ y) :
      row ∈ (compute c config v' rowCount).rows := by
    obtain hstanding | hle := mem_standingRows_or_le hheight hrow
    · apply mem_rows_of_mem_standingRows hstanding
    · linarith
  apply Option.ext
  intro row
  rw [rowAt?_eq_some_iff hheader hheight, rowAt?_eq_some_iff hheader hheight]
  constructor
  · rintro ⟨hrow, htop, hbottom⟩
    exact ⟨hmem hrow htop, htop, hbottom⟩
  · rintro ⟨hrow, htop, hbottom⟩
    exact ⟨hmem hrow htop, htop, hbottom⟩

/-- If the last row on the screen ends before the viewport does, rows reach no further when the grid
is scrolled on. -/
theorem bottom_le_bottomEdge_of_scrolled (hheader : 0 ≤ config.headerRowHeight)
    (hheight : 0 ≤ config.rowHeight) (htop : v.scrollTop ≤ v'.scrollTop)
    (hedge : (compute c config v rowCount).bottomEdge < v.height)
    (hrow : row ∈ (compute c config v' rowCount).rows) :
  row.bottom ≤ (compute c config v rowCount).bottomEdge
  := by
  obtain ⟨n, hn, hplaces, hlimit⟩ := exists_places_rows c config v rowCount
  have hall : n = rowCount - (min config.fixedRows rowCount + v.scrollTop) := by
    by_contra hne
    exact absurd hedge (not_lt.mpr (hlimit (Nat.lt_of_le_of_ne hn hne)))
  obtain ⟨n', -, hrows⟩ := exists_rows_eq c config v' rowCount
  have hparts := hrow
  rw [hrows, ← List.append_assoc, ← standingRows_eq] at hparts
  obtain hstanding | hscrolling := List.mem_append.mp hparts
  · apply bottom_le_bottomEdge hheader hheight (mem_rows_of_mem_standingRows hstanding)
  · -- the row was on the screen before, at the same place or further down
    obtain ⟨j, -, hplace, -, -, hband⟩ := top_of_mem_placeRows hscrolling
    have hlt := row_lt_of_mem_rows hrow hband
    have hon : (compute c config v rowCount).ShowsRow row.row := by
      rw [showsRow_iff, hplaces]
      apply List.mem_append_right _ (List.mem_map_of_mem _)
      rw [mem_range_append_range'_iff]
      omega
    obtain ⟨before, hbefore, hband', hplace'⟩ := hon
    obtain ⟨-, htop', hheight'⟩ := top_of_mem_rows hrow hband
    obtain ⟨-, htopBefore, hheightBefore⟩ := top_of_mem_rows hbefore hband'
    have hfirst : min config.fixedRows rowCount + v'.scrollTop ≤ row.row := by omega
    have hanti := Axis.offset_anti (monotone_rowEdge hheight) htop hfirst
    have hbottom := bottom_le_bottomEdge hheader hheight hbefore
    rw [PlacedRow.bottom] at hbottom ⊢
    rw [hplace'] at htopBefore
    linarith

/-- A position between the last row and the edge of the viewport is over no row, and it is not when
the grid is scrolled on. -/
theorem rowAt?_behind (hheader : 0 ≤ config.headerRowHeight) (hheight : 0 ≤ config.rowHeight)
    (htop : v.scrollTop ≤ v'.scrollTop) (hedge : (compute c config v rowCount).bottomEdge ≤ y)
    (hy : y < v.height) :
  (compute c config v' rowCount).rowAt? y = (compute c config v rowCount).rowAt? y
  := by
  have hnone {v' : Viewport Rat} (hbottom : ∀ row ∈ (compute c config v' rowCount).rows,
      row.bottom ≤ (compute c config v rowCount).bottomEdge) :
      (compute c config v' rowCount).rowAt? y = none := by
    apply Option.eq_none_iff_forall_ne_some.mpr
    intro row hrow
    obtain ⟨hmem, -, hlt⟩ := (rowAt?_eq_some_iff hheader hheight).mp hrow
    linarith [hbottom row hmem]
  rw [hnone fun row => bottom_le_bottomEdge hheader hheight, hnone fun row =>
    bottom_le_bottomEdge_of_scrolled hheader hheight htop (lt_of_le_of_lt hedge hy)]

end Rows

end Layout

namespace Frame

variable {f : Frame Rat} {rowCount : Nat}

theorem fixedEdge_eq (f : Frame Rat) :
  f.fixedEdge = leadingWidth f.columns f.config + f.columns.widthBefore f.fixedColumns
  := by
  rw [fixedEdge, widths, Pixel.sum_eq]
  rfl

/-- The rows that do not scroll end at the edge of those rows on the screen. -/
theorem fixedRowEdge_eq (hl : f.layout = .compute f.columns f.config f.viewport rowCount) :
  f.fixedRowEdge = Layout.standingEdge f.config rowCount
  := by
  obtain ⟨n, hn, hrows⟩ := Layout.exists_rows_eq f.columns f.config f.viewport rowCount
  rw [← List.append_assoc, ← Layout.standingRows_eq] at hrows
  have hstanding : ∀ row ∈ Layout.standingRows f.config rowCount,
      (decide (row.band ≠ .data) || decide (row.row < f.config.fixedRows)) = true := by
    intro row hrow
    rw [Layout.standingRows_eq] at hrow
    obtain htop | hfixed := List.mem_append.mp hrow
    · rw [decide_eq_true (Layout.band_of_mem_topRows htop), Bool.true_or]
    · obtain ⟨j, hj, hplace, -⟩ := Layout.top_of_mem_placeRows hfixed
      have hlt : row.row < f.config.fixedRows := by omega
      rw [decide_eq_true hlt, Bool.or_true]
  have hscrolling (start : Layout.RowCursor Rat) :
      (Layout.placeRows .data f.config.rowHeight n
        (min f.config.fixedRows rowCount + f.viewport.scrollTop) start).takeWhile
          (fun row => decide (row.band ≠ .data) || decide (row.row < f.config.fixedRows)) = [] := by
    cases n with
    | zero => rfl
    | succ n =>
      apply List.takeWhile_cons_of_neg
      have hlt : ¬ min f.config.fixedRows rowCount + f.viewport.scrollTop < f.config.fixedRows := by
        omega
      simp [hlt]
  rw [fixedRowEdge, hl, hrows, List.takeWhile_append_of_pos hstanding, hscrolling,
    List.append_nil]
  have hedge : ((Layout.standingRows f.config rowCount).getLast?.map (·.bottom)).getD Pixel.zero
      = (Layout.RowCursor.below ⟨0, Pixel.zero⟩ (Layout.standingRows f.config rowCount)).y := by
    rw [Layout.RowCursor.below]
    cases (Layout.standingRows f.config rowCount).getLast? <;> rfl
  rw [hedge, Layout.standingRows_eq, Layout.RowCursor.below_append, ← Layout.topEdge,
    Layout.y_below_placeRows]
  rfl

end Frame

end DataGrid
