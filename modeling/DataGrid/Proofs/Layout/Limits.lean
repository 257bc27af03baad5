import Mathlib
import DataGrid.Proofs.Layout.Screens

/-!
# Scroll limits

How far the grid can be scrolled is found from its end: by adding up the widths of the last columns
while they fit, and by dividing what is left of the height by the height of a row.  The layout adds
up from the left and from the top and stops at the edge of the viewport.  The two agree
(`Layout.isExactLimit_compute`): scrolled as far as possible the last column ends within the
viewport, or it is the only one on the screen of those that scroll, and with one column less
scrolled out it would end beyond the viewport.  Rows are alike.
-/

namespace DataGrid

/-! ### Limits along an axis -/

namespace Axis

/-- The items that scroll on a screen of a size, those that are scrolled out excepted: `ends i x`
says that item `i` is on the screen and ends at `x`. -/
structure Ends (edge : Nat → Rat) (fixed hidden count : Nat) (base size : Rat)
    (ends : Nat → Rat → Prop) : Prop where
  eq_of_ends : ∀ i x, fixed ≤ i → ends i x →
    fixed + hidden ≤ i ∧ i < count ∧ x = base + offset edge fixed hidden (i + 1)
  of_lt : ∀ i, fixed + hidden ≤ i → i < count → base + offset edge fixed hidden i < size →
    ∃ x, ends i x

/-- So many items can be scrolled out that the last ones fit in what is left for them, or that a
single one is left, and no more than needed. -/
structure IsLimit (edge : Nat → Rat) (fixed count : Nat) (room : Rat) (limit : Nat) : Prop where
  lt : fixed + limit < count
  fits : fixed + limit + 1 = count ∨ edge count - edge (fixed + limit) ≤ room
  needed : 0 < limit → room < edge count - edge (fixed + (limit - 1))

/-- A limit of scrolling does what it is for: with so many items scrolled out the last one is on the
screen and ends there, or it is the only one of those that scroll, and with one item less scrolled
out it ends beyond the screen, however much more would be shown. -/
structure IsExactLimit (ends : (hidden : Nat) → (size : Rat) → Nat → Rat → Prop) (fixed last : Nat)
    (size : Rat) (limit : Nat) : Prop where
  shown : ∃ x, ends limit size last x
    ∧ (x ≤ size ∨ ∀ i y, fixed ≤ i → ends limit size i y → i = last)
  beyond : 0 < limit →
    (∃ wider x, ends (limit - 1) wider last x)
      ∧ ∀ wider x, ends (limit - 1) wider last x → size < x

variable {edge : Nat → Rat} {fixed count limit : Nat} {base size room : Rat}

/-- If `n` of the last items fit and no more, then all others can be scrolled out, but one has to
stay. -/
theorem IsLimit.of_fitting (hedge : Monotone edge) (hfixed : fixed < count) {n : Nat}
    (hn : n ≤ count - fixed) (hfits : 0 < n → edge count - edge (count - n) ≤ room)
    (hmore : n < count - fixed → room < edge count - edge (count - (n + 1))) :
  IsLimit edge fixed count room (count - fixed - max n 1)
  := by
  constructor
  case lt => omega
  case fits =>
    obtain hone | hmany := Nat.lt_or_ge 1 n |>.symm
    · left
      omega
    · right
      have hfirst : fixed + (count - fixed - max n 1) = count - n := by omega
      rw [hfirst]
      apply hfits (by omega)
  case needed =>
    intro hpos
    apply lt_of_lt_of_le (hmore (by omega))
    have hskipped : edge (fixed + (count - fixed - max n 1 - 1)) ≤ edge (count - (n + 1)) := by
      apply hedge
      omega
    linarith

/-- With one more item in view the limit would be no limit, and with one less it would show nothing
new. -/
theorem IsLimit.isExactLimit (hlimit : IsLimit edge fixed count (size - (base + edge fixed)) limit)
    (hedge : edge (count - 1) < edge count) (hroom : base + edge fixed < size)
    {ends : (hidden : Nat) → (size : Rat) → Nat → Rat → Prop}
    (hends : ∀ hidden size, Ends edge fixed hidden count base size (ends hidden size)) :
  IsExactLimit ends fixed (count - 1) size limit
  := by
  have hlt := hlimit.lt
  have hcount : count - 1 + 1 = count := by omega
  constructor
  case shown =>
    have hfirst : fixed + limit ≤ count - 1 := by omega
    have hbegins : base + offset edge fixed limit (count - 1) < size := by
      rw [offset_of_le hfirst]
      obtain hone | hfits := hlimit.fits
      · have hlast : count - 1 = fixed + limit := by omega
        rw [hlast]
        linarith
      · linarith
    obtain ⟨x, hx⟩ := (hends limit size).of_lt _ hfirst (by omega) hbegins
    refine ⟨x, hx, ?_⟩
    obtain hone | hfits := hlimit.fits
    · right
      intro i y hi hy
      obtain ⟨hfirst, hlast, -⟩ := (hends limit size).eq_of_ends i y hi hy
      omega
    · left
      obtain ⟨-, -, rfl⟩ := (hends limit size).eq_of_ends _ x (by omega) hx
      rw [hcount, offset_of_le (Nat.le_of_lt hlt)]
      linarith
  case beyond =>
    intro hpos
    have hneeded := hlimit.needed hpos
    have hfirst : fixed + (limit - 1) ≤ count - 1 := by omega
    constructor
    · let wider := base + offset edge fixed (limit - 1) (count - 1) + 1
      have hbegins : base + offset edge fixed (limit - 1) (count - 1) < wider :=
        lt_add_one _
      exact ⟨wider, (hends (limit - 1) wider).of_lt _ hfirst (by omega) hbegins⟩
    · intro wider x hx
      obtain ⟨-, -, rfl⟩ := (hends (limit - 1) wider).eq_of_ends _ x (by omega) hx
      rw [hcount, offset_of_le (by omega)]
      linarith

end Axis

/-! ### Columns that fit -/

section Fitting

variable (available used : Rat) (ws : List Rat)

theorem fitting_le_length :
  fitting available used ws ≤ ws.length
  := by
  induction ws generalizing used with
  | nil => exact Nat.le_refl 0
  | cons w rest ih =>
    rw [fitting]
    split
    · exact Nat.zero_le _
    · exact Nat.succ_le_succ (ih (used + w))

/-- What fits is not longer than what is available. -/
theorem sum_take_fitting_le (hpos : 0 < fitting available used ws) :
  used + (ws.take (fitting available used ws)).sum ≤ available
  := by
  induction ws generalizing used with
  | nil => cases hpos
  | cons w rest ih =>
    rw [fitting] at hpos ⊢
    split at hpos
    case isTrue => cases hpos
    case isFalse hfits =>
      rw [if_neg hfits, List.take_succ_cons, List.sum_cons, ← add_assoc]
      obtain hnone | hsome := Nat.eq_zero_or_pos (fitting available (used + w) rest)
      · rw [hnone, List.take_zero, List.sum_nil, add_zero]
        exact not_lt.mp hfits
      · exact ih (used + w) hsome

/-- One more would be too much. -/
theorem lt_sum_take_fitting (hmore : fitting available used ws < ws.length) :
  available < used + (ws.take (fitting available used ws + 1)).sum
  := by
  induction ws generalizing used with
  | nil => cases hmore
  | cons w rest ih =>
    rw [fitting] at hmore ⊢
    split at hmore
    case isTrue hlong =>
      rw [if_pos hlong, List.take_succ_cons, List.take_zero, List.sum_singleton]
      exact hlong
    case isFalse hfits =>
      rw [if_neg hfits, List.take_succ_cons, List.sum_cons, ← add_assoc]
      exact ih (used + w) (Nat.lt_of_succ_lt_succ hmore)

end Fitting

namespace Pixel

theorem le_nonneg (a : Rat) :
  a ≤ nonneg a
  := by
  rw [nonneg]
  split
  case isTrue => exact le_refl a
  case isFalse hneg => exact not_lt.mp hneg

/-- A length that is not none fits in what is left only if something is left. -/
theorem le_of_le_nonneg {a b : Rat} (hb : 0 < b) (h : b ≤ nonneg a) :
  b ≤ a
  := by
  rw [nonneg] at h
  split at h
  case isTrue => exact h
  case isFalse => exact absurd hb (not_lt.mpr h)

theorem nonneg_nonneg (a : Rat) :
  0 ≤ nonneg a
  := by
  rw [nonneg]
  split
  case isTrue hpos => exact le_of_lt hpos
  case isFalse => exact le_refl _

theorem floorNat_eq (a : Rat) :
  floorNat a = ⌊a⌋₊
  := Int.floor_toNat a

/-- So many lengths fit in another one. -/
theorem floorNat_mul_le {a height : Rat} (ha : 0 ≤ a) (hheight : 0 < height) :
  (floorNat (a / height) : Rat) * height ≤ a
  := by
  rw [floorNat_eq, ← le_div_iff₀ hheight]
  exact Nat.floor_le (div_nonneg ha (le_of_lt hheight))

/-- One more would be too much. -/
theorem lt_floorNat_add_one_mul (a : Rat) {height : Rat} (hheight : 0 < height) :
  a < ((floorNat (a / height) : Rat) + 1) * height
  := by
  rw [floorNat_eq, ← div_lt_iff₀ hheight]
  exact Nat.lt_floor_add_one _

end Pixel

namespace Columns

variable {c : Columns Rat}

/-- Where all shown columns have a width, these are the widths of the shown columns. -/
theorem ShowsWidths.width_shownColumns (h : c.ShowsWidths) :
  c.shownColumns.map (·.width) = c.shown.map c.widthOf
  := by
  rw [shownColumns, List.map_filterMap, ← List.filterMap_eq_map]
  apply List.filterMap_congr
  intro id hid
  have hpos := h id hid
  rw [Function.comp_apply, widthOf] at *
  cases hd : c.column? id with
  | none =>
    rw [hd] at hpos
    exact absurd hpos (lt_irrefl _)
  | some d => rfl

/-- How wide the last columns are together. -/
theorem sum_take_reverse {fixed n : Nat} (hfixed : fixed ≤ c.shownCount)
    (hn : n ≤ c.shownCount - fixed) :
  ((((c.shown.map c.widthOf).drop fixed).reverse).take n).sum
    = c.widthBefore c.shownCount - c.widthBefore (c.shownCount - n)
  := by
  have hstart : fixed + (c.shown.length - fixed - n) = c.shown.length - n := by
    rw [shownCount] at hfixed hn
    omega
  have hlast := totalWidth_take_drop c (c.shownCount - n) n
  rw [Nat.sub_add_cancel (Nat.le_trans hn (Nat.sub_le _ _)), List.take_of_length_le] at hlast
  · rw [List.take_reverse, List.sum_reverse, List.drop_drop, List.length_drop, List.length_map,
      hstart, ← hlast, totalWidth, List.map_drop]
    rfl
  · rw [List.length_drop, shownCount]
    omega

end Columns

namespace ScrollLimits

/-- The columns can be scrolled until the last ones fit. -/
theorem isLimit_computeLeft {c : Columns Rat} (h : c.ShowsWidths) {config : Config Rat}
    (v : Viewport Rat) (hfixed : min config.fixedColumns c.shownCount < c.shownCount) :
  Axis.IsLimit c.widthBefore (min config.fixedColumns c.shownCount) c.shownCount
    (v.width - (leadingWidth c config + c.widthBefore (min config.fixedColumns c.shownCount)))
    (computeLeft c config v)
  := by
  let fixed := min config.fixedColumns c.shownCount
  let room := v.width - (leadingWidth c config + c.widthBefore fixed)
  let scrolling := (c.shown.map c.widthOf).drop fixed
  let n := fitting (Pixel.nonneg room) 0 scrolling.reverse
  have hlength : scrolling.reverse.length = c.shownCount - fixed := by
    rw [List.length_reverse, List.length_drop, List.length_map]
    rfl
  have hleft : computeLeft c config v = c.shownCount - fixed - max n 1 := by
    rw [← hlength, List.length_reverse, computeLeft, h.width_shownColumns, Pixel.sum_eq,
      ← List.map_take]
    rfl
  have hn : n ≤ c.shownCount - fixed := hlength ▸ fitting_le_length _ _ _
  rw [hleft]
  apply Axis.IsLimit.of_fitting h.monotone_widthBefore hfixed hn
  · intro hpos
    have hfits := sum_take_fitting_le _ _ _ hpos
    rw [zero_add, Columns.sum_take_reverse (Nat.le_of_lt hfixed) hn] at hfits
    have hwide : c.widthBefore (c.shownCount - n) < c.widthBefore c.shownCount :=
      h.widthBefore_lt (by omega) (Nat.le_refl _)
    apply Pixel.le_of_le_nonneg _ hfits
    linarith
  · intro hmore
    have hlong := lt_sum_take_fitting (Pixel.nonneg room) 0 scrolling.reverse (hlength ▸ hmore)
    rw [zero_add, Columns.sum_take_reverse (Nat.le_of_lt hfixed) hmore] at hlong
    exact lt_of_le_of_lt (Pixel.le_nonneg room) hlong

/-- The rows can be scrolled until the last ones fit. -/
theorem isLimit_computeTop {config : Config Rat} (hheight : 0 < config.rowHeight)
    (v : Viewport Rat) {rowCount : Nat} (hfixed : min config.fixedRows rowCount < rowCount) :
  Axis.IsLimit (fun i => i * config.rowHeight) (min config.fixedRows rowCount) rowCount
    (v.height - (config.headerHeight
      + (min config.fixedRows rowCount : Nat) * config.rowHeight))
    (computeTop config v rowCount)
  := by
  let fixed := min config.fixedRows rowCount
  let room := v.height - (config.headerHeight + fixed * config.rowHeight)
  let fit := Pixel.floorNat (Pixel.nonneg room / config.rowHeight)
  have htop :
      computeTop config v rowCount = rowCount - fixed - max (min fit (rowCount - fixed)) 1 := by
    have hrows : computeTop config v rowCount = rowCount - fixed - max fit 1 := by
      have hheight' : Pixel.zero < config.rowHeight := hheight
      rw [computeTop]
      rw [if_pos hheight']
      rfl
    rw [hrows]
    omega
  have hedge (n : Nat) (hn : n ≤ rowCount) :
      (rowCount : Rat) * config.rowHeight - ((rowCount - n : Nat) : Rat) * config.rowHeight
        = n * config.rowHeight := by
    rw [Nat.cast_sub hn]
    ring
  rw [htop]
  apply Axis.IsLimit.of_fitting (Layout.monotone_rowEdge (le_of_lt hheight)) hfixed
    (Nat.min_le_right _ _)
  · intro hpos
    have hfit : min fit (rowCount - fixed) ≤ fit := Nat.min_le_left _ _
    have hheights : ((min fit (rowCount - fixed) : Nat) : Rat) * config.rowHeight
        ≤ Pixel.nonneg room := by
      apply le_trans _ (Pixel.floorNat_mul_le (Pixel.nonneg_nonneg room) hheight)
      exact mul_le_mul_of_nonneg_right (Nat.cast_le.mpr hfit) (le_of_lt hheight)
    rw [hedge _ (by omega)]
    apply Pixel.le_of_le_nonneg _ hheights
    exact mul_pos (Nat.cast_pos.mpr hpos) hheight
  · intro hmore
    have hfit : min fit (rowCount - fixed) = fit := by omega
    rw [hedge _ (by omega), hfit, Nat.cast_add, Nat.cast_one]
    apply lt_of_le_of_lt (Pixel.le_nonneg room)
    exact Pixel.lt_floorNat_add_one_mul _ hheight

end ScrollLimits

/-! ### Exactness -/

namespace Layout

/-- The shown column at an index is on the screen and ends at a position. -/
def EndsColumn {α : Type} [Add α] (l : Layout α) (i : Nat) (x : α) : Prop :=
  ∃ column ∈ l.columns, column.slot = .shown i ∧ column.right = x

/-- The data row at a place in the table is on the screen and ends at a position. -/
def EndsRow {α : Type} [Add α] (l : Layout α) (i : Nat) (y : α) : Prop :=
  ∃ row ∈ l.rows, row.band = .data ∧ row.row = i ∧ row.bottom = y

variable {c : Columns Rat} {config : Config Rat}

theorem ends_columns (h : ∀ id ∈ c.shown, 0 ≤ c.widthOf id) (config : Config Rat)
    (v : Viewport Rat) (rowCount : Nat) :
  Axis.Ends c.widthBefore (min config.fixedColumns c.shownCount) v.scrollLeft c.shownCount
    (leadingWidth c config) v.width (compute c config v rowCount).EndsColumn
  := by
  constructor
  case eq_of_ends =>
    rintro i x hi ⟨column, hcolumn, hslot, rfl⟩
    obtain ⟨hstands, hcount, hleft, hwidth⟩ := left_of_mem_columns hcolumn hslot
    have hfirst := hstands.resolve_left (Nat.not_lt.mpr hi)
    refine ⟨hfirst, hcount, ?_⟩
    rw [PlacedColumn.right, hleft, hwidth, Axis.offset_of_le hfirst,
      Axis.offset_of_le (Nat.le_succ_of_le hfirst),
      Columns.widthBefore_succ (getElem?_shown_of_slot_eq hcolumn hslot)]
    ring
  case of_lt =>
    intro i hfirst hcount hbegins
    obtain ⟨column, hcolumn, hslot⟩ | hlimit :=
      exists_column_or_width_le h config v rowCount hfirst hcount
    · exact ⟨column.right, column, hcolumn, hslot, rfl⟩
    · exact absurd hbegins (not_lt.mpr hlimit)

theorem ends_rows (hheight : 0 ≤ config.rowHeight) (c : Columns Rat) (v : Viewport Rat)
    (rowCount : Nat) :
  Axis.Ends (fun i => i * config.rowHeight) (min config.fixedRows rowCount) v.scrollTop rowCount
    config.headerHeight v.height (compute c config v rowCount).EndsRow
  := by
  constructor
  case eq_of_ends =>
    rintro i y hi ⟨row, hrow, hband, rfl, rfl⟩
    obtain ⟨hstands, htop, hrowHeight⟩ := top_of_mem_rows hrow hband
    have hfirst := hstands.resolve_left (Nat.not_lt.mpr hi)
    refine ⟨hfirst, row_lt_of_mem_rows hrow hband, ?_⟩
    rw [PlacedRow.bottom, htop, hrowHeight, topEdge_y, Axis.offset_of_le hfirst,
      Axis.offset_of_le (Nat.le_succ_of_le hfirst), Nat.cast_succ]
    ring
  case of_lt =>
    intro i hfirst hcount hbegins
    obtain ⟨row, hrow, hband, hplace⟩ | hlimit :=
      exists_row_or_height_le hheight c v hfirst hcount
    · exact ⟨row.bottom, row, hrow, hband, hplace, rfl⟩
    · exact absurd hbegins (not_lt.mpr hlimit)

/-- Where every shown column has a width and rows have a height, the scroll limits are exact on each
axis on which something scrolls and the parts that do not scroll leave room in the viewport. -/
theorem isExactLimit_compute (hwidths : c.ShowsWidths) (hheight : 0 < config.rowHeight)
    (v : Viewport Rat) (rowCount : Nat) :
  let limits := ScrollLimits.compute c config v rowCount
  let fixedColumns := min config.fixedColumns c.shownCount
  let fixedRows := min config.fixedRows rowCount
  (fixedColumns < c.shownCount → leadingWidth c config + c.widthBefore fixedColumns < v.width →
      Axis.IsExactLimit
        (fun left width => (compute c config { v with scrollLeft := left, width := width }
          rowCount).EndsColumn)
        fixedColumns (c.shownCount - 1) v.width limits.left)
    ∧ (fixedRows < rowCount →
      config.headerHeight + (fixedRows : Nat) * config.rowHeight < v.height →
        Axis.IsExactLimit
          (fun top height => (compute c config { v with scrollTop := top, height := height }
            rowCount).EndsRow)
          fixedRows (rowCount - 1) v.height limits.top)
  := by
  intro limits fixedColumns fixedRows
  constructor
  · intro hscrolls hroom
    apply (ScrollLimits.isLimit_computeLeft hwidths v hscrolls).isExactLimit _ hroom
    · intro hidden size
      exact ends_columns (fun id hid => le_of_lt (hwidths id hid)) config
        { v with scrollLeft := hidden, width := size } rowCount
    · exact hwidths.widthBefore_lt (by omega) (Nat.le_refl _)
  · intro hscrolls hroom
    apply (ScrollLimits.isLimit_computeTop hheight v hscrolls).isExactLimit _ hroom
    · intro hidden size
      exact ends_rows (le_of_lt hheight) c { v with scrollTop := hidden, height := size } rowCount
    · apply mul_lt_mul_of_pos_right _ hheight
      exact Nat.cast_lt.mpr (by omega)

/-- Beside a fixed column one of three columns fits, and three of ten rows. -/
theorem isExactLimit_compute_small :
  let c : Columns Rat := .ofSchema (ColumnSchema.ofNames ["A", "B", "C", "D"]) Config.default
  let config : Config Rat := { Config.default with fixedColumns := 1 }
  let v : Viewport Rat := .ofSize 300 100
  ScrollLimits.compute c config v 10 = ⟨2, 7⟩
    ∧ Axis.IsExactLimit
        (fun left width => (compute c config { v with scrollLeft := left, width := width }
          10).EndsColumn)
        1 3 300 2
    ∧ Axis.IsExactLimit
        (fun top height => (compute c config { v with scrollTop := top, height := height }
          10).EndsRow)
        0 9 100 7
  := by
  intro c config v
  have hwidths : c.ShowsWidths := (Columns.hasPositiveWidths_ofSchema_default _).showsWidths
    (Columns.isWellFormed_ofSchema _ _)
  have hheight : 0 < config.rowHeight := by
    change (0 : Rat) < 20
    decide
  have hlimits : ScrollLimits.compute c config v 10 = ⟨2, 7⟩ := by
    simp only [c, config, v]
    cbv
  have hcount : c.shownCount = 4 := by
    simp only [c]
    cbv
  have hfixed : min config.fixedColumns c.shownCount = 1 := by
    rw [hcount]
    rfl
  have hcolumns : leadingWidth c config + c.widthBefore 1 = 140 := by
    simp only [c, config]
    cbv
  have hrows : config.headerHeight + (0 : Nat) * config.rowHeight = 24 := by
    simp only [config]
    cbv
  obtain ⟨hleft, htop⟩ := isExactLimit_compute hwidths hheight v 10
  rw [hlimits, hfixed, hcount, hcolumns] at hleft
  rw [hlimits] at htop
  refine ⟨hlimits, hleft (by decide) (by decide), htop (by decide) ?_⟩
  change config.headerHeight + (0 : Nat) * config.rowHeight < 100
  rw [hrows]
  decide

end Layout

end DataGrid
