import DataGrid.Proofs.Frame.Edges
import DataGrid.Proofs.Frame.Nearest

/-!
# Room for columns that scroll

When the fixed columns leave room on the screen, a column that scrolls is on it however far the
grid is scrolled (`Frame.HasRoom`), and so every position that can be compared with others has a
nearest edge between columns (`Frame.HasRoom.exists_nearestColumn?`).  This does not take exact
lengths: the few laws it rests on hold in single precision too (`LawfulPixel`).
-/

namespace DataGrid

variable {α : Type} [Pixel α]

/-! ### Extents side by side -/

namespace Frame

/-- Extents stand side by side from a point on, and their edges can be compared. -/
def Extent.Abut (start : α) : List (Extent α) → Prop
  | [] => True
  | e :: rest => e.low = start ∧ Pixel.Comparable e.high ∧ Abut e.high rest

section Abut

variable [LawfulPixel α] {start x : α} {extents : List (Extent α)}

/-- A position that is not behind all extents is in one of them. -/
theorem Extent.Abut.exists_nearestAmong? (hx : Pixel.Comparable x) (h : Extent.Abut start extents)
    (hstart : start ≤ x) {last : Extent α} (hlast : extents.getLast? = some last)
    (hend : ¬ last.high ≤ x) :
  ∃ i, nearestAmong? x extents = some i
  := by
  induction extents generalizing start with
  | nil => cases hlast
  | cons e rest ih =>
    obtain ⟨rfl, hhigh, hrest⟩ := h
    rw [nearestAmong?.eq_def]
    dsimp only
    obtain hinside | hbehind := LawfulPixel.lt_or_le hx hhigh
    · rw [if_pos ⟨hstart, hinside⟩]
      split
      · exact ⟨_, rfl⟩
      · split
        · exact ⟨_, rfl⟩
        · exact ⟨_, rfl⟩
    · cases rest with
      | nil =>
        obtain rfl := Option.some.inj hlast
        cases hend hbehind
      | cons next rest =>
        split
        · split
          · exact ⟨_, rfl⟩
          · exact ⟨_, rfl⟩
        · apply ih hrest hbehind
          rw [← hlast]
          rfl

theorem Extent.Abut.exists_nearestEdge? (hx : Pixel.Comparable x) (h : Extent.Abut start extents)
    (hstart : Pixel.Comparable start) (hne : extents ≠ []) :
  ∃ i, nearestEdge? x extents = some i
  := by
  obtain ⟨first, rest, rfl⟩ := List.exists_cons_of_ne_nil hne
  obtain ⟨last, hlast⟩ := Option.ne_none_iff_exists'.mp (mt List.getLast?_eq_none_iff.mp hne)
  rw [nearestEdge?, hlast, List.head?_cons]
  dsimp only
  split
  · exact ⟨_, rfl⟩
  case isFalse hfirst =>
    split
    · exact ⟨_, rfl⟩
    case isFalse hend =>
      rw [h.1] at hfirst
      have hle := (LawfulPixel.lt_or_le hx hstart).resolve_left hfirst
      apply h.exists_nearestAmong? hx hle hlast hend

/-- Columns that are placed one after the other stand side by side. -/
theorem Extent.abut_placeColumns (limit : α) {plans : List (ColumnPlan α)}
    (hwidths : ∀ p ∈ plans, Pixel.zero ≤ p.width) (index : Nat) (hx : Pixel.zero ≤ x) :
  Extent.Abut x ((Layout.placeColumns limit index x plans).map Extent.ofColumn)
  := by
  induction plans generalizing index x with
  | nil => trivial
  | cons p rest ih =>
    have hright : Pixel.zero ≤ x + p.width :=
      LawfulPixel.zero_le_add hx (hwidths p List.mem_cons_self)
    rw [Layout.placeColumns]
    split
    · trivial
    · refine ⟨rfl, (LawfulPixel.comparable_of_le hright).2, ?_⟩
      apply ih (fun q hq => hwidths q (List.mem_cons_of_mem p hq)) _ hright

end Abut

end Frame

/-! ### Widths -/

namespace Columns

variable [LawfulPixel α] {c : Columns α}

theorem HasLengths.zero_le_leadingWidth (h : c.HasLengths) (config : Config α) :
  Pixel.zero ≤ leadingWidth c config
  := by
  have hzero : (Pixel.zero : α) ≤ Pixel.zero := LawfulPixel.zero_le_zero
  have hhandle : (Pixel.zero : α) ≤ Pixel.zero + c.handle.width :=
    LawfulPixel.zero_le_add hzero (h .rowHandle _ rfl)
  have htree : Pixel.zero ≤ c.tree.width := h .tree _ rfl
  rw [leadingWidth]
  cases config.showTree with
  | false =>
    cases config.showRowHandle with
    | false => exact hzero
    | true => exact hhandle
  | true =>
    cases config.showRowHandle with
    | false => exact LawfulPixel.zero_le_add hzero htree
    | true => exact LawfulPixel.zero_le_add hhandle htree

end Columns

/-! ### Columns that scroll -/

/-- Of columns that scroll some are placed, unless there are none or they would begin at the limit or
beyond it. -/
theorem Layout.placeColumns_ne_nil_iff {limit x : α} {index : Nat} {plans : List (ColumnPlan α)}
    (hscrolls : ∀ p ∈ plans, p.scrolls = true) :
  placeColumns limit index x plans ≠ [] ↔ plans ≠ [] ∧ ¬ limit ≤ x
  := by
  cases plans with
  | nil => simp [placeColumns]
  | cons p rest => simp [placeColumns, hscrolls p List.mem_cons_self]

namespace Frame

/-- The shown columns on the screen are the fixed ones and those that scroll. -/
theorem HasPlacedColumns.shownColumns_eq {f : Frame α} (h : f.HasPlacedColumns) :
  f.layout.shownColumns
    = Layout.fixedPart f.columns f.config f.viewport
      ++ Layout.scrollingPart f.columns f.config f.viewport
  := by
  rw [← Layout.shownColumns_eq_parts f.columns f.config f.viewport 0, Layout.shownColumns,
    h.columns_eq]
  rfl

/-- The columns are placed and none has a negative width, some of them scroll, and the first of
these would be on the screen: it begins in front of the right edge of the viewport. -/
structure HasRoom (f : Frame α) : Prop extends f.HasPlacedColumns where
  hasLengths : f.columns.HasLengths
  fixed_lt : f.fixedColumns < f.columns.shownCount
  not_le : ¬ f.viewport.width
    ≤ Layout.rightEdgeFrom (leadingWidth f.columns f.config)
        (Layout.fixedPart f.columns f.config f.viewport)

theorem hasRoom_silent_iff {f : Frame α} :
  f.silent.HasRoom ↔ f.HasRoom
  := by
  constructor
  · intro h
    exact ⟨hasPlacedColumns_silent_iff.mp h.toHasPlacedColumns, h.hasLengths, h.fixed_lt, h.not_le⟩
  · intro h
    exact ⟨hasPlacedColumns_silent_iff.mpr h.toHasPlacedColumns, h.hasLengths, h.fixed_lt, h.not_le⟩

/-- How far the grid is scrolled does not count. -/
theorem HasRoom.scrolled {f f' : Frame α} (h : f.HasRoom) (hplaced : f'.HasPlacedColumns)
    (hcolumns : f'.columns = f.columns) (hconfig : f'.config = f.config)
    (hwidth : f'.viewport.width = f.viewport.width) :
  f'.HasRoom
  := by
  constructor
  case toHasPlacedColumns => apply hplaced
  case hasLengths =>
    rw [hcolumns]
    apply h.hasLengths
  case fixed_lt =>
    rw [fixedColumns, hcolumns, hconfig]
    apply h.fixed_lt
  case not_le =>
    rw [hcolumns, hconfig, Layout.fixedPart, hwidth]
    apply h.not_le

/-- There is room if a column on the screen scrolls. -/
theorem hasRoom_of_mem {f : Frame α} (hplaced : f.HasPlacedColumns)
    (hwidths : f.columns.HasLengths) {column : PlacedColumn α}
    (hcolumn : column ∈ f.layout.columns) {i : Nat} (hslot : column.slot = .shown i)
    (hfixed : f.fixedColumns ≤ i) :
  f.HasRoom
  := by
  have hlt : i < f.columns.shownCount := hplaced.shownIndex_lt hcolumn (by rw [hslot]; rfl)
  refine ⟨hplaced, hwidths, Nat.lt_of_le_of_lt hfixed hlt, ?_⟩
  have hparts := Layout.mem_shownColumns hcolumn hslot
  rw [hplaced.shownColumns_eq] at hparts
  obtain hstands | hscrolls := List.mem_append.mp hparts
  · have hmem := List.mem_map_of_mem (f := PlacedColumn.slot) hstands
    rw [Layout.slot_fixedPart, hslot] at hmem
    obtain ⟨j, hj, heq⟩ := List.mem_map.mp hmem
    obtain rfl := Slot.shown.inj heq
    cases Nat.not_lt_of_le hfixed (List.mem_range.mp hj)
  · apply ((Layout.placeColumns_ne_nil_iff fun p hp => Layout.scrolls_of_mem_shownPlans hp).mp
      (List.ne_nil_of_mem hscrolls)).2

namespace HasRoom

variable {f : Frame α}

/-- However far the grid is scrolled, a column that scrolls is left. -/
theorem first_lt (h : f.HasRoom) :
  f.fixedColumns + f.viewport.scrollLeft < f.columns.shownCount
  := by
  have hleft := h.left_le
  have hcolumns : f.columns.shownColumns.length ≤ f.columns.shownCount :=
    List.length_filterMap_le _ _
  have hfixed := h.fixed_lt
  rw [ScrollLimits.computeLeft] at hleft
  simp only [List.length_drop, List.length_map] at hleft
  rw [fixedColumns] at *
  omega

/-- However far the grid is scrolled, a shown column is on the screen. -/
theorem columnExtents_ne_nil (h : f.HasRoom) :
  f.columnExtents ≠ []
  := by
  have hfirst := h.first_lt
  have hscrolling : Layout.scrollingPart f.columns f.config f.viewport ≠ [] := by
    apply (Layout.placeColumns_ne_nil_iff fun p hp => Layout.scrolls_of_mem_shownPlans hp).mpr
    refine ⟨?_, h.not_le⟩
    rw [Layout.shownPlans, Ne, List.map_eq_nil_iff, List.zipIdx_eq_nil_iff, List.drop_eq_nil_iff]
    apply Nat.not_le_of_lt hfirst
  rw [columnExtents_eq, h.shownColumns_eq, Ne, List.map_eq_nil_iff, List.append_eq_nil_iff]
  apply not_and_of_not_right _ hscrolling

variable [LawfulPixel α]

/-- Every position that can be compared has a nearest edge between shown columns. -/
theorem exists_nearestColumn? (h : f.HasRoom) {x : α} (hx : Pixel.Comparable x) :
  ∃ i, f.nearestColumn? x = some i
  := by
  have hleading : Pixel.zero ≤ leadingWidth f.columns f.config :=
    h.hasLengths.zero_le_leadingWidth f.config
  apply Extent.Abut.exists_nearestEdge? hx _ (LawfulPixel.comparable_of_le hleading).2
    h.columnExtents_ne_nil
  rw [columnExtents_eq, h.shownColumns_eq, Layout.fixedPart_append_scrollingPart]
  apply Extent.abut_placeColumns _ _ _ hleading
  intro p hp
  obtain hp | hp := List.mem_append.mp hp
  · apply h.hasLengths.zero_le_of_mem_shownPlans hp
  · apply h.hasLengths.zero_le_of_mem_shownPlans hp

end HasRoom

end Frame

end DataGrid
