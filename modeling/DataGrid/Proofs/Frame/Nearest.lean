import DataGrid.Proofs.Columns.Positions
import DataGrid.Proofs.Layout.Search
import DataGrid.Proofs.Scene.Spaces

/-!
# The nearest edge

Columns and rows can be put at the edges between those on the screen.  The edge in front of an item
goes by the index of the item, and the edge behind the last one by the next index.  So the edge
between the fixed columns and those that scroll goes by the first one that is not scrolled out.  A
position between the outer edges leads to the nearest of all edges, a position in front of them to
the first item and one behind them to the last item (`Frame.snapsToEdges_compute`).
-/

namespace DataGrid

/-- The size of an exact length is its absolute value. -/
theorem Pixel.abs_eq (a : Rat) :
  Pixel.abs a = |a|
  := by
  change Rat.abs a = |a|
  obtain hpos | hneg := le_total 0 a
  · rw [Rat.abs_of_nonneg hpos, abs_of_nonneg hpos]
  · rw [Rat.abs_of_nonpos hneg, abs_of_nonpos hneg]

/-! ### Along an axis -/

namespace Axis

theorem Follow.of_append {start : Rat} {intervals intervals' : List (Rat × Rat)}
    (h : Follow start (intervals ++ intervals')) :
  Follow (endOf start intervals) intervals'
  := by
  induction intervals generalizing start with
  | nil => apply h
  | cons e rest ih =>
    obtain ⟨-, -, hrest⟩ := h
    rw [endOf_cons]
    apply ih hrest

/-- The edge that goes by an index is nearest to a position: none is nearer, and of those that are
as near none lies further on. -/
def IsNearestEdge (edge : Nat → Rat → Prop) (x : Rat) (i : Nat) : Prop :=
  ∃ e, edge i e ∧ ∀ j e', edge j e' → |e - x| ≤ |e' - x| ∧ (|e' - x| = |e - x| → e' ≤ e)

/-- A search gives the edge that is nearest to a position between `low` and `high`, `first` in front
of them and `last` behind them, and always an edge that goes by an index up to `count`. -/
structure SnapsToEdges (edge : Nat → Rat → Prop) (low high : Rat) (first last count : Nat)
    (nearest? : Rat → Option Nat) : Prop where
  inside : ∀ x, low ≤ x → x < high → ∃ i, nearest? x = some i ∧ IsNearestEdge edge x i
  before : ∀ x, x < low → nearest? x = some first
  behind : ∀ x, high ≤ x → nearest? x = some last
  bounds : ∀ x i, nearest? x = some i → i ≤ count

section Between

variable {low high x e : Rat} (hlow : low ≤ x) (hhigh : x < high) (he : e ≤ low ∨ high ≤ e)

include hlow hhigh he

/-- Where the lower one of two edges is nearer, no edge that is not between them is as near. -/
theorem low_nearest (hnear : |low - x| < |high - x|) :
  |low - x| ≤ |e - x| ∧ (|e - x| = |low - x| → e ≤ low)
  := by
  rw [abs_of_nonpos (by linarith), abs_of_pos (by linarith)] at hnear
  rw [abs_of_nonpos (by linarith : low - x ≤ 0)]
  obtain he | he := he
  · rw [abs_of_nonpos (by linarith)]
    refine ⟨by linarith, fun _ => he⟩
  · rw [abs_of_pos (by linarith)]
    refine ⟨by linarith, fun hsame => ?_⟩
    linarith

/-- Where the lower one of two edges is not nearer, no edge that is not between them is nearer than
the higher one. -/
theorem high_nearest (hnear : ¬ |low - x| < |high - x|) :
  |high - x| ≤ |e - x| ∧ (|e - x| = |high - x| → e ≤ high)
  := by
  rw [abs_of_nonpos (by linarith), abs_of_pos (by linarith)] at hnear
  rw [abs_of_pos (by linarith : 0 < high - x)]
  obtain he | he := he
  · rw [abs_of_nonpos (by linarith)]
    refine ⟨by linarith, fun _ => by linarith⟩
  · rw [abs_of_pos (by linarith)]
    refine ⟨by linarith, fun hsame => ?_⟩
    linarith

end Between

end Axis

namespace Frame

/-! ### Extents -/

/-- In an extent that holds a position the nearer one of its two edges is the nearest edge. -/
theorem nearestAmong?_cons_of_holds {x : Rat} {e : Extent Rat} (rest : List (Extent Rat))
    (hlow : e.low ≤ x) (hhigh : x < e.high) :
  nearestAmong? x (e :: rest)
    = some (if |e.low - x| < |e.high - x| then e.index
        else (rest.head?.map (·.index)).getD (e.index + 1))
  := by
  rw [nearestAmong?.eq_def]
  dsimp only
  rw [if_pos ⟨hlow, hhigh⟩, Pixel.abs_eq, Pixel.abs_eq]
  split
  · rfl
  · cases rest <;> rfl

/-- An extent that ends in front of a position is passed over. -/
theorem nearestAmong?_cons_of_high_le {x : Rat} {e : Extent Rat} (rest : List (Extent Rat))
    (hhigh : e.high ≤ x) :
  nearestAmong? x (e :: rest) = nearestAmong? x rest
  := by
  conv => lhs; rw [nearestAmong?.eq_def]
  dsimp only
  rw [if_neg fun hin => not_le.mpr hin.2 hhigh]

namespace Extent

/-- An edge of extents: it goes by the index of the extent behind it, or by the next index behind
the last one. -/
def IsEdge (extents : List (Extent Rat)) (i : Nat) (x : Rat) : Prop :=
  (∃ e ∈ extents, e.index = i ∧ e.low = x)
    ∨ ∃ e, extents.getLast? = some e ∧ e.index + 1 = i ∧ e.high = x

/-- Extents follow one another from a point on. -/
def Follow (start : Rat) (extents : List (Extent Rat)) : Prop :=
  Axis.Follow start (extents.map fun e => (e.low, e.high))

section Edges

variable {extents front rest : List (Extent Rat)} {e : Extent Rat} {start x : Rat}

theorem endOf_eq (start : Rat) {last : Extent Rat} (hlast : extents.getLast? = some last) :
  Axis.endOf start (extents.map fun e => (e.low, e.high)) = last.high
  := by
  rw [Axis.endOf, List.getLast?_map, hlast]
  rfl

/-- A position between the outer edges is in one of the extents, and the nearest edge is looked for
there. -/
theorem Follow.exists_holding (h : Follow start extents) (hx : start ≤ x)
    (hend : x < Axis.endOf start (extents.map fun e => (e.low, e.high))) :
  ∃ front e rest, extents = front ++ e :: rest ∧ e.low ≤ x ∧ x < e.high
    ∧ nearestAmong? x extents = nearestAmong? x (e :: rest)
  := by
  induction extents generalizing start with
  | nil => cases not_lt.mpr hx hend
  | cons e rest ih =>
    obtain ⟨hstart, -, hrest⟩ := h
    rw [List.map_cons, Axis.endOf_cons] at hend
    obtain hinside | hbehind := lt_or_ge x e.high
    · exact ⟨[], e, rest, rfl, le_of_eq_of_le hstart hx, hinside, rfl⟩
    · obtain ⟨front, e', rest', rfl, hlow, hhigh, hsearch⟩ := ih hrest hbehind hend
      refine ⟨e :: front, e', rest', rfl, hlow, hhigh, ?_⟩
      rw [nearestAmong?_cons_of_high_le _ hbehind, hsearch]

/-- No edge lies between those of an extent. -/
theorem Follow.le_or_ge (h : Follow start (front ++ e :: rest)) {i : Nat}
    (hedge : IsEdge (front ++ e :: rest) i x) :
  x ≤ e.low ∨ e.high ≤ x
  := by
  rw [Follow, List.map_append] at h
  have hpairwise := List.pairwise_append.mp h.pairwise
  have hbehind := h.of_append
  obtain ⟨hstart, hle, hrest⟩ := hbehind
  obtain ⟨a, ha, -, rfl⟩ | ⟨a, ha, -, rfl⟩ := hedge
  · obtain hfront | hself := List.mem_append.mp ha
    · left
      have hmem : (a.low, a.high) ∈ front.map fun e => (e.low, e.high) :=
        List.mem_map_of_mem hfront
      have hlow := h.fst_le_snd (List.mem_append_left _ hmem)
      have hhigh := hpairwise.2.2 _ hmem _ List.mem_cons_self
      linarith
    · obtain rfl | hlater := List.mem_cons.mp hself
      · exact .inl (le_refl _)
      · exact .inr (hrest.start_le (List.mem_map_of_mem hlater))
  · right
    have hlast : (e :: rest).getLast? = some a := by
      rw [← ha, List.getLast?_append_of_ne_nil _ (List.cons_ne_nil e rest)]
    have hend := h.of_append.le_endOf List.mem_cons_self
    rw [endOf_eq _ hlast] at hend
    exact hend

/-- The edge behind an extent goes by the index of the next one, or by the next index behind the
last one. -/
theorem Follow.isEdge_high (h : Follow start (front ++ e :: rest)) :
  IsEdge (front ++ e :: rest) ((rest.head?.map (·.index)).getD (e.index + 1)) e.high
  := by
  rw [Follow, List.map_append] at h
  obtain ⟨-, -, hrest⟩ := h.of_append
  cases rest with
  | nil =>
    right
    exact ⟨e, List.getLast?_concat, rfl, rfl⟩
  | cons next rest =>
    left
    refine ⟨next, ?_, rfl, hrest.1⟩
    apply List.mem_append_right _ (List.mem_cons_of_mem e List.mem_cons_self)

/-- The nearest edge of the extent that holds a position is the nearest of all edges. -/
theorem Follow.isNearestEdge (h : Follow start (front ++ e :: rest)) (hlow : e.low ≤ x)
    (hhigh : x < e.high) :
  ∃ i, nearestAmong? x (e :: rest) = some i
    ∧ Axis.IsNearestEdge (IsEdge (front ++ e :: rest)) x i
  := by
  by_cases hnear : |e.low - x| < |e.high - x|
  · refine ⟨e.index, ?_, e.low, .inl ⟨e, ?_, rfl, rfl⟩, fun j e' hedge => ?_⟩
    · rw [nearestAmong?_cons_of_holds rest hlow hhigh, if_pos hnear]
    · apply List.mem_append_right _ List.mem_cons_self
    · apply Axis.low_nearest hlow hhigh (h.le_or_ge hedge) hnear
  · refine ⟨(rest.head?.map (·.index)).getD (e.index + 1), ?_, e.high, h.isEdge_high,
      fun j e' hedge => ?_⟩
    · rw [nearestAmong?_cons_of_holds rest hlow hhigh, if_neg hnear]
    · apply Axis.high_nearest hlow hhigh (h.le_or_ge hedge) hnear

/-- The nearest edge of extents that follow one another is found. -/
theorem Follow.snapsToEdges (h : Follow start extents) {first last : Extent Rat}
    (hfirst : extents.head? = some first) (hlast : extents.getLast? = some last) {count : Nat}
    (hcount : ∀ e ∈ extents, e.index < count) :
  Axis.SnapsToEdges (IsEdge extents) first.low last.high first.index last.index count
    fun x => nearestEdge? x extents
  := by
  have hstart : first.low = start := by
    obtain ⟨rest, rfl⟩ := List.head?_eq_some_iff.mp hfirst
    exact h.1
  have hle : first.low ≤ last.high := by
    rw [hstart, ← endOf_eq start hlast]
    apply Axis.Follow.start_le_endOf h
  have hsearch {x : Rat} : nearestEdge? x extents
      = if x < first.low then some first.index
        else if last.high ≤ x then some last.index
        else nearestAmong? x extents := by
    rw [nearestEdge?, hfirst, hlast]
  constructor
  case inside =>
    intro x hlow hhigh
    rw [hsearch, if_neg (not_lt.mpr hlow), if_neg (not_le.mpr hhigh)]
    rw [← endOf_eq start hlast] at hhigh
    obtain ⟨front, e, rest, rfl, hlow, hhigh, hamong⟩ := h.exists_holding (hstart ▸ hlow) hhigh
    rw [hamong]
    apply h.isNearestEdge hlow hhigh
  case before =>
    intro x hx
    rw [hsearch, if_pos hx]
  case behind =>
    intro x hx
    rw [hsearch, if_neg (not_lt.mpr (le_trans hle hx)), if_pos hx]
  case bounds =>
    intro x i hi
    obtain ⟨e, he, rfl | rfl⟩ := exists_of_nearestEdge? hi
    · apply Nat.le_of_lt (hcount e he)
    · apply hcount e he

end Edges

end Extent

end Frame

/-! ### Shown columns and data rows -/

namespace Layout

/-- An edge of the shown columns on the screen: it goes by the index of the column behind it, or by
the next index behind the last one. -/
def ColumnEdge (l : Layout Rat) (i : Nat) (x : Rat) : Prop :=
  (∃ column ∈ l.columns, column.slot = .shown i ∧ column.left = x)
    ∨ ∃ last j, l.shownColumns.getLast? = some last ∧ last.slot = .shown j ∧ j + 1 = i
        ∧ last.right = x

/-- An edge of the data rows on the screen: it goes by the row below it, or by the next row below
the last one. -/
def RowEdge (l : Layout Rat) (i : Nat) (y : Rat) : Prop :=
  (∃ row ∈ l.dataRows, row.row = i ∧ row.top = y)
    ∨ ∃ last, l.dataRows.getLast? = some last ∧ last.row + 1 = i ∧ last.bottom = y

section Placed

variable {c : Columns Rat} {config : Config Rat} {v : Viewport Rat} {rowCount : Nat}

theorem follow_shownColumns (h : c.HasWidths) (config : Config Rat) (v : Viewport Rat)
    (rowCount : Nat) :
  ∃ start, Axis.Follow start ((compute c config v rowCount).shownColumns.map fun column =>
    (column.left, column.right))
  := by
  have hfollow := follow_columns h config v rowCount
  rw [columns_eq_parts, List.map_append] at hfollow
  rw [shownColumns_eq_parts]
  exact ⟨_, hfollow.of_append⟩

theorem follow_dataRows (hheight : 0 ≤ config.rowHeight) (c : Columns Rat) (v : Viewport Rat)
    (rowCount : Nat) :
  ∃ start, Axis.Follow start ((compute c config v rowCount).dataRows.map fun row =>
    (row.top, row.bottom))
  := by
  obtain ⟨n, -, hrows⟩ := exists_rows_eq c config v rowCount
  have hdata {count first : Nat} {start : RowCursor Rat} :
      (placeRows .data config.rowHeight count first start).filter (fun row => row.band = .data)
        = placeRows .data config.rowHeight count first start := by
    apply List.filter_eq_self.mpr
    intro row hrow
    obtain ⟨_, _, _, _, _, hband⟩ := top_of_mem_placeRows hrow
    apply decide_eq_true hband
  have htop : (topRows config).filter (fun row => row.band = .data) = [] := by
    apply List.filter_eq_nil_iff.mpr
    intro row hrow
    rw [decide_eq_true_iff]
    apply band_of_mem_topRows hrow
  refine ⟨(topEdge config).y, ?_⟩
  rw [dataRows, hrows, List.filter_append, List.filter_append, htop, hdata, hdata, List.nil_append]
  apply (isFollowedBy_placeRows .data hheight _ 0 (topEdge config)).append
  apply isFollowedBy_placeRows .data hheight

end Placed

end Layout

namespace Frame

section Extents

/-- A shown column on the screen as an extent. -/
def Extent.ofColumn {α : Type} [Pixel α] (column : PlacedColumn α) : Extent α :=
  ⟨column.slot.shownIndex?.getD 0, column.left, column.right⟩

/-- The extents are those of the shown columns on the screen. -/
theorem columnExtents_eq {α : Type} [Pixel α] (f : Frame α) :
  f.columnExtents = f.layout.shownColumns.map Extent.ofColumn
  := by
  rw [columnExtents, Layout.shownColumns]
  induction f.layout.columns with
  | nil => rfl
  | cons column rest ih =>
    rw [List.filterMap_cons, List.filter_cons, ih]
    cases hindex : column.slot.shownIndex? with
    | none => rfl
    | some i =>
      rw [Option.isSome_some, if_pos rfl, List.map_cons, Extent.ofColumn, hindex]
      rfl

variable {f : Frame Rat}

theorem isEdge_columnExtents (f : Frame Rat) :
  Extent.IsEdge f.columnExtents = f.layout.ColumnEdge
  := by
  funext i x
  rw [Extent.IsEdge, Layout.ColumnEdge, columnExtents_eq, List.getLast?_map]
  apply propext
  apply or_congr
  · constructor
    · rintro ⟨e, he, rfl, rfl⟩
      obtain ⟨column, hcolumn, rfl⟩ := List.mem_map.mp he
      exact ⟨column, (List.mem_filter.mp hcolumn).1, Layout.slot_of_mem_shownColumns hcolumn, rfl⟩
    · rintro ⟨column, hcolumn, hslot, rfl⟩
      refine ⟨_, List.mem_map_of_mem (Layout.mem_shownColumns hcolumn hslot), ?_, rfl⟩
      rw [Extent.ofColumn, hslot]
      rfl
  · constructor
    · rintro ⟨e, he, rfl, rfl⟩
      obtain ⟨column, hcolumn, rfl⟩ := Option.map_eq_some_iff.mp he
      exact ⟨column, _, hcolumn,
        Layout.slot_of_mem_shownColumns (List.mem_of_getLast? hcolumn), rfl, rfl⟩
    · rintro ⟨column, j, hcolumn, hslot, rfl, rfl⟩
      refine ⟨_, Option.map_eq_some_iff.mpr ⟨column, hcolumn, rfl⟩, ?_, rfl⟩
      rw [Extent.ofColumn, hslot]
      rfl

theorem isEdge_rowExtents (f : Frame Rat) :
  Extent.IsEdge f.rowExtents = f.layout.RowEdge
  := by
  funext i y
  rw [Extent.IsEdge, Layout.RowEdge, rowExtents, List.getLast?_map]
  apply propext
  apply or_congr
  · constructor
    · rintro ⟨e, he, rfl, rfl⟩
      obtain ⟨row, hrow, rfl⟩ := List.mem_map.mp he
      exact ⟨row, hrow, rfl, rfl⟩
    · rintro ⟨row, hrow, rfl, rfl⟩
      exact ⟨_, List.mem_map_of_mem hrow, rfl, rfl⟩
  · constructor
    · rintro ⟨e, he, rfl, rfl⟩
      obtain ⟨row, hrow, rfl⟩ := Option.map_eq_some_iff.mp he
      exact ⟨row, hrow, rfl, rfl⟩
    · rintro ⟨row, hrow, rfl, rfl⟩
      exact ⟨_, Option.map_eq_some_iff.mpr ⟨row, hrow, rfl⟩, rfl, rfl⟩

end Extents

/-- A position leads to the nearest edge between the shown columns on the screen. -/
def SnapsToColumns (f : Frame Rat) (count : Nat) : Prop :=
  ∃ first last i j, f.layout.shownColumns.head? = some first
    ∧ f.layout.shownColumns.getLast? = some last ∧ first.slot = .shown i ∧ last.slot = .shown j
    ∧ Axis.SnapsToEdges f.layout.ColumnEdge first.left last.right i j count f.nearestColumn?

/-- A position leads to the nearest edge between the data rows on the screen. -/
def SnapsToRows (f : Frame Rat) (count : Nat) : Prop :=
  ∃ first last, f.layout.dataRows.head? = some first ∧ f.layout.dataRows.getLast? = some last
    ∧ Axis.SnapsToEdges f.layout.RowEdge first.top last.bottom first.row last.row count
        f.nearestRow?

section Compute

variable {c : Columns Rat} {config : Config Rat} {v : Viewport Rat} {rowCount : Nat}
  {f : Frame Rat} (hf : f.layout = .compute c config v rowCount)

include hf

theorem index_lt_of_mem_columnExtents {e : Extent Rat} (he : e ∈ f.columnExtents) :
  e.index < c.shownCount
  := by
  obtain ⟨column, hcolumn, hextent⟩ := List.mem_filterMap.mp he
  obtain ⟨i, hi, rfl⟩ := Option.map_eq_some_iff.mp hextent
  rw [hf] at hcolumn
  obtain ⟨-, hlt, -⟩ := Layout.left_of_mem_columns hcolumn (Slot.shownIndex?_eq_some.mp hi)
  exact hlt

theorem index_lt_of_mem_rowExtents {e : Extent Rat} (he : e ∈ f.rowExtents) :
  e.index < rowCount
  := by
  obtain ⟨row, hrow, rfl⟩ := List.mem_map.mp he
  obtain ⟨hmem, hband⟩ := List.mem_filter.mp hrow
  rw [hf] at hmem
  apply Layout.row_lt_of_mem_rows hmem (of_decide_eq_true hband)

theorem snapsToColumns (hwidths : c.HasWidths) (hcolumns : f.layout.shownColumns ≠ []) :
  f.SnapsToColumns c.shownCount
  := by
  have hfollow : ∃ start, Extent.Follow start f.columnExtents := by
    simp only [Extent.Follow, columnExtents_eq, List.map_map, hf]
    apply Layout.follow_shownColumns hwidths
  obtain ⟨start, hfollow⟩ := hfollow
  obtain ⟨first, hfirst⟩ := Option.ne_none_iff_exists'.mp (mt List.head?_eq_none_iff.mp hcolumns)
  obtain ⟨last, hlast⟩ := Option.ne_none_iff_exists'.mp (mt List.getLast?_eq_none_iff.mp hcolumns)
  refine ⟨first, last, _, _, hfirst, hlast,
    Layout.slot_of_mem_shownColumns (List.mem_of_head? hfirst),
    Layout.slot_of_mem_shownColumns (List.mem_of_getLast? hlast), ?_⟩
  have hlow : f.columnExtents.head? = some (.ofColumn first) := by
    rw [columnExtents_eq, List.head?_map, hfirst]
    rfl
  have hhigh : f.columnExtents.getLast? = some (.ofColumn last) := by
    rw [columnExtents_eq, List.getLast?_map, hlast]
    rfl
  rw [← isEdge_columnExtents]
  apply hfollow.snapsToEdges hlow hhigh fun e he => index_lt_of_mem_columnExtents hf he

theorem snapsToRows (hheight : 0 ≤ config.rowHeight) (hrows : f.layout.dataRows ≠ []) :
  f.SnapsToRows rowCount
  := by
  have hfollow : ∃ start, Extent.Follow start f.rowExtents := by
    simp only [Extent.Follow, rowExtents, List.map_map, hf]
    apply Layout.follow_dataRows hheight
  obtain ⟨start, hfollow⟩ := hfollow
  obtain ⟨first, hfirst⟩ := Option.ne_none_iff_exists'.mp (mt List.head?_eq_none_iff.mp hrows)
  obtain ⟨last, hlast⟩ := Option.ne_none_iff_exists'.mp (mt List.getLast?_eq_none_iff.mp hrows)
  have hlow : f.rowExtents.head? = some ⟨first.row, first.top, first.bottom⟩ := by
    rw [rowExtents, List.head?_map, hfirst]
    rfl
  have hhigh : f.rowExtents.getLast? = some ⟨last.row, last.top, last.bottom⟩ := by
    rw [rowExtents, List.getLast?_map, hlast]
    rfl
  refine ⟨first, last, hfirst, hlast, ?_⟩
  rw [← isEdge_rowExtents]
  apply hfollow.snapsToEdges hlow hhigh fun e he => index_lt_of_mem_rowExtents hf he

theorem le_shownCount_of_nearestColumn? {x : Rat} {i : Nat} (hi : f.nearestColumn? x = some i) :
  i ≤ c.shownCount
  := by
  obtain ⟨e, he, rfl | rfl⟩ := exists_of_nearestEdge? hi
  · apply Nat.le_of_lt (index_lt_of_mem_columnExtents hf he)
  · apply index_lt_of_mem_columnExtents hf he

end Compute

/-- With exact lengths and no column or row smaller than nothing, a position leads to the nearest
edge between the shown columns on the screen, and any run of shown columns can be put there.  It
leads to the nearest edge between the data rows in the same way. -/
theorem snapsToEdges_compute {c : Columns Rat} (hwidths : c.HasWidths) {config : Config Rat}
    (hheight : 0 ≤ config.rowHeight) (v : Viewport Rat) (rowCount : Nat) {f : Frame Rat}
    (hf : f.layout = .compute c config v rowCount) :
  (f.layout.shownColumns ≠ [] → f.SnapsToColumns c.shownCount)
    ∧ (∀ x i, f.nearestColumn? x = some i → ∀ start count, 0 < count →
        start + count ≤ c.shownCount → ∃ order, moveRun? c.shown start count i = some order)
    ∧ (f.layout.dataRows ≠ [] → f.SnapsToRows rowCount)
  := by
  refine ⟨snapsToColumns hf hwidths, fun x i hi start count hcount hrun => ?_,
    snapsToRows hf hheight⟩
  apply exists_moveRun? hcount hrun (le_shownCount_of_nearestColumn? hf hi)

/-- Behind a fixed column two columns are scrolled out.  The edge between it and the next one on the
screen goes by the latter, also for a position that is as near to both edges of the fixed column. -/
theorem snapsToEdges_compute_scrolled :
  let c : Columns Rat :=
    .ofSchema (ColumnSchema.ofNames ["A", "B", "C", "D", "E", "F"]) Config.default
  let config : Config Rat := { Config.default with fixedColumns := 1 }
  let v : Viewport Rat := ⟨2, 30, 300, 60⟩
  let f : Frame Rat := ⟨c, config, v, .compute c config v 100⟩
  c.HasWidths ∧ 0 ≤ config.rowHeight
    ∧ f.layout.shownColumns.map (fun column => (column.slot, column.left, column.right))
      = [(.shown 0, 40, 140), (.shown 3, 140, 240), (.shown 4, 240, 340)]
    ∧ f.layout.dataRows.map (fun row => (row.row, row.top, row.bottom))
      = [(30, 24, 44), (31, 44, 64)]
    ∧ [39, 89, 90, 189, 190, 339, 340].map f.nearestColumn?
      = [some 0, some 0, some 3, some 3, some 4, some 5, some 4]
    ∧ [0, 33, 34, 63, 64].map f.nearestRow? = [some 30, some 30, some 31, some 32, some 31]
    ∧ f.SnapsToColumns c.shownCount ∧ f.SnapsToRows 100
    ∧ ∃ order, moveRun? c.shown 0 2 5 = some order
  := by
  intro c config v f
  have hwidths : c.HasWidths := (Columns.hasPositiveWidths_ofSchema_default _).hasWidths
  have hheight : 0 ≤ config.rowHeight := by
    change (0 : Rat) ≤ 20
    decide
  have hcolumns : f.layout.shownColumns.map (fun column => (column.slot, column.left, column.right))
      = [(.shown 0, 40, 140), (.shown 3, 140, 240), (.shown 4, 240, 340)] := by
    simp only [f, c, config, v]
    cbv
  have hrows : f.layout.dataRows.map (fun row => (row.row, row.top, row.bottom))
      = [(30, 24, 44), (31, 44, 64)] := by
    simp only [f, c, config, v]
    cbv
  have hnearest : [39, 89, 90, 189, 190, 339, 340].map f.nearestColumn?
      = [some 0, some 0, some 3, some 3, some 4, some 5, some 4] := by
    simp only [f, c, config, v]
    cbv
  have hnearestRow : [0, 33, 34, 63, 64].map f.nearestRow?
      = [some 30, some 30, some 31, some 32, some 31] := by
    simp only [f, c, config, v]
    cbv
  have hshown : c.shownCount = 6 := by
    simp only [c]
    cbv
  have hbehind : f.nearestColumn? 339 = some 5 := by
    simp only [f, c, config, v]
    cbv
  obtain ⟨hsnaps, hmoves, hsnapsRows⟩ := snapsToEdges_compute hwidths hheight v 100 (f := f) rfl
  refine ⟨hwidths, hheight, hcolumns, hrows, hnearest, hnearestRow, hsnaps ?_, hsnapsRows ?_,
    hmoves 339 5 hbehind 0 2 (by decide) (by rw [hshown]; decide)⟩
  · intro hnone
    rw [hnone] at hcolumns
    cases hcolumns
  · intro hnone
    rw [hnone] at hrows
    cases hrows

end Frame

end DataGrid
