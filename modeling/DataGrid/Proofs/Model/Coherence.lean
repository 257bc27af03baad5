import DataGrid.Model

/-!
# Coherence

A frame is coherent over a number of rows when its layout is the one that belongs to its columns,
settings and viewport, and it is scrolled no further than its limits.  Every change of a model
either lays the grid out anew or leaves alone all that the layout rests on (`Model.Tracks`), so a
coherent model stays coherent.
-/

namespace DataGrid

namespace Frame

variable {α : Type}

/-- The frame without the notices that wait with its columns. -/
def silent (f : Frame α) : Frame α := { f with columns := { f.columns with notices := [] } }

variable [Pixel α]

/-- The layout belongs to the rest of the frame, and the scroll position is within its limits. -/
structure IsCoherent (f : Frame α) (rowCount : Nat) : Prop where
  layout_eq : f.layout = .compute f.columns f.config f.viewport rowCount
  left_le : f.viewport.scrollLeft ≤ (f.scrollLimits rowCount).left
  top_le : f.viewport.scrollTop ≤ (f.scrollLimits rowCount).top

/-- What coherence says of the columns, whatever the number of rows. -/
structure HasPlacedColumns (f : Frame α) : Prop where
  columns_eq :
    f.layout.columns
      = Layout.placeColumns f.viewport.width 0 Pixel.zero
          (Layout.columnPlans f.columns f.config f.viewport)
  left_le : f.viewport.scrollLeft ≤ ScrollLimits.computeLeft f.columns f.config f.viewport

theorem IsCoherent.hasPlacedColumns {f : Frame α} {rowCount : Nat} (h : f.IsCoherent rowCount) :
  f.HasPlacedColumns
  := by
  constructor
  · rw [h.layout_eq]
    rfl
  · apply h.left_le

theorem isCoherent_silent_iff {f : Frame α} {rowCount : Nat} :
  f.silent.IsCoherent rowCount ↔ f.IsCoherent rowCount
  := by
  constructor
  · intro h
    exact ⟨h.layout_eq, h.left_le, h.top_le⟩
  · intro h
    exact ⟨h.layout_eq, h.left_le, h.top_le⟩

theorem hasPlacedColumns_silent_iff {f : Frame α} :
  f.silent.HasPlacedColumns ↔ f.HasPlacedColumns
  := by
  constructor
  · intro h
    exact ⟨h.columns_eq, h.left_le⟩
  · intro h
    exact ⟨h.columns_eq, h.left_le⟩

end Frame

namespace Model

variable {α σ : Type} [Pixel α] [DataSource σ] {m m' m'' : Model α σ}

/-- The frame is coherent over the rows of the table. -/
abbrev IsCoherent (m : Model α σ) : Prop := m.toFrame.IsCoherent m.rowCount

/-- Scroll limits do not depend on the scroll position, so one clamp is enough. -/
theorem isCoherent_relayout (m : Model α σ) :
  m.relayout.IsCoherent
  := by
  constructor
  · rfl
  · apply Nat.min_le_right
  · apply Nat.min_le_right

/-- How a model may follow from another one. -/
inductive Tracks (m m' : Model α σ) : Prop where
  /-- The grid has been laid out anew. -/
  | relaid (coherent : m'.IsCoherent)
  /-- Nothing that the layout rests on has changed. -/
  | same (frame : m'.toFrame.silent = m.toFrame.silent) (data : m'.data = m.data)

namespace Tracks

theorem refl (m : Model α σ) :
  m.Tracks m
  := .same rfl rfl

theorem isCoherent (h : m.Tracks m') (hm : m.IsCoherent) :
  m'.IsCoherent
  := by
  cases h with
  | relaid coherent => apply coherent
  | same frame data =>
    apply Frame.isCoherent_silent_iff.mp
    rw [frame, rowCount, data]
    apply Frame.isCoherent_silent_iff.mpr hm

theorem hasPlacedColumns (h : m.Tracks m') (hm : m.toFrame.HasPlacedColumns) :
  m'.toFrame.HasPlacedColumns
  := by
  cases h with
  | relaid coherent => apply coherent.hasPlacedColumns
  | same frame data =>
    apply Frame.hasPlacedColumns_silent_iff.mp
    rw [frame]
    apply Frame.hasPlacedColumns_silent_iff.mpr hm

theorem trans (h : m.Tracks m') (h' : m'.Tracks m'') :
  m.Tracks m''
  := by
  cases h' with
  | relaid coherent => apply relaid coherent
  | same frame data =>
    cases h with
    | relaid coherent => apply relaid (isCoherent (.same frame data) coherent)
    | same frame' data' => apply same (frame.trans frame') (data.trans data')

/-- Laying out anew makes up for whatever was done before. -/
theorem relayout (m m' : Model α σ) :
  m.Tracks m'.relayout
  := relaid m'.isCoherent_relayout

end Tracks

/-! ### Scrolling and sizes -/

theorem tracks_scrollBy? {columns rows : Int} (h : m.scrollBy? columns rows = some m') :
  m.Tracks m'
  := by
  unfold scrollBy? at h
  dsimp only at h
  split at h
  · obtain rfl := Option.some.inj h
    apply Tracks.relayout
  · cases h

theorem tracks_scrollBy (m : Model α σ) (columns rows : Int) :
  m.Tracks (m.scrollBy columns rows)
  := by
  rw [scrollBy]
  cases h : m.scrollBy? columns rows with
  | none => apply Tracks.refl
  | some m' => apply tracks_scrollBy? h

theorem tracks_scrollTo (m : Model α σ) (left top : Nat) :
  m.Tracks (m.scrollTo left top)
  := Tracks.relayout m _

theorem tracks_resizeViewport (m : Model α σ) (width height : α) :
  m.Tracks (m.resizeViewport width height)
  := Tracks.relayout m _

/-! ### Fixed columns and rows -/

theorem tracks_setFixedColumns (m : Model α σ) (count : Nat) :
  m.Tracks (m.setFixedColumns count)
  := by
  rw [setFixedColumns]
  dsimp only
  split
  · apply Tracks.refl
  · apply Tracks.relayout

theorem tracks_setFixedRows (m : Model α σ) (count : Nat) :
  m.Tracks (m.setFixedRows count)
  := by
  rw [setFixedRows]
  dsimp only
  split
  · apply Tracks.refl
  · apply Tracks.relayout

/-! ### Columns and tables -/

theorem tracks_moveColumns? {start count target : Nat}
    (h : m.moveColumns? start count target = some m') :
  m.Tracks m'
  := by
  obtain ⟨columns, -, rfl⟩ := Option.map_eq_some_iff.mp h
  apply Tracks.relayout

theorem tracks_moveColumns (m : Model α σ) (start count target : Nat) :
  m.Tracks ((m.moveColumns? start count target).getD m)
  := by
  cases h : m.moveColumns? start count target with
  | none => apply Tracks.refl
  | some m' => apply tracks_moveColumns? h

theorem tracks_showColumns (m : Model α σ) (source : Columns.Source) (indexes : List Nat)
    (placement : Columns.Placement) (duplicates : Bool) :
  m.Tracks (m.showColumns source indexes placement duplicates)
  := Tracks.relayout m _

theorem tracks_hideColumns (m : Model α σ) (source : Columns.Source) (indexes : List Nat) :
  m.Tracks (m.hideColumns source indexes)
  := Tracks.relayout m _

theorem tracks_setColumnWidth (m : Model α σ) (id : ColumnId) (width : α) :
  m.Tracks (m.setColumnWidth id width)
  := by
  rw [setColumnWidth]
  split
  · apply Tracks.relayout
  · apply Tracks.refl

theorem tracks_load (m : Model α σ) (data : σ) (schema : List ColumnSchema) :
  m.Tracks (m.load data schema)
  := Tracks.relayout m _

theorem tracks_restore (m : Model α σ) (s : Snapshot α) :
  m.Tracks (m.restore s)
  := Tracks.relayout m _

/-! ### What the layout does not depend on -/

theorem tracks_emit (m : Model α σ) (n : Notice α) :
  m.Tracks (m.emit n)
  := .same rfl rfl

theorem tracks_select (m : Model α σ) (s : Selection) :
  m.Tracks (m.select s)
  := .same rfl rfl

omit [Pixel α] [DataSource σ] in
@[simp]
theorem toFrame_selectIfNew (m : Model α σ) (s : Selection) :
  (m.selectIfNew s).toFrame = m.toFrame
  := by
  rw [selectIfNew]
  split
  · rfl
  · rfl

omit [Pixel α] [DataSource σ] in
@[simp]
theorem selection_selectIfNew (m : Model α σ) (s : Selection) :
  (m.selectIfNew s).selection = s
  := by
  rw [selectIfNew]
  split
  case isTrue hs => apply hs.symm
  case isFalse => rfl

/-! ### What sizes and fixed places leave alone -/

theorem columns_setFixedColumns (m : Model α σ) (count : Nat) :
  (m.setFixedColumns count).columns = m.columns
  := by
  rw [setFixedColumns]
  dsimp only
  split
  · rfl
  · rfl

theorem columns_setFixedRows (m : Model α σ) (count : Nat) :
  (m.setFixedRows count).columns = m.columns
  := by
  rw [setFixedRows]
  dsimp only
  split
  · rfl
  · rfl

theorem selection_setFixedColumns (m : Model α σ) (count : Nat) :
  (m.setFixedColumns count).selection = m.selection
  := by
  rw [setFixedColumns]
  dsimp only
  split
  · rfl
  · rfl

theorem selection_setFixedRows (m : Model α σ) (count : Nat) :
  (m.setFixedRows count).selection = m.selection
  := by
  rw [setFixedRows]
  dsimp only
  split
  · rfl
  · rfl

theorem selection_setColumnWidth (m : Model α σ) (id : ColumnId) (width : α) :
  (m.setColumnWidth id width).selection = m.selection
  := by
  rw [setColumnWidth]
  split
  · rfl
  · rfl

theorem columns_clampFixedColumns (m : Model α σ) :
  m.clampFixedColumns.columns = m.columns
  := by
  rw [clampFixedColumns]
  split
  · apply columns_setFixedColumns
  · rfl

theorem selection_clampFixedColumns (m : Model α σ) :
  m.clampFixedColumns.selection = m.selection
  := by
  rw [clampFixedColumns]
  split
  · apply selection_setFixedColumns
  · rfl

theorem selection_clampFixedRows (m : Model α σ) :
  m.clampFixedRows.selection = m.selection
  := by
  rw [clampFixedRows]
  split
  · apply selection_setFixedRows
  · rfl

/-! ### What is told and forgotten -/

/-- The mark of a new layout does not count. -/
theorem tracks_announce (m : Model α σ) :
  m.Tracks { m with relaid := false }
  := .same rfl rfl

theorem tracks_takeNotices (m : Model α σ) :
  m.Tracks m.takeNotices.2
  := .same rfl rfl

end Model

end DataGrid
