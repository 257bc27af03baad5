import DataGrid.Proofs.Feature.Rest
import DataGrid.Proofs.Pipeline.Delivery

/-!
# Whom an event is for

Which feature takes a press is decided by the cell that is pressed (`BuiltIn.takesPress`), and not
by what the features have done before.  Drags and releases are for the feature that is in the middle
of a drag, and keys other than `Escape` do not concern the features that drag something else than
cells.
-/

namespace DataGrid

variable {α σ : Type}

/-! ### Kinds of cells -/

namespace Binding

/-- A row handle is neither a header nor a data cell. -/
theorem of_isHandleCell {b : Binding α} (h : b.isHandleCell = true) :
  b.isHeaderRow = false ∧ b.isDataColumn = false ∧ b.isDataRow = true
  := by
  obtain ⟨hrow, hcolumn⟩ := Bool.and_eq_true_iff.mp h
  have hband : b.row.band = .data := of_decide_eq_true hrow
  have hid : b.column.id = .rowHandle := of_decide_eq_true hcolumn
  refine ⟨?_, ?_, hrow⟩
  · rw [isHeaderRow, hband]
    rfl
  · rw [isDataColumn, hid]
    rfl

/-- A header cell is neither a cell of a data row nor in the row handle. -/
theorem of_isHeaderCell {b : Binding α} (h : b.isHeaderCell = true) :
  b.isDataRow = false ∧ b.isHandleColumn = false
  := by
  obtain ⟨hrow, hcolumn⟩ := Bool.and_eq_true_iff.mp h
  have hband : b.row.band = .header := of_decide_eq_true hrow
  constructor
  · rw [isDataRow, hband]
    rfl
  · apply decide_eq_false
    intro hid
    rw [isDataColumn, hid] at hcolumn
    cases hcolumn

/-- A data cell is neither in a header row nor in the row handle. -/
theorem of_isDataCell {b : Binding α} (h : b.isDataCell = true) :
  b.isHeaderRow = false ∧ b.isHandleColumn = false
  := by
  obtain ⟨hrow, hcolumn⟩ := Bool.and_eq_true_iff.mp h
  have hband : b.row.band = .data := of_decide_eq_true hrow
  constructor
  · rw [isHeaderRow, hband]
    rfl
  · apply decide_eq_false
    intro hid
    rw [isDataColumn, hid] at hcolumn
    cases hcolumn

end Binding

namespace BuiltIn

variable [Pixel α] [DataSource σ]

/-! ### Presses -/

/-- Whether a feature takes a press for itself or takes note of it. -/
def takesPress (m : Model α σ) (e : PointerEvent α) : BuiltIn α → Bool
  | .columnFixation _ => e.isPlainPress && ColumnFixation.onHandle m e
  | .rowFixation _ => e.isPlainPress && RowFixation.onHandle m e
  | .columnResizing _ => e.button = .primary && (ColumnResizing.divider? m e).isSome
  | .rowSelection _ => (RowSelection.pressed? m e).isSome
  | .columnSelection _ => (ColumnSelection.pressed? e).isSome
  | .columnMoving _ => (ColumnMoving.pressed? m e).isSome
  | .cellSelection _ => e.button = .primary && (e.cell?.bind CellSelection.placeOf?).isSome
  | .contextMenu _ => e.button = .secondary && e.cell?.isSome
  | _ => false

omit [Pixel α] in
/-- What becomes of a feature that hands a press on: no menu has been asked for. -/
def afterPress : BuiltIn α → BuiltIn α
  | .contextMenu _ => .contextMenu ⟨false⟩
  | f => f

/-- A feature that does not take a press hands it on. -/
theorem handsOn_down {m : Model α σ} {e : PointerEvent α} {f : BuiltIn α}
    (h : takesPress m e f = false) :
  Pipeline.HandsOn (Input.pointer .down e) m f f.afterPress
  := by
  rintro t rfl
  change f.handle (.pointer .down e) t = _
  cases f with
  | hover => rfl
  | keyPaging => rfl
  | columnFixation s =>
    rw [takesPress] at h
    simp only [handle, ColumnFixation.handle, h]
    rfl
  | rowFixation s =>
    rw [takesPress] at h
    simp only [handle, RowFixation.handle, h]
    rfl
  | columnResizing s =>
    simp only [handle, ColumnResizing.handle]
    split
    case isFalse => rfl
    case isTrue hbutton =>
      rw [takesPress, decide_eq_true hbutton, Bool.true_and, Option.isSome_eq_false_iff,
        Option.isNone_iff_eq_none] at h
      rw [h]
      rfl
  | rowSelection s =>
    rw [takesPress, Option.isSome_eq_false_iff, Option.isNone_iff_eq_none] at h
    simp only [handle, RowSelection.handle, h]
    rfl
  | columnSelection s =>
    rw [takesPress, Option.isSome_eq_false_iff, Option.isNone_iff_eq_none] at h
    simp only [handle, ColumnSelection.handle, h]
    rfl
  | columnMoving s =>
    rw [takesPress, Option.isSome_eq_false_iff, Option.isNone_iff_eq_none] at h
    simp only [handle, ColumnMoving.handle, h]
    rfl
  | cellSelection s =>
    have hnone : (if e.button = .primary then e.cell?.bind CellSelection.placeOf? else none)
        = none := by
      split
      case isFalse => rfl
      case isTrue hbutton =>
        rwa [takesPress, decide_eq_true hbutton, Bool.true_and, Option.isSome_eq_false_iff,
          Option.isNone_iff_eq_none] at h
    simp only [handle, CellSelection.handle, hnone]
    rfl
  | contextMenu s =>
    have hnone : (if e.button = .secondary then ContextMenu.request? e else none) = none := by
      split
      case isFalse => rfl
      case isTrue hbutton =>
        rw [takesPress, decide_eq_true hbutton, Bool.true_and, Option.isSome_eq_false_iff,
          Option.isNone_iff_eq_none] at h
        rw [ContextMenu.request?, h]
        rfl
    simp only [handle, ContextMenu.handle, hnone]
    rfl

section Presses

variable {m : Model α σ} {e : PointerEvent α} {c : PointedCell α} {f : BuiltIn α}

/-- A press with modifiers on a row handle is for the feature that selects rows. -/
theorem takesPress_of_isHandleCell (hbutton : e.button = .primary)
    (hplain : e.isPlainPress = false) (hcell : e.cell? = some c)
    (hhandle : c.cell.isHandleCell = true) (hname : f.name ≠ "row_selection") :
  takesPress m e f = false
  := by
  obtain ⟨hheader, hcolumn, hrow⟩ := Binding.of_isHandleCell hhandle
  have hheaderCell : c.cell.isHeaderCell = false := by rw [Binding.isHeaderCell, hheader]; rfl
  cases f with
  | rowSelection s => cases hname rfl
  | columnFixation s => rw [takesPress, hplain]; rfl
  | rowFixation s => rw [takesPress, hplain]; rfl
  | columnResizing s =>
    simp only [takesPress, ColumnResizing.divider?, hcell, Option.filter, hheader]
    apply Bool.and_false
  | columnSelection s =>
    simp only [takesPress, ColumnSelection.pressed?, hbutton, hcell, Option.filter, hheaderCell]
    rfl
  | columnMoving s => simp only [takesPress, ColumnMoving.pressed?, hplain]; rfl
  | cellSelection s =>
    have hnone : CellSelection.placeOf? c = none := by
      rw [CellSelection.placeOf?, Binding.isDataCell, hcolumn, Bool.and_false]
      rfl
    simp only [takesPress, hcell, Option.bind_some, hnone]
    apply Bool.and_false
  | contextMenu s => rw [takesPress, hbutton]; rfl
  | _ => rfl

/-- A press on a header, away from its edges, is for the features that select and move columns. -/
theorem takesPress_of_isHeaderCell (hbutton : e.button = .primary)
    (hedge : (e.isPlainPress && ColumnFixation.onHandle m e) = false)
    (hdivider : ColumnResizing.divider? m e = none) (hcell : e.cell? = some c)
    (hheader : c.cell.isHeaderCell = true) (hname : f.name ≠ "column_selection")
    (hmoving : f.name ≠ "column_moving" ∨ ColumnMoving.pressed? m e = none) :
  takesPress m e f = false
  := by
  obtain ⟨hrow, hcolumn⟩ := Binding.of_isHeaderCell hheader
  have hhandle : c.cell.isHandleCell = false := by rw [Binding.isHandleCell, hrow]; rfl
  cases f with
  | columnSelection s => cases hname rfl
  | columnFixation s => apply hedge
  | rowFixation s =>
    simp only [takesPress, RowFixation.onHandle, hcell, Option.any_some, hcolumn, Bool.false_and]
    apply Bool.and_false
  | columnResizing s => rw [takesPress, hdivider]; apply Bool.and_false
  | rowSelection s =>
    simp only [takesPress, RowSelection.pressed?, hcell, Option.filter, hhandle]
    split <;> rfl
  | columnMoving s =>
    obtain hmoving | hmoving := hmoving
    · cases hmoving rfl
    · rw [takesPress, hmoving]
      rfl
  | cellSelection s =>
    have hnone : CellSelection.placeOf? c = none := by
      rw [CellSelection.placeOf?, Binding.isDataCell, hrow]
      rfl
    simp only [takesPress, hcell, Option.bind_some, hnone]
    apply Bool.and_false
  | contextMenu s => rw [takesPress, hbutton]; rfl
  | _ => rfl

/-- A press on a data cell is for the feature that selects cells. -/
theorem takesPress_of_isDataCell (hbutton : e.button = .primary) (hcell : e.cell? = some c)
    (hdata : c.cell.isDataCell = true) (hname : f.name ≠ "cell_selection") :
  takesPress m e f = false
  := by
  obtain ⟨hheader, hcolumn⟩ := Binding.of_isDataCell hdata
  have hheaderCell : c.cell.isHeaderCell = false := by rw [Binding.isHeaderCell, hheader]; rfl
  have hhandle : c.cell.isHandleCell = false := by
    rw [Binding.isHandleCell, hcolumn, Bool.and_false]
  cases f with
  | cellSelection s => cases hname rfl
  | columnFixation s =>
    simp only [takesPress, ColumnFixation.onHandle, hcell, Option.any_some, hheader,
      Bool.false_and]
    apply Bool.and_false
  | rowFixation s =>
    simp only [takesPress, RowFixation.onHandle, hcell, Option.any_some, hcolumn, Bool.false_and]
    apply Bool.and_false
  | columnResizing s =>
    simp only [takesPress, ColumnResizing.divider?, hcell, Option.filter, hheader]
    apply Bool.and_false
  | rowSelection s =>
    simp only [takesPress, RowSelection.pressed?, hcell, Option.filter, hhandle]
    split <;> rfl
  | columnSelection s =>
    simp only [takesPress, ColumnSelection.pressed?, hbutton, hcell, Option.filter, hheaderCell]
    rfl
  | columnMoving s =>
    simp only [takesPress, ColumnMoving.pressed?, hcell, Option.filter, hheaderCell,
      Bool.false_and]
    split <;> rfl
  | contextMenu s => rw [takesPress, hbutton]; rfl
  | _ => rfl

end Presses

/-! ### Drags, releases and keys -/

omit [Pixel α] in
/-- What becomes of a feature that hands a release on. -/
def afterRelease : BuiltIn α → BuiltIn α
  | .columnSelection s => .columnSelection { s with extending := false }
  | .cellSelection s => .cellSelection s.stopDrag
  | f => f

section Handing

variable {m : Model α σ} {e : PointerEvent α} {f : BuiltIn α}

theorem handsOn_drag (hdragging : f.isDragging = false) (hextending : f.isExtending = false) :
  Pipeline.HandsOn (Input.pointer .drag e) m f f
  := by
  intro t _
  apply (isAtRest_of_isDragging hdragging).handle_drag hextending

theorem handsOn_up (h : f.isDragging = false) :
  Pipeline.HandsOn (Input.pointer .up e) m f f.afterRelease
  := by
  intro t _
  cases isAtRest_of_isDragging h <;> rfl

/-- A key other than `Escape` is none for the features that see it before the one that selects
cells. -/
theorem handsOn_key {e : KeyEvent} (hkey : e.key ≠ "Escape") (hcells : f.name ≠ "cell_selection")
    (hpaging : f.name ≠ "key_paging") :
  Pipeline.HandsOn (Input.key .down e : Input α) m f f
  := by
  intro t _
  change f.handle (.key .down e) t = _
  cases f with
  | cellSelection s => cases hcells rfl
  | keyPaging => cases hpaging rfl
  | columnFixation s =>
    simp only [handle, ColumnFixation.handle, decide_eq_false hkey, Bool.false_and]
    rfl
  | rowFixation s =>
    simp only [handle, RowFixation.handle, decide_eq_false hkey, Bool.false_and]
    rfl
  | columnResizing s =>
    obtain ⟨_ | d, hovering⟩ := s
    · rfl
    · simp only [handle, ColumnResizing.handle, hkey, if_false]
      rfl
  | columnMoving s =>
    simp only [handle, ColumnMoving.handle, decide_eq_false hkey, Bool.false_and]
    rfl
  | _ => rfl

end Handing

end BuiltIn

end DataGrid
