import DataGrid.Proofs.Feature.Advance
import DataGrid.Proofs.Model.Inside

/-!
# Features and the size of the table

A feature selects what is under the pointer, or what a key leads to, and all from there back to
where it began.  If that lies inside the table (`BuiltIn.ReachesInside`), so does what it selects,
and it goes on reaching from inside (`BuiltIn.inside_handle`, `BuiltIn.inside_fire`).  If it does
not, there is an input that makes the feature select what is not in the table
(`BuiltIn.reachesInside_iff`).
-/

namespace DataGrid

variable {α σ : Type} {rows columns : Nat} {R : Prop}

/-- The cell under the pointer is one of the table. -/
def PointerEvent.IsInside (rows columns : Nat) (e : PointerEvent α) : Prop :=
  ∀ c, e.cell? = some c → c.cell.IsInside rows columns

/-- A pointer is on a cell of the table, if it is on one. -/
def Input.IsInside (rows columns : Nat) : Input α → Prop
  | .pointer _ e => e.IsInside rows columns
  | _ => True

/-- The cell is one of the table. -/
structure CellPlace.IsInside (rows columns : Nat) (c : CellPlace) : Prop where
  row_lt : c.row < rows
  column_lt : c.column < columns

/-- The row from which rows are selected is one of the table. -/
def RowSelection.AnchorIsInside (rows : Nat) (s : RowSelection) : Prop :=
  ∀ row, s.anchor = some row → row < rows

namespace BuiltIn

/-- Whether the feature changes the selection. -/
def selects : BuiltIn α → Bool
  | .rowSelection _ | .columnSelection _ | .columnMoving _ | .cellSelection _ => true
  | _ => false

/-- What the feature may reach from is inside the table.  Rows are reached from where they were
pressed only in a drag, or while rows are selected. -/
def ReachesInside (rows columns : Nat) : BuiltIn α → Prop
  | .rowSelection s => s.dragging = true → s.AnchorIsInside rows
  | .columnSelection s => ∀ i, s.anchor = some i → i < columns
  | .cellSelection s => ∀ c, s.anchor = some c → c.IsInside rows columns
  | _ => True

end BuiltIn

/-! ### Rows -/

namespace RowSelection

theorem row_lt_of_pressed? {m : Model α σ} {e : PointerEvent α} {row : Nat}
    (h : pressed? m e = some row) (he : e.IsInside rows columns) :
  row < rows
  := by
  rw [pressed?] at h
  split at h
  case isTrue =>
    obtain ⟨c, hc, rfl⟩ := Option.map_eq_some_iff.mp h
    obtain ⟨hcell, hhandle⟩ := Option.filter_eq_some_iff.mp hc
    apply (he c hcell).row_lt ((Bool.and_eq_true _ _).mp hhandle).1
  case isFalse => cases h

/-- After a press rows are reached from inside. -/
theorem inside_press {s : Selection} {anchor : Option Nat}
    (hs : s.Fits rows columns (∀ row, anchor = some row → row < rows)) (modifiers : Modifiers)
    {row : Nat} (hrow : row < rows) :
  (∀ a, (press s anchor modifiers row).2 = some a → a < rows)
    ∧ (press s anchor modifiers row).1.Fits rows columns True
  := by
  have hkept : s.Fits rows columns True := hs.mono fun _ => trivial
  have hself : ∀ a, some row = some a → a < rows := by
    rintro _ ⟨⟩
    apply hrow
  fun_cases press s anchor modifiers row
  case case1 a q hlast _ =>
    have hanchor := hs.rows_allowed hlast
    exact ⟨hanchor, hkept.extendLast (Range.fits_rows (hanchor a rfl) hrow trivial)⟩
  case case2 => exact ⟨hself, hkept.deselectRow row⟩
  case case3 => exact ⟨hself, hkept.push (Range.fits_rows hrow hrow trivial) modifiers.toggle⟩

/-- What rows are selected is inside the table if rows are reached from inside in a drag and
wherever some are selected. -/
theorem inside_handle {s : RowSelection} {input : Input α} {t : GridTurn α σ}
    (hinput : input.IsInside rows columns) (hreach : s.dragging = true → s.AnchorIsInside rows)
    (hs : t.model.selection.Fits rows columns (s.AnchorIsInside rows)) :
  let r := s.handle input t
  (r.state.dragging = true → r.state.AnchorIsInside rows)
    ∧ r.turn.model.selection.Fits rows columns (r.state.AnchorIsInside rows)
  := by
  unfold handle
  split
  case h_1 e =>
    split
    case h_1 => exact ⟨hreach, hs⟩
    case h_2 row hrow =>
      obtain ⟨hanchor, hselection⟩ :=
        inside_press hs e.modifiers (row_lt_of_pressed? hrow hinput)
      exact ⟨fun _ => hanchor, hselection.mono fun _ => hanchor⟩
  case h_2 e =>
    split
    case isTrue => exact ⟨hreach, hs⟩
    case isFalse hdragging =>
      have hanchor : s.AnchorIsInside rows := hreach (by simpa using hdragging)
      split
      case h_1 a c ha hc =>
        obtain ⟨hcell, hdata⟩ := Option.filter_eq_some_iff.mp hc
        have hrow := (hinput c hcell).row_lt hdata
        dsimp only
        split
        · exact ⟨hreach, hs⟩
        · refine ⟨hreach, ?_⟩
          apply hs.extendLast (Range.fits_rows (hanchor a ha) hrow hanchor)
      case h_2 => exact ⟨hreach, hs⟩
  case h_3 =>
    split
    case isTrue =>
      refine ⟨?_, hs⟩
      rintro ⟨⟩
    case isFalse => exact ⟨hreach, hs⟩
  case h_4 => exact ⟨hreach, hs⟩

/-- A drag over a data cell, where nothing is selected. -/
theorem selection_drag {s : RowSelection} {e : PointerEvent α} {t : GridTurn α σ} {row : Nat}
    {c : PointedCell α} (hdragging : s.dragging = true) (hrow : s.anchor = some row)
    (hc : e.cell?.filter (·.cell.isDataRow) = some c) (hs : t.model.selection = .empty) :
  (s.handle (.pointer .drag e) t).turn.model.selection = ⟨[.rows row c.cell.row.row]⟩
  := by
  have hlast : t.model.selection.last? .rows = none := by
    rw [hs]
    rfl
  simp only [handle, hdragging, hrow, hc, hlast]
  change t.model.selection.extendLast _ = _
  rw [hs]
  rfl

end RowSelection

/-! ### Columns -/

namespace ColumnSelection

theorem lt_of_pressed? {e : PointerEvent α} {i : Nat} (h : pressed? e = some i)
    (he : e.IsInside rows columns) :
  i < columns
  := by
  rw [pressed?] at h
  split at h
  case isTrue =>
    obtain ⟨c, hc, hi⟩ := Option.bind_eq_some_iff.mp h
    apply (he c (Option.filter_eq_some_iff.mp hc).1).shownIndex_lt hi
  case isFalse => cases h

theorem inside_press {s : Selection} {anchor : Option Nat} (hs : s.Fits rows columns R)
    (hanchor : ∀ i, anchor = some i → i < columns) (modifiers : Modifiers) {i : Nat}
    (hi : i < columns) :
  (∀ a, (press s anchor modifiers i).2 = some a → a < columns)
    ∧ (press s anchor modifiers i).1.Fits rows columns R
  := by
  have hself : ∀ a, some i = some a → a < columns := by
    rintro _ ⟨⟩
    apply hi
  fun_cases press s anchor modifiers i
  case case1 a _ => exact ⟨hanchor, hs.selectColumns (hanchor a rfl) hi⟩
  case case2 => exact ⟨hself, hs.deselectColumn i⟩
  case case3 => exact ⟨hself, hs.push (Range.fits_columns hi hi) true⟩
  case case4 => exact ⟨hself, hs⟩
  case case5 => exact ⟨hself, hs.push (Range.fits_columns hi hi) false⟩

theorem inside_handle {s : ColumnSelection} {input : Input α} {t : GridTurn α σ}
    (hinput : input.IsInside rows columns) (hanchor : ∀ i, s.anchor = some i → i < columns)
    (hs : t.model.selection.Fits rows columns R) :
  let r := s.handle input t
  (∀ i, r.state.anchor = some i → i < columns) ∧ r.turn.model.selection.Fits rows columns R
  := by
  unfold handle
  split
  case h_1 e =>
    split
    case h_1 => exact ⟨hanchor, hs⟩
    case h_2 i hi =>
      obtain ⟨hnext, hselection⟩ := inside_press hs hanchor e.modifiers (lt_of_pressed? hi hinput)
      refine ⟨hnext, ?_⟩
      change (Model.selectIfNew _ _).selection.Fits rows columns R
      rw [Model.selection_selectIfNew]
      apply hselection
  case h_2 e =>
    split
    case isTrue => exact ⟨hanchor, hs⟩
    case isFalse =>
      split
      case h_1 a i ha hi =>
        obtain ⟨c, hcell, hi⟩ := Option.bind_eq_some_iff.mp hi
        have hi := (hinput c hcell).shownIndex_lt hi
        split
        · exact ⟨hanchor, hs⟩
        · exact ⟨hanchor, hs.selectColumns (hanchor a ha) hi⟩
      case h_2 => exact ⟨hanchor, hs⟩
  case h_3 => exact ⟨hanchor, hs⟩
  case h_4 => exact ⟨hanchor, hs⟩

/-- A press with the shift key on a header, where nothing is selected. -/
theorem selection_press {s : ColumnSelection} {e : PointerEvent α} {t : GridTurn α σ} {i j : Nat}
    (hi : s.anchor = some i) (hshift : e.modifiers.shift = true) (hj : pressed? e = some j)
    (hs : t.model.selection = .empty) :
  (s.handle (.pointer .down e) t).turn.model.selection = ⟨[.columns i j]⟩
  := by
  simp only [handle, hj, press, hshift, hi]
  change (Model.selectIfNew _ _).selection = _
  rw [Model.selection_selectIfNew, hs]
  rfl

end ColumnSelection

variable [Pixel α] [DataSource σ]

open Model (Acts Roams Scrolls)

/-! ### Moving columns -/

namespace ColumnMoving

omit [DataSource σ] in
theorem selection_aim (m : Model α σ) (d : ColumnDrag α) :
  (aim m d).1.selection = m.selection
  := by
  rw [aim]
  split
  · rfl
  · rfl

theorem selection_scrollStep (d : ColumnDrag α) (direction : Int) (attempt : Nat)
    (t : GridTurn α σ) :
  (scrollStep d direction attempt t).2.model.selection = t.model.selection
  := by
  rw [scrollStep]
  split
  case h_1 => rfl
  case h_2 m hscroll => apply (selection_aim m d).trans (Scrolls.of_scrollBy? hscroll).selection_eq

theorem selection_follow (d : ColumnDrag α) (e : PointerEvent α) (t : GridTurn α σ) :
  (follow d e t).2.model.selection = t.model.selection
  := by
  rw [follow]
  split
  case h_1 =>
    split
    · rfl
    · apply selection_scrollStep
  case h_2 =>
    dsimp only
    split
    · rfl
    · apply selection_aim

/-- The columns that are let go of are selected where they have been put. -/
theorem fits_drop {m : Model α σ} (hm : m.Spans rows columns)
    (hs : m.selection.Fits rows columns R) (d : ColumnDrag α) :
  (drop d m).selection.Fits rows columns R
  := by
  fun_cases drop d m
  case case1 => apply hs
  case case2 => apply hs
  case case3 target _ m' hmove start =>
    have hmoved := Model.hasMoved_of_moveColumns? hmove
    have hcount := hmoved.count_pos
    have hstart : start = landing d.start d.count target :=
      (landing_eq_of_outside hmoved.target_outside).symm
    have hfits : start + d.count ≤ columns := by
      rw [← hm.shownCount_eq, hstart]
      apply landing_le hmoved.run_le hmoved.target_le
    rw [Model.selection_selectIfNew]
    apply (hm.fits_of_moveColumns? hs hmove).selectColumns
    · omega
    · omega

theorem fits_handle {s : ColumnMoving α} {input : Input α} {t : GridTurn α σ}
    (ht : t.model.Spans rows columns) (hs : t.model.selection.Fits rows columns R) :
  (s.handle input t).turn.model.selection.Fits rows columns R
  := by
  unfold handle
  split
  case h_1 =>
    split
    · apply hs
    · apply hs
  case h_2 e =>
    split
    case h_1 => apply hs
    case h_2 d _ =>
      change (follow d e t).2.model.selection.Fits rows columns R
      rw [selection_follow]
      apply hs
  case h_3 =>
    split
    · apply hs
    · apply hs
    · next d =>
      have hclear : (clearOverlays t.model).Spans rows columns := ht.acts (Roams.draw _ _)
      apply fits_drop hclear hs
  case h_4 =>
    split
    · apply hs
    · apply hs
  case h_5 => apply hs

theorem selection_fire (s : ColumnMoving α) (timer : TimerToken) (t : GridTurn α σ) :
  (s.fire timer t).2.model.selection = t.model.selection
  := by
  unfold fire
  split
  · split
    · apply selection_scrollStep
    · rfl
  · rfl

end ColumnMoving

/-! ### Selecting cells -/

namespace CellSelection

/-- A range of cells that is selected from here begins inside, and so does all that is selected. -/
structure IsInside (rows columns : Nat) (R : Prop) (s : CellSelection α) (m : Model α σ) :
    Prop where
  anchor : ∀ cell, s.anchor = some cell → cell.IsInside rows columns
  selection : m.selection.Fits rows columns R

variable {s s' : CellSelection α} {m m' : Model α σ} {cell : CellPlace}

omit [Pixel α] [DataSource σ] in
theorem fits_rangeTo {start stop : CellPlace} (hstart : start.IsInside rows columns)
    (hstop : stop.IsInside rows columns) :
  (rangeTo start stop).Fits rows columns R
  := Range.fits_cells hstart.row_lt hstart.column_lt hstop.row_lt hstop.column_lt

omit [Pixel α] in
theorem isInside_of_placeOf? {c : PointedCell α} (h : placeOf? c = some cell)
    (hc : c.cell.IsInside rows columns) :
  cell.IsInside rows columns
  := by
  rw [placeOf?] at h
  split at h
  case isTrue hdata =>
    obtain ⟨i, hi, rfl⟩ := Option.map_eq_some_iff.mp h
    exact ⟨hc.row_lt ((Bool.and_eq_true _ _).mp hdata).1, hc.shownIndex_lt hi⟩
  case isFalse => cases h

theorem isInside_of_nearestCell? {p : Point α} (h : nearestCell? m p = some cell)
    (hm : m.Spans rows columns) :
  cell.IsInside rows columns
  := by
  obtain ⟨column, -, h⟩ := Option.bind_eq_some_iff.mp h
  obtain ⟨row, -, h⟩ := Option.bind_eq_some_iff.mp h
  obtain ⟨hit, hhit, h⟩ := Option.bind_eq_some_iff.mp h
  split at h
  case isTrue hband =>
    obtain ⟨i, hi, h⟩ := Option.bind_eq_some_iff.mp h
    obtain rfl := Option.some.inj h
    constructor
    case row_lt =>
      rw [← hm.rowCount_eq]
      apply hm.coherent.row_lt_of_cellAt? hhit hband
    case column_lt =>
      rw [← hm.shownCount_eq]
      apply hm.coherent.hasPlacedColumns.shownIndex_lt_of_cellAt? hhit hi
  case isFalse => cases h

omit [Pixel α] [DataSource σ] in
/-- A step leads to an index of the table if there is one. -/
theorem step_lt {count : Nat} (hcount : 0 < count) (index : Nat) (delta : Int) (toEdge : Bool) :
  step index delta count toEdge < count
  := by
  rw [step]
  split
  · omega
  · split
    · split
      · omega
      · omega
    · omega

namespace IsInside

omit [Pixel α] [DataSource σ] in
theorem extendTo (h : s.IsInside rows columns R m) (hcell : cell.IsInside rows columns) :
  (s.extendTo m cell).1.IsInside rows columns R (s.extendTo m cell).2
  := by
  rw [CellSelection.extendTo]
  split
  case h_1 => apply h
  case h_2 anchor hanchor =>
    refine ⟨h.anchor, ?_⟩
    dsimp only
    split
    · apply h.selection
    · apply h.selection.extendLast (fits_rangeTo (h.anchor anchor hanchor) hcell)

omit [Pixel α] [DataSource σ] in
theorem extendTo? (h : s.IsInside rows columns R m) {cell? : Option CellPlace}
    (hcell : ∀ cell, cell? = some cell → cell.IsInside rows columns) :
  (s.extendTo? m cell?).1.IsInside rows columns R (s.extendTo? m cell?).2
  := by
  cases cell? with
  | none => apply h
  | some cell => apply h.extendTo (hcell cell rfl)

/-- What is selected stays where it is when the grid is scrolled. -/
theorem scrolls (h : s.IsInside rows columns R m) (hm : m.Scrolls m') :
  s.IsInside rows columns R m'
  := by
  refine ⟨h.anchor, ?_⟩
  rw [hm.selection_eq]
  apply h.selection

theorem scrollStep {t : GridTurn α σ} (h : s.IsInside rows columns R t.model)
    (ht : t.model.Spans rows columns) (left top : Int) :
  (s.scrollStep left top t).1.IsInside rows columns R (s.scrollStep left top t).2.model
  := by
  rw [CellSelection.scrollStep]
  split
  case h_1 => exact ⟨h.anchor, h.selection⟩
  case h_2 m hscroll =>
    have hscrolled := Scrolls.of_scrollBy? hscroll
    have hreached : (s.extendTo? m (s.pointer.bind (nearestCell? m))).1.IsInside rows columns R
        (s.extendTo? m (s.pointer.bind (nearestCell? m))).2 := by
      apply (h.scrolls hscrolled).extendTo?
      intro cell hcell
      obtain ⟨p, -, hnearest⟩ := Option.bind_eq_some_iff.mp hcell
      apply isInside_of_nearestCell? hnearest (ht.acts hscrolled)
    exact ⟨hreached.anchor, hreached.selection⟩

theorem dragScroll {t : GridTurn α σ} (h : s.IsInside rows columns R t.model)
    (ht : t.model.Spans rows columns) (p : Point α) :
  (s.dragScroll p t).1.IsInside rows columns R (s.dragScroll p t).2.model
  := by
  rw [CellSelection.dragScroll]
  split
  case h_1 => exact ⟨h.anchor, h.selection⟩
  case h_2 =>
    split
    · apply h
    · apply h.scrollStep ht

omit [Pixel α] [DataSource σ] in
theorem press (h : s.IsInside rows columns R m) (e : PointerEvent α)
    (hcell : cell.IsInside rows columns) :
  (s.press e cell m).1.IsInside rows columns R (s.press e cell m).2
  := by
  fun_cases s.press e cell m
  case case1 anchor hanchor _ =>
    exact ⟨h.anchor, h.selection.extendLast (fits_rangeTo (h.anchor anchor hanchor) hcell)⟩
  case case2 =>
    refine ⟨?_, h.selection.push (fits_rangeTo hcell hcell) _⟩
    rintro _ ⟨⟩
    apply hcell

omit [Pixel α] [DataSource σ] in
theorem selectCell (h : s.IsInside rows columns R m) (hcell : cell.IsInside rows columns) :
  (s.selectCell m cell).1.IsInside rows columns R (s.selectCell m cell).2
  := by
  constructor
  case anchor =>
    rintro _ ⟨⟩
    apply hcell
  case selection =>
    rw [CellSelection.selectCell, Model.selection_selectIfNew]
    apply h.selection.push (fits_rangeTo hcell hcell)

/-- A key steps to a cell of the table, wherever it steps from. -/
theorem stepOn (h : s.IsInside rows columns R m) (hm : m.Spans rows columns) (hrows : 0 < rows)
    (hcolumns : 0 < columns) (start : CellPlace) (delta : Int × Int) (modifiers : Modifiers) :
  (s.stepOn m start delta modifiers).1.IsInside rows columns R (s.stepOn m start delta modifiers).2
  := by
  rw [CellSelection.stepOn, hm.rowCount_eq, hm.shownCount_eq]
  have hnext : CellPlace.IsInside rows columns
      ⟨step start.row delta.1 rows modifiers.toggle,
        step start.column delta.2 columns modifiers.toggle⟩ :=
    ⟨step_lt hrows _ _ _, step_lt hcolumns _ _ _⟩
  dsimp only
  split
  · apply (h.extendTo hnext).scrolls (scrolls_reveal _ _)
  · apply (h.selectCell hnext).scrolls (scrolls_reveal _ _)

theorem of_selectAll? (h : s.IsInside rows columns R m) (hm : m.Spans rows columns)
    (hall : s.selectAll? m = some (s', m')) :
  s'.IsInside rows columns R m'
  := by
  rw [selectAll?, hm.rowCount_eq, hm.shownCount_eq] at hall
  split at hall
  case isTrue => cases hall
  case isFalse hsome =>
    obtain ⟨rfl, rfl⟩ := Option.some.inj hall
    have hrows : 0 < rows := by omega
    have hcolumns : 0 < columns := by omega
    have hfirst : (⟨0, 0⟩ : CellPlace).IsInside rows columns := ⟨hrows, hcolumns⟩
    have hlast : (⟨rows - 1, columns - 1⟩ : CellPlace).IsInside rows columns :=
      ⟨Nat.sub_one_lt_of_lt hrows, Nat.sub_one_lt_of_lt hcolumns⟩
    constructor
    case anchor =>
      rintro _ ⟨⟩
      apply hfirst
    case selection => apply h.selection.push (fits_rangeTo hfirst hlast)

theorem of_key? (h : s.IsInside rows columns R m) (hm : m.Spans rows columns) {e : KeyEvent}
    (hkey : s.key? e m = some (s', m')) :
  s'.IsInside rows columns R m'
  := by
  rw [key?] at hkey
  split at hkey
  · split at hkey
    · cases hkey
    · obtain ⟨rfl, rfl⟩ := Option.some.inj hkey
      refine ⟨?_, Selection.Fits.empty⟩
      rintro _ ⟨⟩
  · split at hkey
    · split at hkey
      · apply h.of_selectAll? hm hkey
      · cases hkey
    · obtain ⟨delta, -, hkey⟩ := Option.bind_eq_some_iff.mp hkey
      obtain ⟨start, hstart, hkey⟩ := Option.bind_eq_some_iff.mp hkey
      rw [steppingFrom?, hm.rowCount_eq, hm.shownCount_eq] at hstart
      split at hstart
      case isTrue => cases hstart
      case isFalse hsome =>
        have hstepped := h.stepOn hm (by omega) (by omega) start delta e.modifiers
        rw [Option.some.inj hkey] at hstepped
        apply hstepped

theorem handle {input : Input α} {t : GridTurn α σ} (h : s.IsInside rows columns R t.model)
    (ht : t.model.Spans rows columns) (hinput : input.IsInside rows columns) :
  (s.handle input t).state.IsInside rows columns R (s.handle input t).turn.model
  := by
  unfold CellSelection.handle
  split
  case h_1 e =>
    split
    case h_1 => apply h
    case h_2 cell hcell =>
      split at hcell
      case isTrue =>
        obtain ⟨c, hc, hplace⟩ := Option.bind_eq_some_iff.mp hcell
        apply h.press e (isInside_of_placeOf? hplace (hinput c hc))
      case isFalse => cases hcell
  case h_2 e =>
    split
    case isTrue => apply h
    case isFalse =>
      have hpointed : { s with pointer := some e.point }.IsInside rows columns R t.model :=
        ⟨h.anchor, h.selection⟩
      have hscrolled := hpointed.dragScroll ht e.point
      apply hscrolled.extendTo?
      intro cell hcell
      obtain hplace | ⟨-, hnearest⟩ := Option.or_eq_some_iff.mp hcell
      · obtain ⟨c, hc, hplace⟩ := Option.bind_eq_some_iff.mp hplace
        apply isInside_of_placeOf? hplace (hinput c hc)
      · apply isInside_of_nearestCell? hnearest
        apply ht.acts (roams_dragScroll _ _ _)
  case h_3 =>
    split
    · exact ⟨h.anchor, h.selection⟩
    · exact ⟨h.anchor, h.selection⟩
  case h_4 =>
    split
    case h_1 => apply h
    case h_2 s' m' hkey => apply h.of_key? ht hkey
  case h_5 => apply h

theorem fire {t : GridTurn α σ} (h : s.IsInside rows columns R t.model)
    (ht : t.model.Spans rows columns) (timer : TimerToken) :
  (s.fire timer t).1.IsInside rows columns R (s.fire timer t).2.model
  := by
  rw [CellSelection.fire]
  split
  · apply h
  · apply h.scrollStep ht

end IsInside

/-- A press with the shift key on a data cell, where nothing is selected. -/
theorem selection_press {e : PointerEvent α} {t : GridTurn α σ} {start stop : CellPlace}
    (hstart : s.anchor = some start) (hshift : e.modifiers.shift = true)
    (hbutton : e.button = .primary) (hstop : e.cell?.bind placeOf? = some stop)
    (hs : t.model.selection = .empty) :
  (s.handle (.pointer .down e) t).turn.model.selection = ⟨[rangeTo start stop]⟩
  := by
  simp only [handle, hbutton, hstop, press, hshift, hstart]
  change t.model.selection.extendLast _ = _
  rw [hs]
  rfl

end CellSelection

/-! ### Features that select nothing -/

omit [Pixel α] [DataSource σ] in
theorem Hover.selection_handle (input : Input α) (t : GridTurn α σ) :
  (Hover.handle input t).turn.model.selection = t.model.selection
  := by
  fun_cases Hover.handle input t
  all_goals rfl

theorem ColumnFixation.selection_handle (s : ColumnFixation) (input : Input α)
    (t : GridTurn α σ) :
  (s.handle input t).turn.model.selection = t.model.selection
  := by
  fun_cases s.handle input t
  case case8 => apply Model.selection_setFixedColumns
  all_goals rfl

theorem RowFixation.selection_handle (s : RowFixation) (input : Input α) (t : GridTurn α σ) :
  (s.handle input t).turn.model.selection = t.model.selection
  := by
  fun_cases s.handle input t
  case case8 => apply Model.selection_setFixedRows
  all_goals rfl

namespace ColumnResizing

omit [DataSource σ] in
theorem selection_noteResize (m : Model α σ) (id : ColumnId) (before after : α) :
  (noteResize m id before after).selection = m.selection
  := by
  rw [noteResize]
  split
  · rfl
  · rfl

theorem selection_autosize (m : Model α σ) (id : ColumnId) :
  (autosize m id).selection = m.selection
  := by
  rw [autosize]
  split
  · dsimp only
    split
    · rw [selection_noteResize, Model.selection_setColumnWidth]
    · apply Model.selection_setColumnWidth
  · rfl

theorem selection_handle (s : ColumnResizing α) (input : Input α) (t : GridTurn α σ) :
  (s.handle input t).turn.model.selection = t.model.selection
  := by
  fun_cases s.handle input t
  case case6 | case11 => apply Model.selection_setColumnWidth
  case case8 =>
    simp only [Step.stop, Turn.modify]
    split
    · apply selection_noteResize
    · rfl
  case case10 => apply selection_autosize
  all_goals rfl

end ColumnResizing

theorem KeyPaging.selection_handle (input : Input α) (t : GridTurn α σ) :
  (KeyPaging.handle input t).turn.model.selection = t.model.selection
  := by
  unfold KeyPaging.handle
  split
  · split
    · next m hm =>
      split at hm
      · apply (scrolls_of_pageColumns? hm).selection_eq
      · apply (scrolls_of_pageRows? hm).selection_eq
    · rfl
  · rfl

omit [Pixel α] [DataSource σ] in
theorem ContextMenu.selection_handle (s : ContextMenu) (input : Input α) (t : GridTurn α σ) :
  (s.handle input t).turn.model.selection = t.model.selection
  := by
  fun_cases s.handle input t
  all_goals rfl

/-! ### All features -/

namespace BuiltIn

theorem selection_handle {f : BuiltIn α} (hf : f.selects = false) (input : Input α)
    (t : GridTurn α σ) :
  (f.handle input t).turn.model.selection = t.model.selection
  := by
  cases f with
  | hover => apply Hover.selection_handle
  | columnFixation s => apply s.selection_handle
  | rowFixation s => apply s.selection_handle
  | columnResizing s => apply s.selection_handle
  | keyPaging => apply KeyPaging.selection_handle
  | contextMenu s => apply s.selection_handle
  | rowSelection | columnSelection | columnMoving | cellSelection => cases hf

/-- A feature that does not select rows keeps the selection inside the table, with ranges of rows
only where there may be some, and goes on reaching from inside. -/
theorem inside_handle {f : BuiltIn α} {input : Input α} {t : GridTurn α σ}
    (hname : f.name ≠ "row_selection") (ht : t.model.Spans rows columns)
    (hinput : input.IsInside rows columns) (hf : f.ReachesInside rows columns)
    (hs : t.model.selection.Fits rows columns R) :
  (f.handle input t).feature.ReachesInside rows columns
    ∧ (f.handle input t).turn.model.selection.Fits rows columns R
  := by
  cases f with
  | rowSelection s => cases hname rfl
  | columnSelection s => apply s.inside_handle hinput hf hs
  | columnMoving s => exact ⟨trivial, ColumnMoving.fits_handle ht hs⟩
  | cellSelection s =>
    have hkept := CellSelection.IsInside.handle ⟨hf, hs⟩ ht hinput
    exact ⟨hkept.anchor, hkept.selection⟩
  | _ =>
    refine ⟨trivial, ?_⟩
    rw [selection_handle rfl]
    apply hs

/-- A timer keeps the selection inside as well. -/
theorem inside_fire {f : BuiltIn α} {t : GridTurn α σ} (ht : t.model.Spans rows columns)
    (hf : f.ReachesInside rows columns) (hs : t.model.selection.Fits rows columns R)
    (timer : TimerToken) :
  (f.fire timer t).feature.ReachesInside rows columns
    ∧ (f.fire timer t).turn.model.selection.Fits rows columns R
  := by
  cases f with
  | columnMoving s =>
    refine ⟨trivial, ?_⟩
    change (s.fire timer t).2.model.selection.Fits rows columns R
    rw [s.selection_fire]
    apply hs
  | cellSelection s =>
    have hkept := CellSelection.IsInside.fire ⟨hf, hs⟩ ht timer
    exact ⟨hkept.anchor, hkept.selection⟩
  | _ => exact ⟨hf, hs⟩

omit [Pixel α] in
/-- A new feature has nothing to reach from. -/
theorem reachesInside_of_mem_all {f : BuiltIn α} (hf : f ∈ all) (rows columns : Nat) :
  f.ReachesInside rows columns
  := by
  simp only [all, List.mem_cons, List.not_mem_nil, or_false] at hf
  obtain rfl | rfl | rfl | rfl | rfl | rfl | rfl | rfl | rfl | rfl := hf
  all_goals simp [ReachesInside, ColumnSelection.idle, RowSelection.idle, CellSelection.idle]

/-- A pointer on the first shown column, in the first row of a band. -/
def cornerCell (band : Band) : PointedCell α where
  cell :=
    { column := ⟨0, .shown 0, .data 0, Pixel.zero, Pixel.zero⟩
      row := ⟨0, 0, band, Pixel.zero, Pixel.zero⟩
      valueCell := ⟨.data 0, 0, band⟩ }
  offset := ⟨Pixel.zero, Pixel.zero⟩
  isColumnFixed := false
  isRowFixed := false

/-- The pointer with the primary button and the shift key, on the first shown column. -/
def cornerEvent (band : Band) : PointerEvent α :=
  ⟨⟨Pixel.zero, Pixel.zero⟩, .primary, ⟨true, false, false, false⟩, some (cornerCell band)⟩

/-- Where nothing is selected, what a feature may reach from is inside the table exactly if no input
makes it select something outside. -/
theorem reachesInside_iff {f : BuiltIn α} {t : GridTurn α σ} (ht : t.model.Spans rows columns)
    (hs : t.model.selection = .empty) (hrows : 0 < rows) (hcolumns : 0 < columns) :
  f.ReachesInside rows columns ↔ ∀ input : Input α, input.IsInside rows columns →
    (f.handle input t).turn.model.selection.IsInside rows columns
  := by
  have hempty (R : Prop) : t.model.selection.Fits rows columns R := by
    rw [hs]
    apply Selection.Fits.empty
  have hcorner (band : Band) : (cornerEvent band : PointerEvent α).IsInside rows columns := by
    rintro _ ⟨⟩
    constructor
    case row_lt =>
      intro _
      apply hrows
    case shownIndex_lt =>
      rintro _ ⟨⟩
      apply hcolumns
  constructor
  case mp =>
    intro hf input hinput
    cases f with
    | rowSelection s => apply (s.inside_handle hinput hf (hempty _)).2.isInside
    | _ => apply (inside_handle (by simp [name]) ht hinput hf (hempty True)).2.isInside
  case mpr =>
    intro hinside
    cases f with
    | rowSelection s =>
      intro hdragging row hrow
      have hdragged := hinside (.pointer .drag (cornerEvent .data)) (hcorner .data)
      have hselected : (s.handle (.pointer .drag (cornerEvent .data)) t).turn.model.selection
          = ⟨[.rows row 0]⟩ :=
        RowSelection.selection_drag hdragging hrow (c := cornerCell .data) rfl hs
      change (s.handle _ t).turn.model.selection.IsInside rows columns at hdragged
      rw [hselected] at hdragged
      apply (hdragged _ List.mem_cons_self).startRow_lt
      simp [Range.rows]
    | columnSelection s =>
      intro i hi
      have hpressed := hinside (.pointer .down (cornerEvent .header)) (hcorner .header)
      have hselected : (s.handle (.pointer .down (cornerEvent .header)) t).turn.model.selection
          = ⟨[.columns i 0]⟩ := ColumnSelection.selection_press hi rfl rfl hs
      change (s.handle _ t).turn.model.selection.IsInside rows columns at hpressed
      rw [hselected] at hpressed
      apply (hpressed _ List.mem_cons_self).startColumn_lt
      simp [Range.columns]
    | cellSelection s =>
      intro cell hcell
      have hpressed := hinside (.pointer .down (cornerEvent .data)) (hcorner .data)
      have hplace : (cornerEvent .data : PointerEvent α).cell?.bind CellSelection.placeOf?
          = some ⟨0, 0⟩ := rfl
      have hselected : (s.handle (.pointer .down (cornerEvent .data)) t).turn.model.selection
          = ⟨[.cells cell.row cell.column 0 0]⟩ :=
        CellSelection.selection_press hcell rfl rfl hplace hs
      change (s.handle _ t).turn.model.selection.IsInside rows columns at hpressed
      rw [hselected] at hpressed
      have hrange := hpressed _ List.mem_cons_self
      constructor
      case row_lt =>
        apply hrange.startRow_lt
        simp [Range.cells]
      case column_lt =>
        apply hrange.startColumn_lt
        simp [Range.cells]
    | _ => trivial

end BuiltIn

end DataGrid
