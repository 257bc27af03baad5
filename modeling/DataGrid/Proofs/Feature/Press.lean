import DataGrid.Proofs.Feature.Rest
import DataGrid.Proofs.Frame.Edges

/-!
# Presses

A feature at rest does one of three things with a press (`BuiltIn.Pressed`): it hands the press on
and stays at rest, it takes hold of columns and cuts off the features after it, or it takes the
press for something else.
-/

namespace DataGrid

variable {α σ : Type} [Pixel α] [DataSource σ]

/-! ### The column that is pressed -/

namespace ColumnMoving

omit [DataSource σ] in
/-- Draw columns that have just been taken hold of, and the bar where they are. -/
def showHeld (m : Model α σ) (d : ColumnDrag α) : Model α σ :=
  showDropBar (showFloater m d.floater) d.start

omit [Pixel α] [DataSource σ] in
/-- Which column a press takes hold of depends on the settings of the grid alone. -/
theorem pressed?_congr {m m' : Model α σ} (h : m'.config = m.config) (e : PointerEvent α) :
  pressed? m' e = pressed? m e
  := by
  rw [pressed?, pressed?, h]

omit [Pixel α] [DataSource σ] in
/-- What is pressed is a header cell of a column that can be moved and is not fixed. -/
theorem of_pressed? {m : Model α σ} {e : PointerEvent α} {c : PointedCell α} {column : Nat}
    (h : pressed? m e = some (c, column)) :
  e.button = .primary ∧ m.config.columnsReorderable = true ∧ e.cell? = some c
    ∧ c.cell.isHeaderCell = true ∧ c.isColumnFixed = false ∧ c.cell.shownIndex? = some column
  := by
  rw [pressed?] at h
  split at h
  case isFalse => cases h
  case isTrue hpress =>
    obtain ⟨hplain, hreorderable⟩ := Bool.and_eq_true_iff.mp hpress
    obtain ⟨hbutton, -⟩ := Bool.and_eq_true_iff.mp hplain
    obtain ⟨c', hc', h⟩ := Option.bind_eq_some_iff.mp h
    obtain ⟨i, hi, h⟩ := Option.map_eq_some_iff.mp h
    cases h
    obtain ⟨hcell, hheader⟩ := Option.filter_eq_some_iff.mp hc'
    obtain ⟨hheader, hfixed⟩ := Bool.and_eq_true_iff.mp hheader
    rw [Bool.not_eq_true'] at hfixed
    exact ⟨of_decide_eq_true hbutton, hreorderable, hcell, hheader, hfixed, hi⟩

end ColumnMoving

/-- A column that is pressed is on the screen. -/
theorem ColumnMoving.exists_column_of_pressed? {m : Model α σ} {e : PointerEvent α}
    {c : PointedCell α} {i : Nat} (he : e.cell? = m.cellAt? e.point)
    (h : pressed? m e = some (c, i)) :
  ∃ column ∈ m.layout.columns, column.slot = .shown i
  := by
  obtain ⟨-, -, hcell, -, -, hcolumn⟩ := of_pressed? h
  rw [he] at hcell
  obtain ⟨hit, hhit, rfl⟩ := Option.map_eq_some_iff.mp hcell
  obtain ⟨column, hmem, hhit⟩ := Option.bind_eq_some_iff.mp hhit
  obtain ⟨row, -, hhit⟩ := Option.bind_eq_some_iff.mp hhit
  obtain rfl := Option.some.inj hhit
  exact ⟨column, Layout.mem_of_columnAt? hmem, Slot.shownIndex?_eq_some.mp hcolumn⟩

/-- A column that is pressed is one of the shown columns and not one of the fixed ones. -/
theorem ColumnMoving.bounds_of_pressed? {m : Model α σ} (hm : m.toFrame.HasPlacedColumns)
    {e : PointerEvent α} {c : PointedCell α} {column : Nat} (he : e.cell? = m.cellAt? e.point)
    (h : pressed? m e = some (c, column)) :
  m.config.fixedColumns ≤ column ∧ column < m.columns.shownCount
  := by
  obtain ⟨-, -, hcell, hheader, hfixed, hcolumn⟩ := of_pressed? h
  rw [he] at hcell
  obtain ⟨hit, hhit, rfl⟩ := Option.map_eq_some_iff.mp hcell
  constructor
  · have hdata := (Bool.and_eq_true_iff.mp hheader).2
    change Binding.isColumnFixed _ m.scene = false at hfixed
    rw [Binding.isColumnFixed, hdata, hcolumn] at hfixed
    apply Nat.le_of_not_lt (of_decide_eq_false hfixed)
  · apply hm.shownIndex_lt_of_cellAt? hhit hcolumn

omit [Pixel α] [DataSource σ] in
/-- A press that can move a column selects it first. -/
theorem ColumnSelection.pressed?_of_moving {m : Model α σ} {e : PointerEvent α}
    {c : PointedCell α} {column : Nat} (h : ColumnMoving.pressed? m e = some (c, column)) :
  ColumnSelection.pressed? e = some column
  := by
  obtain ⟨hbutton, -, hcell, hheader, -, hcolumn⟩ := ColumnMoving.of_pressed? h
  simp only [ColumnSelection.pressed?, hbutton, if_true, hcell, Option.filter_some, hheader,
    Option.bind_some, hcolumn]

namespace BuiltIn

/-- What a feature may make of a press. -/
inductive Pressed (e : PointerEvent α) (t : GridTurn α σ)
    (r : Reply Flow (BuiltIn α) (Model α σ)) : Prop where
  /-- The press goes on. -/
  | passed (result : r.result = .ok .pass) (rest : r.feature.IsAtRest)
    (extending : (ColumnMoving.pressed? t.model e).isSome → r.feature.isExtending = false)
    (frame : r.turn.model.toFrame.silent = t.model.toFrame.silent)
    (timers : r.turn.timers = t.timers) (request : r.turn.request = t.request)
  /-- The feature holds columns, and those after it are cut off. -/
  | held {c : PointedCell α} {column : Nat}
    (pressed : ColumnMoving.pressed? t.model e = some (c, column)) (result : r.result = .ok .stop)
    (feature : r.feature = .columnMoving (.armed (ColumnMoving.grab t.model e c column)))
    (model_eq : r.turn.model
      = ColumnMoving.showHeld t.model (ColumnMoving.grab t.model e c column))
    (timers : r.turn.timers = t.timers)
    (request : r.turn.request = { t.request with detach := true })
  /-- The feature does something else with the press. -/
  | taken (result : r.result = .ok .stop) (drag : r.feature.columnDrag? = none)

namespace Pressed

omit [DataSource σ] in
/-- A feature that does nothing hands the press on. -/
theorem idle {e : PointerEvent α} {t : GridTurn α σ} {f : BuiltIn α} (h : f.IsAtRest)
    (hextending : f.isExtending = false) :
  Pressed e t ⟨.ok .pass, f, t⟩
  := by
  apply passed rfl h
  · intro _
    apply hextending
  · rfl
  · rfl
  · rfl

end Pressed

theorem IsAtRest.handle_down {f : BuiltIn α} (h : f.IsAtRest) (e : PointerEvent α)
    (t : GridTurn α σ) :
  Pressed e t (f.handle (.pointer .down e) t)
  := by
  cases h with
  | hover => apply Pressed.idle .hover rfl
  | columnFixation overHandle =>
    simp only [handle, ColumnFixation.handle]
    split
    · apply Pressed.taken rfl rfl
    · apply Pressed.idle (.columnFixation overHandle) rfl
  | rowFixation overHandle =>
    simp only [handle, RowFixation.handle]
    split
    · apply Pressed.taken rfl rfl
    · apply Pressed.idle (.rowFixation overHandle) rfl
  | columnResizing overDivider =>
    simp only [handle, ColumnResizing.handle]
    split
    · split
      · apply Pressed.taken rfl rfl
      · apply Pressed.idle (.columnResizing overDivider) rfl
    · apply Pressed.idle (.columnResizing overDivider) rfl
  | rowSelection anchor =>
    simp only [handle, RowSelection.handle]
    split
    · apply Pressed.idle (.rowSelection anchor) rfl
    · apply Pressed.taken rfl rfl
  | columnSelection s =>
    simp only [handle, ColumnSelection.handle]
    split
    case h_1 hpressed =>
      refine .passed rfl (.columnSelection s) ?_ rfl rfl rfl
      intro hmoving
      obtain ⟨⟨c, column⟩, hmoving⟩ := Option.isSome_iff_exists.mp hmoving
      rw [ColumnSelection.pressed?_of_moving hmoving] at hpressed
      cases hpressed
    case h_2 column hpressed =>
      refine .passed rfl (.columnSelection _) ?_ ?_ rfl rfl
      · intro hmoving
        obtain ⟨⟨c, column⟩, hmoving⟩ := Option.isSome_iff_exists.mp hmoving
        obtain ⟨-, hreorderable, -⟩ := ColumnMoving.of_pressed? hmoving
        change (!t.model.config.columnsReorderable) = false
        rw [hreorderable]
        rfl
      · apply congrArg Frame.silent (Model.toFrame_selectIfNew _ _)
  | columnMoving =>
    simp only [handle, ColumnMoving.handle]
    split
    case h_1 => apply Pressed.idle .columnMoving rfl
    case h_2 c column hpressed => apply Pressed.held hpressed rfl rfl rfl rfl rfl
  | cellSelection anchor focus pointer scroll =>
    simp only [handle, CellSelection.handle]
    split
    · apply Pressed.idle (.cellSelection anchor focus pointer scroll) rfl
    · apply Pressed.taken rfl rfl
  | keyPaging => apply Pressed.idle .keyPaging rfl
  | contextMenu s =>
    simp only [handle, ContextMenu.handle]
    split
    · apply Pressed.taken rfl rfl
    · apply Pressed.idle (.contextMenu _) rfl

end BuiltIn

end DataGrid
