import DataGrid.Input
import DataGrid.Proofs.Columns.Change
import DataGrid.Proofs.Columns.Positions
import DataGrid.Proofs.Frame.Edges
import DataGrid.Proofs.Model.Deeds
import DataGrid.Proofs.Selection.Inside

/-!
# Tables of a fixed size

No deed changes how many rows a table has or how many of its columns are shown (`Model.Spans`).
What is found under the pointer lies among them, and a move of columns keeps the selection there.
-/

namespace DataGrid

variable {α σ : Type} {rows columns : Nat} {R : Prop}

/-- The cell is in a row of the table, if it is a data cell, and in one of the shown columns, if it
is in one that has an index among them. -/
structure Binding.IsInside (rows columns : Nat) (b : Binding α) : Prop where
  row_lt : b.isDataRow = true → b.row.row < rows
  shownIndex_lt : ∀ {i : Nat}, b.shownIndex? = some i → i < columns

variable [Pixel α] [DataSource σ]

namespace Model

/-- The table has so many rows, so many of its columns are shown, and the grid is laid out for
them. -/
structure Spans (rows columns : Nat) (m : Model α σ) : Prop where
  rowCount_eq : m.rowCount = rows
  shownCount_eq : m.columns.shownCount = columns
  coherent : m.IsCoherent

variable {m m' : Model α σ} {start count target : Nat}

/-! ### Moved columns -/

/-- A move leads each shown column to another index of a shown one, and the selection follows. -/
theorem exists_positions_of_moveColumns? (h : m.moveColumns? start count target = some m') :
  m'.columns.shownCount = m.columns.shownCount
    ∧ ∃ p : Nat → Nat, (∀ i < m.columns.shownCount, p i < m.columns.shownCount)
      ∧ m'.selection = m.selection.remapColumns (Selection.positions m.columns.shownCount p)
  := by
  obtain ⟨columns, hmove, rfl⟩ := Option.map_eq_some_iff.mp h
  obtain ⟨shown, hrun, -⟩ := Option.bind_eq_some_iff.mp hmove
  obtain ⟨-, hfits, htarget⟩ := bounds_of_moveRun? hrun
  refine ⟨?_, movedIndex start count (landing start count target), ?_, ?_⟩
  · change (Model.selectIfNew _ _).columns.shownCount = _
    rw [toFrame_selectIfNew]
    apply (Columns.hasMoved_of_move? hmove).runMoved.perm.length_eq
  · intro i hi
    apply movedIndex_lt hfits (landing_le hfits htarget) hi
  · have hpositions : movedPositions? m.columns.shownCount start count target = some _ :=
      movedPositions?_of_moveRun? hrun
    change (Model.selectIfNew _ _).selection = _
    rw [selection_selectIfNew, hpositions]
    rfl

omit [Pixel α] [DataSource σ] in
theorem data_selectIfNew (m : Model α σ) (s : Selection) :
  (m.selectIfNew s).data = m.data
  := by
  rw [selectIfNew]
  split
  · rfl
  · rfl

/-! ### What no deed changes -/

theorem data_act (m : Model α σ) (d : Deed α) :
  (m.act d).data = m.data
  := by
  cases d with
  | scroll | draw | hover | select | noteResize | askForMenu => rfl
  | resize id width =>
    rw [act, setColumnWidth]
    split
    · rfl
    · rfl
  | fixColumns count =>
    rw [act, setFixedColumns]
    dsimp only
    split
    · rfl
    · rfl
  | fixRows count =>
    rw [act, setFixedRows]
    dsimp only
    split
    · rfl
    · rfl
  | move start count target =>
    rw [act]
    cases h : m.moveColumns? start count target with
    | none => rfl
    | some m' =>
      obtain ⟨columns, -, rfl⟩ := Option.map_eq_some_iff.mp h
      apply data_selectIfNew

theorem shownCount_act (m : Model α σ) (d : Deed α) :
  (m.act d).columns.shownCount = m.columns.shownCount
  := by
  cases d with
  | scroll | draw | hover | select | noteResize | askForMenu => rfl
  | resize id width =>
    rw [act, setColumnWidth]
    split
    · apply congrArg List.length (Columns.shown_modify _ _ _)
    · rfl
  | fixColumns count => rw [act, columns_setFixedColumns]
  | fixRows count => rw [act, columns_setFixedRows]
  | move start count target =>
    rw [act]
    cases h : m.moveColumns? start count target with
    | none => rfl
    | some m' => apply (exists_positions_of_moveColumns? h).1

namespace Spans

theorem act (h : m.Spans rows columns) (d : Deed α) :
  (m.act d).Spans rows columns
  := by
  constructor
  case rowCount_eq =>
    rw [rowCount, data_act]
    apply h.rowCount_eq
  case shownCount_eq =>
    rw [shownCount_act]
    apply h.shownCount_eq
  case coherent => apply (m.tracks_act d).isCoherent h.coherent

/-- Whatever features do, the table keeps its size. -/
theorem acts {may : Deed α → Prop} (h : m.Spans rows columns) (hacts : m.Acts may m') :
  m'.Spans rows columns
  := by
  apply hacts.keeps (M := fun m => m.Spans rows columns) _ h
  intro m d _ hm
  apply hm.act d

/-! ### What is found on the screen -/

/-- The cell under a point is one of the table. -/
theorem isInside_of_cellAt? (h : m.Spans rows columns) {p : Point α} {c : PointedCell α}
    (hc : m.cellAt? p = some c) :
  c.cell.IsInside rows columns
  := by
  obtain ⟨hit, hhit, rfl⟩ := Option.map_eq_some_iff.mp hc
  constructor
  case row_lt =>
    intro hrow
    rw [← h.rowCount_eq]
    apply h.coherent.row_lt_of_cellAt? hhit (of_decide_eq_true hrow)
  case shownIndex_lt =>
    intro i hi
    rw [← h.shownCount_eq]
    apply h.coherent.hasPlacedColumns.shownIndex_lt_of_cellAt? hhit hi

/-- A move of columns keeps the selection inside. -/
theorem fits_of_moveColumns? (h : m.Spans rows columns) (hs : m.selection.Fits rows columns R)
    (hmove : m.moveColumns? start count target = some m') :
  m'.selection.Fits rows columns R
  := by
  obtain ⟨-, p, hp, hselection⟩ := exists_positions_of_moveColumns? hmove
  rw [hselection]
  apply hs.remapColumns
  rw [← h.shownCount_eq]
  apply hp

end Spans

end Model

end DataGrid
