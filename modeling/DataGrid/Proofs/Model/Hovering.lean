import DataGrid.Input
import DataGrid.Proofs.Frame.Cells
import DataGrid.Proofs.Model.Deeds

/-!
# The hovered cell

Where nothing has a negative size, the hovered cell is the one that holds the pointer if it is the
one found under the pointer (`Model.hoversAt_of_pointed`).  Whatever lays the grid out anew leaves a
mark (`Model.Marks`), and no change of the columns or the settings touches the hovered cell.
-/

namespace DataGrid

variable {α σ : Type}

/-- A cell is on the screen. -/
def Layout.Shows (l : Layout α) (cell : GridCell) : Prop :=
  ∃ column ∈ l.columns, ∃ row ∈ l.rows, cell = ⟨column.slot, row.index⟩

namespace Model

/-! ### The cell under the pointer -/

section Pointed

variable [Pixel α] [DataSource σ] {m : Model α σ} {p : Point α} {cell : GridCell}

/-- The place on the grid of the cell that is found under a point. -/
def pointed? (m : Model α σ) (p : Point α) : Option GridCell :=
  (m.cellAt? p).map fun c => c.cell.gridCell

omit [Pixel α] [DataSource σ] in
/-- The hovered cell is on the screen. -/
def HoversOnScreen (m : Model α σ) : Prop := ∀ cell, m.hovered = some cell → m.layout.Shows cell

omit [DataSource σ] in
/-- The hovered cell is the one on the screen that holds a point, and there is none if no cell
holds the point. -/
def HoversAt (m : Model α σ) (p : Point α) : Prop :=
  ∀ cell, m.hovered = some cell
    ↔ ∃ column row, m.toFrame.Holds p column row ∧ cell = ⟨column.slot, row.index⟩

theorem pointed?_eq (m : Model α σ) (p : Point α) :
  m.pointed? p = (m.toFrame.cellAt? p).map fun hit => ⟨hit.column.slot, hit.row.index⟩
  := Option.map_map _ _ _

theorem pointed?_eq_some_iff :
  m.pointed? p = some cell
    ↔ ∃ hit, m.toFrame.cellAt? p = some hit ∧ cell = ⟨hit.column.slot, hit.row.index⟩
  := by
  rw [pointed?_eq, Option.map_eq_some_iff]
  apply exists_congr
  intro hit
  apply and_congr_right
  intro _
  exact eq_comm

/-- The cell that is found under a point is on the screen. -/
theorem shows_of_pointed? (h : m.pointed? p = some cell) :
  m.layout.Shows cell
  := by
  obtain ⟨hit, hhit, rfl⟩ := pointed?_eq_some_iff.mp h
  obtain ⟨hcolumn, hrow⟩ := Frame.mem_of_cellAt? hhit
  exact ⟨hit.column, hcolumn, hit.row, hrow, rfl⟩

/-- The cell that is found under a point is the one that holds it. -/
theorem hoversAt_of_pointed [OrderedPixel α] (hsizes : m.toFrame.HasSizes)
    (hplaced : m.toFrame.IsPlaced) (h : m.hovered = m.pointed? p) :
  m.HoversAt p
  := by
  intro cell
  rw [h, pointed?_eq_some_iff]
  constructor
  · rintro ⟨hit, hhit, hcell⟩
    exact ⟨_, _, (Frame.exists_cellAt?_iff hsizes hplaced).mp ⟨hit, hhit, rfl, rfl⟩, hcell⟩
  · rintro ⟨column, row, hholds, hcell⟩
    obtain ⟨hit, hhit, rfl, rfl⟩ := (Frame.exists_cellAt?_iff hsizes hplaced).mpr hholds
    exact ⟨hit, hhit, hcell⟩

omit [DataSource σ] in
/-- No hovered cell is right where no cell holds the point, and only there. -/
theorem hoversAt_iff_of_hovered_eq_none (h : m.hovered = none) :
  m.HoversAt p ↔ ∀ column row, ¬ m.toFrame.Holds p column row
  := by
  constructor
  · intro hover column row hholds
    cases h.symm.trans ((hover ⟨column.slot, row.index⟩).mpr ⟨column, row, hholds, rfl⟩)
  · intro hnone cell
    constructor
    · intro hcell
      cases h.symm.trans hcell
    · rintro ⟨column, row, hholds, -⟩
      cases hnone column row hholds

end Pointed

/-! ### The mark of a new layout -/

/-- The grid has been laid out anew and the mark of it is there, or the layout is the same. -/
inductive Marks (m m' : Model α σ) : Prop where
  | relaid (relaid_eq : m'.relaid = true)
  | same (relaid_eq : m'.relaid = m.relaid) (layout_eq : m'.layout = m.layout)

namespace Marks

variable {m m' m'' : Model α σ}

theorem refl (m : Model α σ) :
  m.Marks m
  := .same rfl rfl

theorem trans (h : m.Marks m') (h' : m'.Marks m'') :
  m.Marks m''
  := by
  cases h' with
  | relaid relaid_eq => exact .relaid relaid_eq
  | same relaid_eq layout_eq =>
    cases h with
    | relaid relaid_eq' => exact .relaid (relaid_eq.trans relaid_eq')
    | same relaid_eq' layout_eq' =>
      exact .same (relaid_eq.trans relaid_eq') (layout_eq.trans layout_eq')

end Marks

variable [Pixel α] [DataSource σ] {m m' : Model α σ}

omit [Pixel α] [DataSource σ] in
theorem Marks.of_relaid_or_eq (h : m'.relaid = true ∨ m' = m) :
  m.Marks m'
  := by
  obtain hrelaid | rfl := h
  · exact .relaid hrelaid
  · exact .refl m'

theorem relaid_or_eq_setFixedColumns (m : Model α σ) (count : Nat) :
  (m.setFixedColumns count).relaid = true ∨ m.setFixedColumns count = m
  := by
  rw [setFixedColumns]
  dsimp only
  split
  · exact .inr rfl
  · exact .inl rfl

theorem relaid_or_eq_setFixedRows (m : Model α σ) (count : Nat) :
  (m.setFixedRows count).relaid = true ∨ m.setFixedRows count = m
  := by
  rw [setFixedRows]
  dsimp only
  split
  · exact .inr rfl
  · exact .inl rfl

theorem relaid_or_eq_setColumnWidth (m : Model α σ) (id : ColumnId) (width : α) :
  (m.setColumnWidth id width).relaid = true ∨ m.setColumnWidth id width = m
  := by
  rw [setColumnWidth]
  split
  · exact .inl rfl
  · exact .inr rfl

theorem relaid_or_eq_moveColumns (m : Model α σ) (start count target : Nat) :
  ((m.moveColumns? start count target).getD m).relaid = true
    ∨ (m.moveColumns? start count target).getD m = m
  := by
  rw [moveColumns?]
  cases m.columns.move? start count target with
  | none => exact .inr rfl
  | some columns => exact .inl rfl

theorem relaid_or_eq_scrollBy (m : Model α σ) (columns rows : Int) :
  (m.scrollBy columns rows).relaid = true ∨ m.scrollBy columns rows = m
  := by
  rw [scrollBy, scrollBy?]
  split
  · exact .inl rfl
  · exact .inr rfl

theorem marks_act (m : Model α σ) (d : Deed α) :
  m.Marks (m.act d)
  := by
  cases d with
  | scroll left top => exact .relaid rfl
  | draw | hover | select | noteResize | askForMenu => exact .same rfl rfl
  | resize id width => exact .of_relaid_or_eq (relaid_or_eq_setColumnWidth m id width)
  | fixColumns count => exact .of_relaid_or_eq (relaid_or_eq_setFixedColumns m count)
  | fixRows count => exact .of_relaid_or_eq (relaid_or_eq_setFixedRows m count)
  | move start count target => exact .of_relaid_or_eq (relaid_or_eq_moveColumns m start count target)

/-- All that features do leaves the mark. -/
theorem Acts.marks {may : Deed α → Prop} (h : m.Acts may m') :
  m.Marks m'
  := by
  apply h.keeps (M := m.Marks) _ (.refl m)
  intro m' d _ ih
  apply ih.trans (marks_act m' d)

/-- The layout goes on belonging to the model. -/
theorem Tracks.isPlaced (h : m.Tracks m') (hm : m.toFrame.IsPlaced) :
  m'.toFrame.IsPlaced
  := by
  cases h with
  | relaid coherent => apply coherent.isPlaced
  | same frame data =>
    apply Frame.isPlaced_silent_iff.mp
    rw [frame]
    apply Frame.isPlaced_silent_iff.mpr hm

/-! ### What leaves the hovered cell alone -/

@[simp]
theorem hovered_setFixedColumns (m : Model α σ) (count : Nat) :
  (m.setFixedColumns count).hovered = m.hovered
  := by
  rw [setFixedColumns]
  dsimp only
  split <;> rfl

@[simp]
theorem hovered_setFixedRows (m : Model α σ) (count : Nat) :
  (m.setFixedRows count).hovered = m.hovered
  := by
  rw [setFixedRows]
  dsimp only
  split <;> rfl

theorem hovered_clampFixedColumns (m : Model α σ) :
  m.clampFixedColumns.hovered = m.hovered
  := by
  rw [clampFixedColumns]
  split
  · apply hovered_setFixedColumns
  · rfl

theorem hovered_clampFixedRows (m : Model α σ) :
  m.clampFixedRows.hovered = m.hovered
  := by
  rw [clampFixedRows]
  split
  · apply hovered_setFixedRows
  · rfl

/-- A table that is put in is not hovered. -/
theorem hovered_load (m : Model α σ) (data : σ) (schema : List ColumnSchema) :
  (m.load data schema).hovered = none
  := (hovered_clampFixedRows _).trans (hovered_clampFixedColumns _)

@[simp]
theorem hovered_setColumnWidth (m : Model α σ) (id : ColumnId) (width : α) :
  (m.setColumnWidth id width).hovered = m.hovered
  := by
  rw [setColumnWidth]
  split <;> rfl

omit [Pixel α] [DataSource σ] in
@[simp]
theorem hovered_selectIfNew (m : Model α σ) (s : Selection) :
  (m.selectIfNew s).hovered = m.hovered
  := by
  rw [selectIfNew]
  split <;> rfl

theorem hovered_of_moveColumns? {start count target : Nat}
    (h : m.moveColumns? start count target = some m') :
  m'.hovered = m.hovered
  := by
  obtain ⟨columns, -, rfl⟩ := Option.map_eq_some_iff.mp h
  apply hovered_selectIfNew

theorem Scrolls.hovered_eq (h : m.Scrolls m') :
  m'.hovered = m.hovered
  := by
  apply h.keeps (M := fun m' => m'.hovered = m.hovered) _ rfl
  intro m' d hd ih
  cases d with
  | scroll left top => apply ih
  | _ => cases hd

end Model

end DataGrid
