import Mathlib
import DataGrid.Proofs.Grid.Reachable
import DataGrid.Proofs.Scene.Merges
import DataGrid.Proofs.Scene.Spaces
import DataGrid.Proofs.Table.Values

/-!
# Merged cells act as one cell

A grid over a table whose merged cells are tidy treats each of them as one cell
(`Grid.merges_act_as_one`): all its parts show the value at its top left, and a value that is
written through any of them is stored there and nowhere else.
-/

namespace DataGrid

namespace Binding

variable {α σ : Type} [DataSource σ] {s : Scene α σ} {b : Binding α}

theorem isDataCell_iff :
  b.isDataCell = true ↔ b.row.band = .data ∧ ∃ x, b.column.id = .data x
  := by
  simp [isDataCell, isDataRow, isDataColumn, Option.isSome_iff_exists]

/-- A data cell reads what is stored where its value comes from. -/
theorem value_of_isDataCell (h : b.isDataCell = true) {x y : Nat}
    (hvalue : b.valueCell = ⟨.data x, y, .data⟩) (props : Properties) :
  b.value s props = DataSource.value s.data x y
  := by
  obtain ⟨hband, x', hid⟩ := isDataCell_iff.mp h
  simp only [value, hband, hid, hvalue]

/-- The value of a data cell comes from a data cell. -/
theorem exists_valueCell {column : PlacedColumn α} {row : PlacedRow α}
    (h : (ofPlaced s column row).isDataCell = true) :
  ∃ x y, (ofPlaced s column row).valueCell = ⟨.data x, y, .data⟩ ∧ y ≤ row.row
  := by
  obtain ⟨hband, x, hid⟩ := isDataCell_iff.mp h
  change row.band = .data at hband
  change column.id = .data x at hid
  cases howner : owner? s column row with
  | none =>
    refine ⟨x, row.row, ?_, Nat.le_refl _⟩
    rw [valueCell_ofPlaced, howner, Option.getD_none, dataCell_ofPlaced, hband, hid]
  | some cell =>
    have hcell : (ofPlaced s column row).valueCell = cell := by
      rw [valueCell_ofPlaced, howner, Option.getD_some]
    rw [owner?] at howner
    split at howner
    · obtain ⟨i, -, hsearch⟩ := Option.bind_eq_some_iff.mp howner
      obtain ⟨step, -, hat⟩ := List.exists_of_findSome?_eq_some hsearch
      obtain ⟨x', -, -, rfl⟩ := ownerAt?_eq_some_iff.mp hat
      exact ⟨x', row.row - step.2, hcell, Nat.sub_le _ _⟩
    · cases howner

end Binding

namespace Grid

variable {α φ : Type} [Pixel α]

/-- The grid `g'` is `g` after a value was written through a cell of the screen. -/
structure Wrote (g : Grid α Table φ) (b : Binding α) (v : CellValue) (g' : Grid α Table φ) :
    Prop where
  /-- Nothing but the table has changed. -/
  rest : g' = { g with model := { g.model with data := g'.model.data } }
  own : ∀ props,
    (Binding.ofPlaced g'.model.scene b.column b.row).value g'.model.scene props = v
  /-- Whatever is merged with the cell reads the value too. -/
  merged : ∀ m : g.model.scene.LaidMerge, m.Holds b →
    ∀ column ∈ g.model.layout.columns, ∀ row ∈ g.model.layout.rows,
      let b' := Binding.ofPlaced g'.model.scene column row
      m.Holds b' → ∀ props, b'.value g'.model.scene props = v
  /-- Every other position of the table reads as before. -/
  others : ∀ x y : Nat, ⟨.data x, y, .data⟩ ≠ b.valueCell →
    DataSource.value g'.model.data x y = DataSource.value g.model.data x y

variable {g : Grid α Table φ} {column : PlacedColumn α} {row : PlacedRow α}

/-- A value that is written through a cell of the screen is stored where the cell reads. -/
theorem setValue?_of_mem (hlayout : g.model.layout = .compute g.model.columns g.model.config
      g.model.viewport g.model.rowCount)
    (hcolumn : column ∈ g.model.layout.columns) (hrow : row ∈ g.model.layout.rows)
    {x y : Nat} (h : (Binding.ofPlaced g.model.scene column row).valueCell = ⟨.data x, y, .data⟩)
    (v : CellValue) :
  g.setValue? column.slot row.index v
    = some { g with model := { g.model with data := DataSource.setValue g.model.data x y v } }
  := by
  have hcell := Binding.ofGrid?_of_mem (s := g.model.scene) hlayout hcolumn hrow
  simp [setValue?, Cursor.toGrid?, hcell, Cursor.setValue?, Cursor.ofBinding, h]

/-- Nothing is written through a cell that no value is stored for. -/
theorem setValue?_eq_none (hlayout : g.model.layout = .compute g.model.columns g.model.config
      g.model.viewport g.model.rowCount)
    (hcolumn : column ∈ g.model.layout.columns) (hrow : row ∈ g.model.layout.rows)
    (h : ¬ ∃ x y, (Binding.ofPlaced g.model.scene column row).valueCell = ⟨.data x, y, .data⟩)
    (v : CellValue) :
  g.setValue? column.slot row.index v = none
  := by
  have hcell := Binding.ofGrid?_of_mem (s := g.model.scene) hlayout hcolumn hrow
  simp only [setValue?, Cursor.toGrid?, hcell, Cursor.setValue?, Cursor.ofBinding, Option.map_some,
    bind, Option.bind_some]
  split
  · next x hband hx =>
    apply absurd _ h
    refine ⟨x, (Binding.ofPlaced g.model.scene column row).valueCell.y, ?_⟩
    rw [← hx, ← hband]
  · rfl

omit [Pixel α] in
/-- The data cells of the screen are those of a data row in a shown column. -/
theorem isDataCell_iff_of_place {s : Scene α Table} (hc : s.columns.IsWellFormed)
    (hplace : column.slot.shownIndex? = none ∧ column.id.isSynthetic = true
      ∨ ∃ i, column.slot = .shown i ∧ s.columns.shown[i]? = some column.id) :
  (Binding.ofPlaced s column row).isDataCell = true
    ↔ row.band = .data ∧ ∃ i, column.slot = .shown i
  := by
  rw [Binding.isDataCell_iff]
  apply and_congr_right
  intro _
  change (∃ x, column.id = .data x) ↔ _
  obtain ⟨hnone, hsynthetic⟩ | ⟨i, hslot, hid⟩ := hplace
  · constructor
    · rintro ⟨x, hx⟩
      rw [hx] at hsynthetic
      cases hsynthetic
    · rintro ⟨i, hslot⟩
      rw [hslot] at hnone
      cases hnone
  · obtain ⟨x, -, hx⟩ := hc.exists_of_mem _ (List.mem_of_getElem? hid)
    constructor
    · rintro -
      exact ⟨i, hslot⟩
    · rintro -
      exact ⟨x, hx⟩

/-- Through a data cell a value is written to the cell itself and to all that is merged with it. -/
theorem exists_wrote (hlayout : g.model.layout = .compute g.model.columns g.model.config
      g.model.viewport g.model.rowCount)
    (hfollows : ∀ column ∈ g.model.layout.columns, ∀ row ∈ g.model.layout.rows,
      (Binding.ofPlaced g.model.scene column row).FollowsMerges g.model.scene)
    (hc : g.model.columns.IsWellFormed)
    (hcolumn : column ∈ g.model.layout.columns) (hrow : row ∈ g.model.layout.rows)
    (hdata : (Binding.ofPlaced g.model.scene column row).isDataCell = true) (v : CellValue) :
  ∃ g', g.setValue? column.slot row.index v = some g'
    ∧ g.Wrote (.ofPlaced g.model.scene column row) v g'
  := by
  obtain ⟨x, y, hvalue, hy⟩ := Binding.exists_valueCell hdata
  have hband := (Binding.isDataCell_iff.mp hdata).1
  have hlt : y < g.model.data.rows.size := by
    apply Nat.lt_of_le_of_lt hy
    rw [hlayout] at hrow
    apply Layout.row_lt_of_mem_rows hrow hband
  -- what lies under what stays as it is, so a data cell that takes its value from the same place
  -- reads what was stored there
  have hreads : ∀ column' row',
      (Binding.ofPlaced g.model.scene column' row').isDataCell = true →
      (Binding.ofPlaced g.model.scene column' row').valueCell = ⟨.data x, y, .data⟩ →
      ∀ props, (Binding.ofPlaced g.model.scene column' row').value
        { g.model.scene with data := DataSource.setValue g.model.data x y v } props = v := by
    intro column' row' hdata' hvalue' props
    rw [Binding.value_of_isDataCell hdata' hvalue']
    apply (Table.value_setValue hlt x x y v).trans
    rw [if_pos ⟨rfl, rfl⟩]
  refine ⟨_, setValue?_of_mem hlayout hcolumn hrow hvalue v, ?_⟩
  constructor
  case rest => rfl
  case own => apply hreads column row hdata hvalue
  case merged =>
    intro m hm column' hcolumn' row' hrow' b' hm'
    have hvalue' := (hfollows column' hcolumn' row' hrow').valueCell_of_holds m hm'
    rw [← (hfollows column hcolumn row hrow).valueCell_of_holds m hm, hvalue] at hvalue'
    apply hreads column' row' _ hvalue'
    rw [hlayout] at hcolumn'
    apply (isDataCell_iff_of_place hc (Layout.place_of_mem_columns hcolumn')).mpr
    obtain ⟨hband', i, hslot, -⟩ := Binding.holds_ofPlaced_iff.mp hm'
    exact ⟨hband', i, hslot⟩
  case others =>
    intro x' y' hne
    apply (Table.value_setValue hlt x x' y' v).trans
    apply if_neg
    rintro ⟨rfl, rfl⟩
    apply hne hvalue.symm

/-- In a grid over a table whose merged cells are tidy, every merged cell acts as one cell: each cell
of the screen goes along with the merged cells, a value that is written through a data cell is read
by all that is merged with it and changes nothing else, and no other cell can be written through.
What a table says of having merged cells only spares the search for them. -/
theorem merges_act_as_one {g : Grid α Table (BuiltIn α)} (hg : g.IsReachable)
    (hcolumns : g.model.columns.IsReachable)
    (hmerges : g.model.scene.HasTidyMerges g.model.rowCount) :
  ∀ column ∈ g.model.layout.columns, ∀ row ∈ g.model.layout.rows,
    let b := Binding.ofPlaced g.model.scene column row
    b.FollowsMerges g.model.scene
      ∧ (∀ i, column.slot = .shown i → row.band = .data →
        Binding.owner? g.model.scene column row = Binding.searchOwner? g.model.scene i row.row)
      ∧ (b.isDataCell = true → ∀ v, ∃ g', g.setValue? column.slot row.index v = some g'
        ∧ g.Wrote b v g')
      ∧ (b.isDataCell = false → ∀ v, g.setValue? column.slot row.index v = none)
  := by
  have hlayout := (hg.isCoherent Table.rowCount_setValue).layout_eq
  have hspans : DataSource.hasSpans g.model.scene.data = false →
      ∀ x y, DataSource.span g.model.scene.data x y = .single :=
    Table.span_of_hasSpans_eq_false
  have hfollows : ∀ column ∈ g.model.layout.columns, ∀ row ∈ g.model.layout.rows,
      (Binding.ofPlaced g.model.scene column row).FollowsMerges g.model.scene := by
    intro column hcolumn row hrow
    rw [hlayout] at hcolumn hrow
    apply Binding.followsMerges_ofPlaced hmerges hspans (Layout.place_of_mem_columns hcolumn)
    apply Layout.row_lt_of_mem_rows hrow
  intro column hcolumn row hrow b
  refine ⟨hfollows column hcolumn row hrow, ?_, ?_, ?_⟩
  · intro i hslot hband
    apply Binding.owner?_eq_searchOwner? hspans hslot hband
  · intro hdata v
    apply exists_wrote hlayout hfollows hcolumns.isWellFormed hcolumn hrow hdata
  · intro hdata v
    apply setValue?_eq_none hlayout hcolumn hrow
    rintro ⟨x, y, hvalue⟩
    have hplace := Layout.place_of_mem_columns (hlayout ▸ hcolumn)
    have hiff : b.isDataCell = true ↔ row.band = .data ∧ ∃ i, column.slot = .shown i :=
      isDataCell_iff_of_place hcolumns.isWellFormed hplace
    have hnot := mt hiff.mpr (Bool.eq_false_iff.mp hdata)
    -- no merged cell holds a cell that is not a data cell, so its value is its own
    rw [(hfollows column hcolumn row hrow).valueCell_of_free] at hvalue
    · obtain ⟨hid, -, hband⟩ := DataCell.mk.inj hvalue
      apply Bool.eq_false_iff.mp hdata (Binding.isDataCell_iff.mpr ⟨hband, x, hid⟩)
    · intro m hm
      obtain ⟨hband, i, hslot, -⟩ := Binding.holds_ofPlaced_iff.mp hm
      apply hnot ⟨hband, i, hslot⟩

/-- Two columns and two rows are merged, the second row is too short for that, and the last column
was moved to the front.  Through the cell at the bottom right of the merged cell a value gets to its
top left, and through the first cell of the short row one gets behind its end. -/
theorem merges_act_as_one_moved :
  let table := (Table.ofRows #[#[.text "a", .text "b", .text "c"], #[.text "d"]]).setSpan 0 0 ⟨2, 2⟩
  let g := ((ofPipeline (α := Rat) table (ColumnSchema.ofNames ["A", "B", "C"]) Config.default
    (Pipeline.ofFeatures [])).perform (.moveColumns 2 1 0)).grid
  g.IsReachable ∧ g.model.columns.IsReachable
    ∧ g.model.scene.HasTidyMerges g.model.rowCount
    ∧ g.model.columns.shown = [.data 2, .data 0, .data 1]
    ∧ (g.setValue? (.shown 2) 2 (.text "v")).map (·.model.data.rows)
      = some #[#[.text "v", .text "b", .text "c"], #[.text "d"]]
    ∧ (g.setValue? (.shown 0) 2 (.text "v")).map (·.model.data.rows)
      = some #[#[.text "a", .text "b", .text "c"], #[.text "d", .empty, .text "v"]]
    ∧ ∀ column ∈ g.model.layout.columns, ∀ row ∈ g.model.layout.rows,
      let b := Binding.ofPlaced g.model.scene column row
      b.FollowsMerges g.model.scene
        ∧ (∀ i, column.slot = .shown i → row.band = .data →
          Binding.owner? g.model.scene column row = Binding.searchOwner? g.model.scene i row.row)
        ∧ (b.isDataCell = true → ∀ v, ∃ g', g.setValue? column.slot row.index v = some g'
          ∧ g.Wrote b v g')
        ∧ (b.isDataCell = false → ∀ v, g.setValue? column.slot row.index v = none)
  := by
  intro table g
  have hnames : Pipeline.ofNames (α := Rat) [] = .ok (Pipeline.ofFeatures []) := rfl
  have hg : g.IsReachable := .perform _ (.new _ _ _ hnames)
  have hcolumns : g.model.columns.IsReachable := by
    have heq : g.model.columns
        = ((Columns.ofSchema (ColumnSchema.ofNames ["A", "B", "C"]) Config.default).apply
          (.move 2 1 0)).takeNotices.2 := by
      simp only [g, table]
      cbv
    rw [heq]
    exact .takeNotices (.apply _ (.ofSchema _ _))
  have hshown : g.model.columns.shown = [.data 2, .data 0, .data 1] := by
    simp only [g, table]
    cbv
  have hspan : ∀ x y, DataSource.span g.model.scene.data x y
      = if 0 = x ∧ 0 = y then ⟨2, 2⟩ else .single := by
    have hdata : g.model.scene.data = table := by
      simp only [g, table]
      cbv
    rw [hdata]
    intro x y
    apply Table.span_setSpan
  have hsingle : ∀ m : g.model.scene.LaidMerge,
      m.cell = ⟨.data 0, 0, .data⟩ ∧ m.span = ⟨2, 2⟩ := by
    rintro ⟨index, x, y, hindex, hmerge⟩
    rw [hspan] at hmerge
    split at hmerge
    · next hcell =>
      obtain ⟨rfl, rfl⟩ := hcell
      exact ⟨rfl, (hspan 0 0).trans (if_pos ⟨rfl, rfl⟩)⟩
    · cases hmerge
  have hlookback : g.model.scene.config.spanLookback = 8 := by
    simp only [g, table]
    cbv
  have hnodup : g.model.scene.columns.shown.Nodup := by
    change g.model.columns.shown.Nodup
    rw [hshown]
    decide
  have hmerges : g.model.scene.HasTidyMerges g.model.rowCount := by
    apply Scene.hasTidyMerges_of_single hnodup hsingle
    · rw [hlookback]
      decide
    · rw [hlookback]
      decide
  refine ⟨hg, hcolumns, hmerges, hshown, ?_, ?_, merges_act_as_one hg hcolumns hmerges⟩
  · simp only [g, table]
    cbv
  · simp only [g, table]
    cbv

end Grid

end DataGrid
