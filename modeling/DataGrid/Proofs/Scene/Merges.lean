import DataGrid.Proofs.Layout.Lookup
import DataGrid.Scene

/-!
# Merged cells

A merged cell lies where the order of the shown columns puts it (`Scene.LaidMerge`).  A cell of the
screen finds the one it lies under by looking back over columns and rows.  If no two merged cells
share a cell and none is larger than the search goes back, then every cell takes its value from the
merged cell that holds it, and from itself if there is none (`Binding.FollowsMerges`).
-/

namespace DataGrid

variable {α σ : Type} [DataSource σ]

namespace Scene

/-- A merged cell at an index of the shown columns. -/
structure LaidMerge (s : Scene α σ) where
  index : Nat
  x : Nat
  y : Nat
  shown_eq : s.columns.shown[index]? = some (.data x)
  isMerge : (DataSource.span s.data x y).isMerge = true

namespace LaidMerge

variable {s : Scene α σ} (m : s.LaidMerge)

def span : Span := DataSource.span s.data m.x m.y

/-- The cell at the top left of a merged cell, which holds its value. -/
def cell : DataCell := ⟨.data m.x, m.y, .data⟩

/-- The merged cell lies over a row at an index of the shown columns. -/
structure Covers (i row : Nat) : Prop where
  index_le : m.index ≤ i
  lt_columns : i < m.index + m.span.columns
  y_le : m.y ≤ row
  lt_rows : row < m.y + m.span.rows

/-- A cell of the screen is part of the merged cell. -/
def Holds (b : Binding α) : Prop :=
  b.row.band = .data ∧ ∃ i, b.column.slot = .shown i ∧ m.Covers i b.row.row

/-- If no column is shown twice, a merged cell is where its cell at the top left is. -/
theorem eq_of_cell_eq (hnodup : s.columns.shown.Nodup) {m m' : s.LaidMerge}
    (h : m.cell = m'.cell) :
  m = m'
  := by
  obtain ⟨index, x, y, hshown, hmerge⟩ := m
  obtain ⟨index', x', y', hshown', hmerge'⟩ := m'
  obtain ⟨hx, hy, -⟩ := DataCell.mk.inj h
  obtain rfl : x = x' := ColumnId.data.inj hx
  obtain rfl : y = y' := hy
  obtain ⟨hlt, -⟩ := List.getElem?_eq_some_iff.mp hshown
  obtain rfl := (List.getElem?_inj hlt hnodup).mp (hshown.trans hshown'.symm)
  rfl

end LaidMerge

/-- No two merged cells share a cell of the grid, and none is larger than cells look back. -/
structure HasTidyMerges (s : Scene α σ) (rowCount : Nat) : Prop where
  disjoint : ∀ (m m' : s.LaidMerge) (i row : Nat), i < s.columns.shownCount → row < rowCount →
    m.Covers i row → m'.Covers i row → m = m'
  columns_le : ∀ m : s.LaidMerge, m.span.columns ≤ s.config.spanLookback + 1
  rows_le : ∀ m : s.LaidMerge, m.span.rows ≤ s.config.spanLookback + 1

/-- A single merged cell is tidy if it is not too large. -/
theorem hasTidyMerges_of_single {s : Scene α σ} (hnodup : s.columns.shown.Nodup) {cell : DataCell}
    {span : Span} (hsingle : ∀ m : s.LaidMerge, m.cell = cell ∧ m.span = span)
    (hcolumns : span.columns ≤ s.config.spanLookback + 1)
    (hrows : span.rows ≤ s.config.spanLookback + 1) (rowCount : Nat) :
  s.HasTidyMerges rowCount
  := by
  constructor
  case disjoint =>
    intro m m' _ _ _ _ _ _
    apply LaidMerge.eq_of_cell_eq hnodup ((hsingle m).1.trans (hsingle m').1.symm)
  case columns_le =>
    intro m
    rw [(hsingle m).2]
    apply hcolumns
  case rows_le =>
    intro m
    rw [(hsingle m).2]
    apply hrows

end Scene

namespace Binding

variable {s : Scene α σ} {i row rowCount : Nat}

/-! ### Looking back -/

theorem mem_steps {lookback : Nat} {step : Nat × Nat} :
  step ∈ steps lookback i row
    ↔ (step.1 ≤ lookback ∧ step.1 ≤ i) ∧ (step.2 ≤ lookback ∧ step.2 ≤ row)
      ∧ ¬ (step.1 = 0 ∧ step.2 = 0)
  := by
  obtain ⟨dx, dy⟩ := step
  rw [steps, List.mem_flatMap]
  constructor
  · rintro ⟨dy', hdy, hstep⟩
    obtain ⟨dx', hdx, hstep⟩ := List.mem_filterMap.mp hstep
    rw [List.mem_range] at hdx hdy
    split at hstep
    · cases hstep
    · next hne =>
      obtain ⟨rfl, rfl⟩ := Prod.mk.inj (Option.some.inj hstep)
      exact ⟨by omega, by omega, hne⟩
  · rintro ⟨hdx, hdy, hne⟩
    refine ⟨dy, List.mem_range.mpr (by omega), ?_⟩
    apply List.mem_filterMap.mpr
    refine ⟨dx, List.mem_range.mpr (by omega), ?_⟩
    rw [if_neg hne]

theorem ownerAt?_eq_some_iff {step : Nat × Nat} {cell : DataCell} :
  ownerAt? s i row step = some cell
    ↔ ∃ x, s.columns.shown[i - step.1]? = some (.data x)
      ∧ (step.1 < (DataSource.span s.data x (row - step.2)).columns
        ∧ step.2 < (DataSource.span s.data x (row - step.2)).rows)
      ∧ ⟨.data x, row - step.2, .data⟩ = cell
  := by
  simp only [ownerAt?, Option.bind_eq_some_iff, ColumnId.dataIndex?_eq_some,
    Option.ite_none_right_eq_some, Option.some.injEq, reaches, Bool.and_eq_true,
    decide_eq_true_eq]
  constructor
  · rintro ⟨x, ⟨_, hshown, rfl⟩, hreaches, hcell⟩
    exact ⟨x, hshown, hreaches, hcell⟩
  · rintro ⟨x, hshown, hreaches, hcell⟩
    exact ⟨x, ⟨_, hshown, rfl⟩, hreaches, hcell⟩

/-- What is found at a step back is a merged cell from there that lies over the cell. -/
theorem exists_laidMerge_of_ownerAt? {lookback : Nat} {step : Nat × Nat}
    (hstep : step ∈ steps lookback i row) {cell : DataCell}
    (h : ownerAt? s i row step = some cell) :
  ∃ m : s.LaidMerge, m.Covers i row ∧ ¬ (m.index = i ∧ m.y = row) ∧ m.cell = cell
  := by
  obtain ⟨⟨-, hdx⟩, ⟨-, hdy⟩, hne⟩ := mem_steps.mp hstep
  obtain ⟨x, hshown, ⟨hcolumns, hrows⟩, rfl⟩ := ownerAt?_eq_some_iff.mp h
  have hmerge : (DataSource.span s.data x (row - step.2)).isMerge = true := by
    rw [Span.isMerge, Bool.or_eq_true, decide_eq_true_eq, decide_eq_true_eq]
    omega
  let m : s.LaidMerge := ⟨i - step.1, x, row - step.2, hshown, hmerge⟩
  refine ⟨m, ?_, ?_, rfl⟩
  · constructor
    case index_le => apply Nat.sub_le
    case y_le => apply Nat.sub_le
    case lt_columns =>
      change i < i - step.1 + (DataSource.span s.data x (row - step.2)).columns
      omega
    case lt_rows =>
      change row < row - step.2 + (DataSource.span s.data x (row - step.2)).rows
      omega
  · change ¬ (i - step.1 = i ∧ row - step.2 = row)
    omega

/-- A merged cell over another cell is found at some step back from there if it is not too
large. -/
theorem ownerAt?_of_covers {m : s.LaidMerge} (h : m.Covers i row) :
  ownerAt? s i row (i - m.index, row - m.y) = some m.cell
  := by
  obtain ⟨hindex, hcolumns, hy, hrows⟩ := h
  apply ownerAt?_eq_some_iff.mpr
  refine ⟨m.x, ?_, ?_, ?_⟩
  · rw [Nat.sub_sub_self hindex]
    apply m.shown_eq
  · rw [Nat.sub_sub_self hy]
    exact ⟨Nat.sub_lt_left_of_lt_add hindex hcolumns, Nat.sub_lt_left_of_lt_add hy hrows⟩
  · rw [Nat.sub_sub_self hy]
    rfl

theorem mem_steps_of_covers {lookback : Nat} {m : s.LaidMerge} (h : m.Covers i row)
    (hne : ¬ (m.index = i ∧ m.y = row)) (hcolumns : m.span.columns ≤ lookback + 1)
    (hrows : m.span.rows ≤ lookback + 1) :
  (i - m.index, row - m.y) ∈ steps lookback i row
  := by
  obtain ⟨hindex, hlt, hy, hlt'⟩ := h
  apply mem_steps.mpr
  dsimp only
  omega

/-- The first merged cell that is found by looking back, whatever the table says of having any. -/
def searchOwner? (s : Scene α σ) (i row : Nat) : Option DataCell :=
  (steps s.config.spanLookback i row).findSome? (ownerAt? s i row)

theorem searchOwner?_eq_none (h : ∀ m : s.LaidMerge, ¬ m.Covers i row) :
  searchOwner? s i row = none
  := by
  apply List.findSome?_eq_none_iff.mpr
  intro step hstep
  cases howner : ownerAt? s i row step with
  | none => rfl
  | some cell =>
    obtain ⟨m, hm, -⟩ := exists_laidMerge_of_ownerAt? hstep howner
    exact absurd hm (h m)

/-- Looking back finds the merged cell that a cell lies under, whatever stands in between, unless
the cell is the one at its top left. -/
theorem searchOwner?_of_covers (htidy : s.HasTidyMerges rowCount) (hi : i < s.columns.shownCount)
    (hrow : row < rowCount) {m : s.LaidMerge} (hm : m.Covers i row) :
  searchOwner? s i row = if m.index = i ∧ m.y = row then none else some m.cell
  := by
  cases hsearch : searchOwner? s i row with
  | none =>
    -- a merged cell that begins elsewhere would have been found
    split
    · rfl
    · next hne =>
      have hstep := mem_steps_of_covers hm hne (htidy.columns_le m) (htidy.rows_le m)
      have hnone := List.findSome?_eq_none_iff.mp hsearch _ hstep
      rw [ownerAt?_of_covers hm] at hnone
      cases hnone
  | some cell =>
    -- what was found lies over the same cell, so it is this one
    obtain ⟨step, hstep, howner⟩ := List.exists_of_findSome?_eq_some hsearch
    obtain ⟨m', hm', hne, rfl⟩ := exists_laidMerge_of_ownerAt? hstep howner
    obtain rfl := htidy.disjoint m m' i row hi hrow hm hm'
    rw [if_neg hne]

/-- If a table that says it has no merged cells has none, looking back finds nothing more than what
a cell of the screen lies under. -/
theorem owner?_eq_searchOwner?
    (hspans : DataSource.hasSpans s.data = false → ∀ x y, DataSource.span s.data x y = .single)
    {column : PlacedColumn α} (hcolumn : column.slot = .shown i) {row : PlacedRow α}
    (hrow : row.band = .data) :
  owner? s column row = searchOwner? s i row.row
  := by
  rw [owner?]
  split
  · rw [hcolumn]
    rfl
  · next hnot =>
    have hnone : DataSource.hasSpans s.data = false := by
      rw [← Bool.not_eq_true]
      intro hsome
      apply hnot ⟨hrow, hsome⟩
    symm
    apply searchOwner?_eq_none
    intro m _
    have hmerge := m.isMerge
    rw [hspans hnone] at hmerge
    cases hmerge

/-! ### Where a cell takes its value from -/

/-- A cell of the screen goes along with the merged cells. -/
structure FollowsMerges (b : Binding α) (s : Scene α σ) : Prop where
  valueCell_of_holds : ∀ m : s.LaidMerge, m.Holds b → b.valueCell = m.cell
  valueCell_of_free : (∀ m : s.LaidMerge, ¬ m.Holds b) → b.valueCell = b.dataCell
  isCovered_iff : b.isCovered = true ↔ ∃ m : s.LaidMerge, m.Holds b ∧ m.cell ≠ b.dataCell
  /-- The cell at the top left of a merged cell does not lie under another one. -/
  isCovered_anchor : ∀ m : s.LaidMerge, 0 < m.span.columns → 0 < m.span.rows →
    m.cell = b.dataCell → b.isCovered = false

/-- Only data cells can lie under others. -/
theorem owner?_eq_none {column : PlacedColumn α} {row : PlacedRow α}
    (h : row.band ≠ .data ∨ column.slot.shownIndex? = none) :
  owner? s column row = none
  := by
  rw [owner?]
  split
  · next hdata =>
    obtain hband | hslot := h
    · exact absurd hdata.1 hband
    · rw [hslot]
      rfl
  · rfl

variable {column : PlacedColumn α} {placed : PlacedRow α}

theorem dataCell_ofPlaced :
  (ofPlaced s column placed).dataCell = ⟨column.id, placed.row, placed.band⟩
  := rfl

theorem valueCell_ofPlaced :
  (ofPlaced s column placed).valueCell
    = (owner? s column placed).getD (ofPlaced s column placed).dataCell
  := rfl

theorem holds_ofPlaced_iff {m : s.LaidMerge} :
  m.Holds (ofPlaced s column placed)
    ↔ placed.band = .data ∧ ∃ i, column.slot = .shown i ∧ m.Covers i placed.row
  := Iff.rfl

/-- A cell that a merged cell holds takes its value from there. -/
theorem valueCell_of_holds (htidy : s.HasTidyMerges rowCount)
    (hspans : DataSource.hasSpans s.data = false → ∀ x y, DataSource.span s.data x y = .single)
    (hid : ∀ i, column.slot = .shown i → s.columns.shown[i]? = some column.id)
    (hlt : placed.band = .data → placed.row < rowCount) {m : s.LaidMerge}
    (hm : m.Holds (ofPlaced s column placed)) :
  (ofPlaced s column placed).valueCell = m.cell
  := by
  obtain ⟨hband, i, hslot, hcovers⟩ := holds_ofPlaced_iff.mp hm
  have hi : i < s.columns.shownCount := (List.getElem?_eq_some_iff.mp (hid i hslot)).1
  have howner := owner?_eq_searchOwner? hspans hslot hband
  rw [searchOwner?_of_covers htidy hi (hlt hband) hcovers] at howner
  rw [valueCell_ofPlaced, howner]
  split
  · next hanchor =>
    obtain ⟨rfl, hy⟩ := hanchor
    have hx := Option.some.inj ((hid m.index hslot).symm.trans m.shown_eq)
    rw [Option.getD_none, dataCell_ofPlaced, hx, ← hy, hband, Scene.LaidMerge.cell]
  · rfl

/-- A cell that no merged cell holds keeps its value itself. -/
theorem valueCell_of_free
    (hspans : DataSource.hasSpans s.data = false → ∀ x y, DataSource.span s.data x y = .single)
    (hfree : ∀ m : s.LaidMerge, ¬ m.Holds (ofPlaced s column placed)) :
  (ofPlaced s column placed).valueCell = (ofPlaced s column placed).dataCell
  := by
  have hnone : owner? s column placed = none := by
    by_cases hband : placed.band = .data
    · cases hslot : column.slot with
      | rowHandle =>
        apply owner?_eq_none (.inr _)
        rw [hslot]
        rfl
      | tree =>
        apply owner?_eq_none (.inr _)
        rw [hslot]
        rfl
      | shown i =>
        rw [owner?_eq_searchOwner? hspans hslot hband]
        apply searchOwner?_eq_none
        intro m hm
        apply hfree m (holds_ofPlaced_iff.mpr ⟨hband, i, hslot, hm⟩)
    · apply owner?_eq_none (.inl hband)
  rw [valueCell_ofPlaced, hnone, Option.getD_none]

/-- Where the merged cells are tidy, every cell of the screen goes along with them. -/
theorem followsMerges_ofPlaced (htidy : s.HasTidyMerges rowCount)
    (hspans : DataSource.hasSpans s.data = false → ∀ x y, DataSource.span s.data x y = .single)
    (hid : column.slot.shownIndex? = none ∧ column.id.isSynthetic = true
      ∨ ∃ i, column.slot = .shown i ∧ s.columns.shown[i]? = some column.id)
    (hlt : placed.band = .data → placed.row < rowCount) :
  (ofPlaced s column placed).FollowsMerges s
  := by
  have hshown : ∀ i, column.slot = .shown i → s.columns.shown[i]? = some column.id := by
    intro i hslot
    obtain ⟨hnone, -⟩ | ⟨j, hj, hid⟩ := hid
    · rw [hslot] at hnone
      cases hnone
    · obtain rfl := Slot.shown.inj (hslot.symm.trans hj)
      apply hid
  have holds {m : s.LaidMerge} (hm : m.Holds (ofPlaced s column placed)) :=
    valueCell_of_holds htidy hspans hshown hlt hm
  constructor
  case valueCell_of_holds =>
    intro m hm
    apply holds hm
  case valueCell_of_free => apply valueCell_of_free hspans
  case isCovered_iff =>
    rw [isCovered, decide_eq_true_iff]
    constructor
    · intro hne
      by_contra hnot
      apply hne
      by_cases hfree : ∀ m : s.LaidMerge, ¬ m.Holds (ofPlaced s column placed)
      · apply valueCell_of_free hspans hfree
      · obtain ⟨m, hm⟩ := not_forall_not.mp hfree
        rw [holds hm]
        by_contra hcell
        apply hnot ⟨m, hm, hcell⟩
    · rintro ⟨m, hm, hne⟩
      rw [holds hm]
      apply hne
  case isCovered_anchor =>
    intro m hcolumns hrows hcell
    rw [dataCell_ofPlaced] at hcell
    obtain ⟨hx, hy, hband⟩ := DataCell.mk.inj hcell
    obtain ⟨-, hsynthetic⟩ | ⟨i, hslot, hid⟩ := hid
    · rw [← hx] at hsynthetic
      cases hsynthetic
    · -- the same merged cell at the index at which the cell of the screen stands
      let m' : s.LaidMerge := ⟨i, m.x, m.y, hx ▸ hid, m.isMerge⟩
      have hm' : m'.Holds (ofPlaced s column placed) := by
        apply holds_ofPlaced_iff.mpr
        refine ⟨hband.symm, i, hslot, ?_⟩
        rw [← hy]
        exact ⟨Nat.le_refl i, Nat.lt_add_of_pos_right hcolumns, Nat.le_refl m.y,
          Nat.lt_add_of_pos_right hrows⟩
      rw [isCovered, decide_eq_false_iff_not, not_not, holds hm']
      apply hcell

end Binding

end DataGrid
