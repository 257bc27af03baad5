import Mathlib
import DataGrid.Grid.Call
import DataGrid.Proofs.Columns.Restore
import DataGrid.Proofs.Grid.Reachable
import DataGrid.Proofs.Scene.Painting
import DataGrid.Proofs.Table.Values

/-!
# What a grid paints lies apart

In a reachable grid over a table whose merged cells are tidy, the rectangles of painted cells lie
apart as long as no merged cell reaches over columns or rows that are scrolled out to others behind
them (`Grid.painted_apart`).
-/

namespace DataGrid

namespace Grid

/-- In a reachable grid over a table the scene is regular if its columns and rows have a size and its
merged cells are tidy. -/
theorem IsReachable.isRegular {g : Grid Rat Table (BuiltIn Rat)} (hg : g.IsReachable)
    (hcolumns : g.model.columns.IsReachable) (hnodup : g.model.columns.shown.Nodup)
    (hwidths : g.model.columns.HasPositiveWidths) (hheader : 0 < g.model.config.headerRowHeight)
    (hrow : 0 < g.model.config.rowHeight) (htidy : g.model.scene.HasTidyMerges g.model.rowCount)
    (hcovers : ∀ m : g.model.scene.LaidMerge, m.Covers m.index m.y) :
  g.model.scene.IsRegular g.model.viewport g.model.rowCount
  where
  layout_eq := (hg.isCoherent Table.rowCount_setValue).layout_eq
  isWellFormed := hcolumns.isWellFormed
  nodup := hnodup
  widths := hwidths
  header_pos := hheader
  row_pos := hrow
  tidy := htidy
  covers := hcovers
  span_eq := Table.span_of_hasSpans_eq_false

/-- The rectangles of painted cells lie apart if every merged cell whose top left is on the screen is
whole there, and if every merged cell on the screen begins there, only then.  A merged cell is whole
unless it reaches from the fixed columns or rows over some that are scrolled out. -/
theorem painted_apart {g : Grid Rat Table (BuiltIn Rat)} (hg : g.IsReachable)
    (hcolumns : g.model.columns.IsReachable) (hnodup : g.model.columns.shown.Nodup)
    (hwidths : g.model.columns.HasPositiveWidths) (hheader : 0 < g.model.config.headerRowHeight)
    (hrow : 0 < g.model.config.rowHeight) (htidy : g.model.scene.HasTidyMerges g.model.rowCount)
    (hcovers : ∀ m : g.model.scene.LaidMerge, m.Covers m.index m.y) :
  let s := g.model.scene
  let apart := s.painted.Pairwise fun c c' => c.bounds.Apart c'.bounds
  let fixedColumns := min s.config.fixedColumns s.columns.shownCount
  let fixedRows := min s.config.fixedRows g.model.rowCount
  ((∀ m : s.LaidMerge, m.IsOnScreen → m.IsWhole) → apart)
    ∧ ((∀ m : s.LaidMerge, (∃ b ∈ s.cells, m.Holds b) → m.IsOnScreen) →
      (apart ↔ ∀ m : s.LaidMerge, m.IsOnScreen → m.IsWhole))
    ∧ ∀ m : s.LaidMerge, m.IsOnScreen →
      (m.index + m.span.columns ≤ fixedColumns ∨ fixedColumns ≤ m.index
        ∨ g.model.viewport.scrollLeft = 0) →
      (m.y + m.span.rows ≤ fixedRows ∨ fixedRows ≤ m.y ∨ g.model.viewport.scrollTop = 0) →
      m.IsWhole
  := by
  intro s apart fixedColumns fixedRows
  have h := hg.isRegular hcolumns hnodup hwidths hheader hrow htidy hcovers
  refine ⟨h.pairwise_painted, ?_, fun m => h.isWhole_of_same_part⟩
  intro hanchored
  constructor
  · intro hapart m hm
    apply h.isWhole_of_pairwise hanchored hapart hm
  · apply h.pairwise_painted

/-- Four columns, the first two of them merged in the only row.  Some columns are fixed, and one of
those that scroll is scrolled out. -/
def scrolledMerge (fixed : Nat) : Grid Rat Table (BuiltIn Rat) :=
  let table := (Table.ofRows #[#[.text "a", .text "b", .text "c", .text "d"]]).setSpan 0 0 ⟨2, 1⟩
  (ofPipeline table (ColumnSchema.ofNames ["A", "B", "C", "D"]) Config.default
    (Pipeline.ofFeatures [])).run
      [.resizeViewport 340 100, .setFixedColumns fixed, .scrollTo 1 0]

section ScrolledMerge

variable {fixed : Nat} (hfixed : fixed = 1 ∨ fixed = 2)

include hfixed

theorem columns_scrolledMerge :
  (scrolledMerge fixed).model.columns
    = Columns.ofSchema (ColumnSchema.ofNames ["A", "B", "C", "D"]) Config.default
  := by
  obtain rfl | rfl := hfixed
  · cbv
  · cbv

theorem isReachable_scrolledMerge :
  (scrolledMerge fixed).IsReachable ∧ (scrolledMerge fixed).model.columns.IsReachable
  := by
  have hnames : Pipeline.ofNames (α := Rat) [] = .ok (Pipeline.ofFeatures []) := rfl
  constructor
  · apply IsReachable.run
    apply IsReachable.new _ _ _ hnames
  · rw [columns_scrolledMerge hfixed]
    apply Columns.IsReachable.ofSchema

theorem shown_scrolledMerge :
  (scrolledMerge fixed).model.columns.shown = [.data 0, .data 1, .data 2, .data 3]
  := by
  rw [columns_scrolledMerge hfixed]
  cbv

theorem eq_of_laidMerge_scrolledMerge (m : (scrolledMerge fixed).model.scene.LaidMerge) :
  m.index = 0 ∧ m.y = 0 ∧ m.cell = ⟨.data 0, 0, .data⟩ ∧ m.span = ⟨2, 1⟩
  := by
  have hspan : ∀ x y, DataSource.span (scrolledMerge fixed).model.scene.data x y
      = if 0 = x ∧ 0 = y then ⟨2, 1⟩ else .single := by
    have hdata : (scrolledMerge fixed).model.scene.data
        = (Table.ofRows #[#[.text "a", .text "b", .text "c", .text "d"]]).setSpan 0 0 ⟨2, 1⟩ := by
      obtain rfl | rfl := hfixed
      · cbv
      · cbv
    rw [hdata]
    intro x y
    apply Table.span_setSpan
  obtain ⟨index, x, y, hshown, hmerge⟩ := m
  rw [hspan] at hmerge
  split at hmerge
  · next hcell =>
    obtain ⟨rfl, rfl⟩ := hcell
    change (scrolledMerge fixed).model.columns.shown[index]? = some (.data 0) at hshown
    rw [shown_scrolledMerge hfixed] at hshown
    have hindex : index = 0 := by
      have hnodup : [ColumnId.data 0, .data 1, .data 2, .data 3].Nodup := by decide
      obtain ⟨hlt, -⟩ := List.getElem?_eq_some_iff.mp hshown
      apply (List.getElem?_inj hlt hnodup).mp hshown
    exact ⟨hindex, rfl, rfl, (hspan 0 0).trans (if_pos ⟨rfl, rfl⟩)⟩
  · cases hmerge

theorem nodup_scrolledMerge :
  (scrolledMerge fixed).model.columns.shown.Nodup
  := by
  rw [shown_scrolledMerge hfixed]
  decide

theorem hasPositiveWidths_scrolledMerge :
  (scrolledMerge fixed).model.columns.HasPositiveWidths
  := by
  rw [columns_scrolledMerge hfixed]
  apply Columns.hasPositiveWidths_ofSchema_default

theorem heights_pos_scrolledMerge :
  0 < (scrolledMerge fixed).model.config.headerRowHeight
    ∧ 0 < (scrolledMerge fixed).model.config.rowHeight
  := by
  have hheights : (scrolledMerge fixed).model.config.headerRowHeight = 24
      ∧ (scrolledMerge fixed).model.config.rowHeight = 20 := by
    obtain rfl | rfl := hfixed
    · constructor <;> cbv
    · constructor <;> cbv
  rw [hheights.1, hheights.2]
  decide

theorem hasTidyMerges_scrolledMerge :
  (scrolledMerge fixed).model.scene.HasTidyMerges (scrolledMerge fixed).model.rowCount
  := by
  have hlookback : (scrolledMerge fixed).model.scene.config.spanLookback = 8 := by
    obtain rfl | rfl := hfixed
    · cbv
    · cbv
  have hnodup : (scrolledMerge fixed).model.scene.columns.shown.Nodup := nodup_scrolledMerge hfixed
  apply Scene.hasTidyMerges_of_single hnodup
    fun m => (eq_of_laidMerge_scrolledMerge hfixed m).2.2
  · rw [hlookback]
    decide
  · rw [hlookback]
    decide

theorem covers_scrolledMerge (m : (scrolledMerge fixed).model.scene.LaidMerge) :
  m.Covers m.index m.y
  := by
  obtain ⟨-, -, -, hspan⟩ := eq_of_laidMerge_scrolledMerge hfixed m
  constructor
  · apply Nat.le_refl
  · rw [hspan]
    apply Nat.lt_add_of_pos_right (by decide)
  · apply Nat.le_refl
  · rw [hspan]
    apply Nat.lt_add_of_pos_right (by decide)

end ScrolledMerge

/-- The merged columns are both fixed, so painted cells lie apart although a column is scrolled
out. -/
theorem painted_apart_fixed :
  let g := scrolledMerge 2
  g.IsReachable ∧ g.model.columns.IsReachable ∧ g.model.columns.shown.Nodup
    ∧ g.model.columns.HasPositiveWidths ∧ 0 < g.model.config.headerRowHeight
    ∧ 0 < g.model.config.rowHeight ∧ g.model.scene.HasTidyMerges g.model.rowCount
    ∧ (∀ m : g.model.scene.LaidMerge, m.Covers m.index m.y)
    ∧ g.model.layout.columns.map (·.slot) = [.rowHandle, .shown 0, .shown 1, .shown 3]
    ∧ g.model.scene.painted.Pairwise fun c c' => c.bounds.Apart c'.bounds
  := by
  intro g
  have hfixed : 2 = 1 ∨ 2 = 2 := .inr rfl
  obtain ⟨hg, hcolumns⟩ := isReachable_scrolledMerge hfixed
  have hnodup := nodup_scrolledMerge hfixed
  have hwidths := hasPositiveWidths_scrolledMerge hfixed
  obtain ⟨hheader, hrow⟩ := heights_pos_scrolledMerge hfixed
  have htidy := hasTidyMerges_scrolledMerge hfixed
  have hcovers := covers_scrolledMerge hfixed
  obtain ⟨hapart, -, hwhole⟩ :=
    painted_apart hg hcolumns hnodup hwidths hheader hrow htidy hcovers
  refine ⟨hg, hcolumns, hnodup, hwidths, hheader, hrow, htidy, hcovers, ?_, hapart ?_⟩
  · cbv
  · intro m hm
    obtain ⟨hindex, -, -, hspan⟩ := eq_of_laidMerge_scrolledMerge hfixed m
    apply hwhole m hm
    · have hbound : min g.model.scene.config.fixedColumns g.model.scene.columns.shownCount = 2 := by
        cbv
      left
      rw [hbound, hindex, hspan]
      decide
    · have htop : g.model.viewport.scrollTop = 0 := by
        cbv
      exact .inr (.inr htop)

/-- The first of two merged columns is fixed and the second is scrolled out, so the merged cell is
painted over the column behind it. -/
theorem painted_overlap_scrolled :
  let g := scrolledMerge 1
  g.IsReachable ∧ g.model.columns.IsReachable ∧ g.model.columns.shown.Nodup
    ∧ g.model.columns.HasPositiveWidths ∧ 0 < g.model.config.headerRowHeight
    ∧ 0 < g.model.config.rowHeight ∧ g.model.scene.HasTidyMerges g.model.rowCount
    ∧ (∀ m : g.model.scene.LaidMerge, m.Covers m.index m.y)
    ∧ ¬ g.model.scene.painted.Pairwise fun c c' => c.bounds.Apart c'.bounds
  := by
  intro g
  have hfixed : 1 = 1 ∨ 1 = 2 := .inl rfl
  obtain ⟨hg, hcolumns⟩ := isReachable_scrolledMerge hfixed
  have hnodup := nodup_scrolledMerge hfixed
  have hwidths := hasPositiveWidths_scrolledMerge hfixed
  obtain ⟨hheader, hrow⟩ := heights_pos_scrolledMerge hfixed
  have htidy := hasTidyMerges_scrolledMerge hfixed
  have hcovers := covers_scrolledMerge hfixed
  refine ⟨hg, hcolumns, hnodup, hwidths, hheader, hrow, htidy, hcovers, ?_⟩
  have h := hg.isRegular hcolumns hnodup hwidths hheader hrow htidy hcovers
  have hslots : g.model.scene.layout.columns.map (·.slot)
      = [.rowHandle, .shown 0, .shown 2, .shown 3] := by
    cbv
  have hrows : g.model.scene.layout.rows.map (·.place) = [(.header, 0), (.data, 0)] := by
    cbv
  have hon : ∀ m : g.model.scene.LaidMerge, m.IsOnScreen := by
    intro m
    obtain ⟨hindex, hy, -⟩ := eq_of_laidMerge_scrolledMerge hfixed m
    rw [Scene.LaidMerge.IsOnScreen, hindex, hy, Layout.showsColumn_iff, Layout.showsRow_iff, hslots,
      hrows]
    decide
  have hshown : g.model.scene.columns.shown[0]? = some (.data 0) := by
    change g.model.columns.shown[0]? = _
    rw [shown_scrolledMerge hfixed]
    rfl
  have hspan : DataSource.span g.model.scene.data 0 0 = ⟨2, 1⟩ := by
    cbv
  let m : g.model.scene.LaidMerge := ⟨0, 0, 0, hshown, hspan ▸ rfl⟩
  intro hapart
  have hwhole := (h.isWhole_of_pairwise (fun m _ => hon m) hapart (hon m)).columns
  rw [(eq_of_laidMerge_scrolledMerge hfixed m).2.2.2] at hwhole
  change Axis.IsWhole g.model.scene.layout.ShowsColumn 0 2 at hwhole
  -- the second of the merged columns is not on the screen, and the one behind it is
  have hoff : ¬ g.model.scene.layout.ShowsColumn 1 := by
    rw [Layout.showsColumn_iff, hslots]
    decide
  have hbehind : g.model.scene.layout.ShowsColumn 2 := by
    rw [Layout.showsColumn_iff, hslots]
    decide
  apply Nat.lt_irrefl 2 (hwhole 1 (by decide) (by decide) hoff 2 hbehind)

end Grid

end DataGrid
