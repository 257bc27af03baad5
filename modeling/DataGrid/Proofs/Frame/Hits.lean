import Mathlib
import DataGrid.Proofs.Frame.Cells

/-!
# What is under a point

The columns and rows of a layout are searched by their left and upper edges.  With exact lengths, and
where nothing has a negative size, the search finds the only column and the only row that hold a
position, and finds none where there is none; a point is in a cell exactly if a column and a row hold
it, and then it is that cell which is found (`Frame.hitsExactly_compute`).
-/

namespace DataGrid

/-- A search gives the only one of some items that holds a position, and none where none does. -/
structure FindsOnly {β : Type} (items : List β) (low high : β → Rat) (find? : Rat → Option β) :
    Prop where
  some_iff : ∀ x b, find? x = some b ↔ b ∈ items ∧ low b ≤ x ∧ x < high b
  unique : ∀ x, ∀ a ∈ items, ∀ b ∈ items, low a ≤ x ∧ x < high a → low b ≤ x ∧ x < high b → a = b
  none_iff : ∀ x, find? x = none ↔ ∀ b ∈ items, ¬ (low b ≤ x ∧ x < high b)

namespace FindsOnly

variable {β : Type} {items : List β} {low high : β → Rat} {find? : Rat → Option β}

/-- A search has one answer, so what it finds is unique. -/
theorem of_some_iff (h : ∀ x b, find? x = some b ↔ b ∈ items ∧ low b ≤ x ∧ x < high b) :
  FindsOnly items low high find?
  := by
  constructor
  case some_iff => apply h
  case unique =>
    intro x a ha b hb hxa hxb
    apply Option.some.inj
    rw [← (h x a).mpr ⟨ha, hxa⟩, (h x b).mpr ⟨hb, hxb⟩]
  case none_iff =>
    intro x
    rw [Option.eq_none_iff_forall_ne_some]
    constructor
    · intro hnone b hb hx
      apply hnone b ((h x b).mpr ⟨hb, hx⟩)
    · intro hnone b hfound
      obtain ⟨hb, hx⟩ := (h x b).mp hfound
      apply hnone b hb hx

theorem isSome_iff (h : FindsOnly items low high find?) {x : Rat} :
  (find? x).isSome = true ↔ ∃ b ∈ items, low b ≤ x ∧ x < high b
  := by
  rw [Option.isSome_iff_exists]
  apply exists_congr
  intro b
  apply h.some_iff

end FindsOnly

namespace Hit

/-- The offset of a hit leads from the corner of the cell to a point inside it. -/
structure LeadsTo (hit : Hit Rat) (p : Point Rat) : Prop where
  x_bounds : 0 ≤ hit.offset.x ∧ hit.offset.x < hit.column.width
  y_bounds : 0 ≤ hit.offset.y ∧ hit.offset.y < hit.row.height
  x_eq : hit.column.left + hit.offset.x = p.x
  y_eq : hit.row.top + hit.offset.y = p.y

end Hit

namespace Frame

/-- Columns, rows and cells are found exactly where they are on the screen. -/
structure HitsExactly (f : Frame Rat) : Prop where
  columnAt? : FindsOnly f.layout.columns (·.left) (·.right) f.layout.columnAt?
  rowAt? : FindsOnly f.layout.rows (·.top) (·.bottom) f.layout.rowAt?
  isSome_cellAt?_iff : ∀ p, (f.cellAt? p).isSome = true
    ↔ (∃ column ∈ f.layout.columns, column.left ≤ p.x ∧ p.x < column.right)
      ∧ ∃ row ∈ f.layout.rows, row.top ≤ p.y ∧ p.y < row.bottom
  leadsTo : ∀ p hit, f.cellAt? p = some hit →
    hit.column ∈ f.layout.columns ∧ hit.row ∈ f.layout.rows ∧ hit.LeadsTo p

/-- Where columns and rows are found exactly, so are cells. -/
theorem hitsExactly_of_findsOnly {f : Frame Rat}
    (hcolumns : FindsOnly f.layout.columns (·.left) (·.right) f.layout.columnAt?)
    (hrows : FindsOnly f.layout.rows (·.top) (·.bottom) f.layout.rowAt?) :
  f.HitsExactly
  := by
  constructor
  case columnAt? => apply hcolumns
  case rowAt? => apply hrows
  case isSome_cellAt?_iff =>
    intro p
    rw [isSome_cellAt?, Bool.and_eq_true, hcolumns.isSome_iff, hrows.isSome_iff]
  case leadsTo =>
    intro p hit hhit
    obtain ⟨hcolumn, hrow, hoffset⟩ := eq_of_cellAt? hhit
    obtain ⟨hcolumn, hleft, hright⟩ := (hcolumns.some_iff _ _).mp hcolumn
    obtain ⟨hrow, htop, hbottom⟩ := (hrows.some_iff _ _).mp hrow
    rw [PlacedColumn.right] at hright
    rw [PlacedRow.bottom] at hbottom
    refine ⟨hcolumn, hrow, ?_⟩
    constructor <;> rw [hoffset]
    case x_bounds => constructor <;> linarith
    case y_bounds => constructor <;> linarith
    case x_eq => apply add_sub_cancel
    case y_eq => apply add_sub_cancel

/-- With exact lengths hit testing is exact on every layout in which no column is narrower and no row
lower than nothing. -/
theorem hitsExactly_compute {c : Columns Rat} (hwidths : c.HasWidths) {config : Config Rat}
    (hheader : 0 ≤ config.headerRowHeight) (hheight : 0 ≤ config.rowHeight) (v : Viewport Rat)
    (rowCount : Nat) {f : Frame Rat} (hf : f.layout = .compute c config v rowCount) :
  f.HitsExactly
  := by
  apply hitsExactly_of_findsOnly
  · rw [hf]
    apply FindsOnly.of_some_iff
    intro x column
    apply Layout.columnAt?_eq_some_iff hwidths
  · rw [hf]
    apply FindsOnly.of_some_iff
    intro y row
    apply Layout.rowAt?_eq_some_iff hheader hheight

/-- Behind a fixed column one column is scrolled out and the next one has no width, and the header
has no height: a point on the edge of the fixed column belongs to the column behind both. -/
theorem hitsExactly_compute_narrow :
  let c : Columns Rat :=
    { data := #[.ofName (.data 0) "A" 100 0, .ofName (.data 1) "B" 50 0,
        .ofName (.data 2) "C" 0 0, .ofName (.data 3) "D" 80 0]
      handle := .ofName .rowHandle "" 40 0
      tree := .ofName .tree "" 20 0
      shown := [.data 0, .data 1, .data 2, .data 3]
      notices := [] }
  let config : Config Rat := { Config.default with fixedColumns := 1, headerRowHeight := 0 }
  let v : Viewport Rat := ⟨1, 2, 300, 100⟩
  let f : Frame Rat := ⟨c, config, v, .compute c config v 10⟩
  c.HasWidths ∧ 0 ≤ config.headerRowHeight ∧ 0 ≤ config.rowHeight
    ∧ f.layout.columns.map (fun column => (column.slot, column.left, column.right))
      = [(.rowHandle, 0, 40), (.shown 0, 40, 140), (.shown 2, 140, 140), (.shown 3, 140, 220)]
    ∧ (f.cellAt? ⟨140, 0⟩).map
        (fun hit => (hit.column.slot, hit.row.row, hit.offset.x, hit.offset.y))
      = some (.shown 3, 2, 0, 0)
    ∧ f.HitsExactly
  := by
  intro c config v f
  have hwidths : c.HasWidths := by
    intro id d hd
    cases id with
    | rowHandle =>
      obtain rfl := Option.some.inj hd
      decide
    | tree =>
      obtain rfl := Option.some.inj hd
      decide
    | data i =>
      have hmem : d ∈ c.data := Array.mem_of_getElem? hd
      have hall : ∀ d ∈ c.data, 0 ≤ d.width := by decide
      apply hall d hmem
  have hheader : 0 ≤ config.headerRowHeight := le_refl 0
  have hheight : 0 ≤ config.rowHeight := by
    change (0 : Rat) ≤ 20
    decide
  refine ⟨hwidths, hheader, hheight, ?_, ?_, hitsExactly_compute hwidths hheader hheight v 10 rfl⟩
  · simp only [f, c, config, v]
    cbv
  · simp only [f, c, config, v]
    cbv

end Frame

end DataGrid
