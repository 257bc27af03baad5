import DataGrid.Proofs.Layout.Lookup
import DataGrid.Proofs.Pixel

/-!
# Columns and rows in order

On the screen each column ends before the next one begins, and so does each row, if nothing has a
negative size (`Layout.inOrder_columns`, `Layout.inOrder_rows`).  Every edge is where adding up the
sizes leads, however these sums are rounded, so this takes no exact lengths.
-/

namespace DataGrid

variable {α : Type} [Pixel α]

/-! ### Widths -/

namespace Columns

/-- No column has a width that is negative, or that is no number. -/
def HasLengths (c : Columns α) : Prop := ∀ id d, c.column? id = some d → Pixel.zero ≤ d.width

variable [LawfulPixel α] {c : Columns α}

theorem HasLengths.zero_le_of_mem_shownPlans (h : c.HasLengths) {scrolls : Bool} {first : Nat}
    {ids : List ColumnId} {p : ColumnPlan α} (hp : p ∈ Layout.shownPlans c scrolls first ids) :
  Pixel.zero ≤ p.width
  := by
  obtain ⟨⟨id, i⟩, -, rfl⟩ := List.mem_map.mp hp
  change Pixel.zero ≤ ((c.column? id).map (·.width)).getD Pixel.zero
  cases hd : c.column? id with
  | none => apply LawfulPixel.zero_le_zero
  | some d => apply h id d hd

theorem HasLengths.zero_le_of_mem_columnPlans (h : c.HasLengths) {config : Config α}
    {v : Viewport α} {p : ColumnPlan α} (hp : p ∈ Layout.columnPlans c config v) :
  Pixel.zero ≤ p.width
  := by
  rw [Layout.columnPlans] at hp
  obtain hp | hscrolling := List.mem_append.mp hp
  · obtain hsynthetic | hfixed := List.mem_append.mp hp
    · obtain hhandle | htree := List.mem_append.mp hsynthetic
      · split at hhandle
        · rw [List.mem_singleton.mp hhandle]
          apply h .rowHandle _ rfl
        · cases hhandle
      · split at htree
        · rw [List.mem_singleton.mp htree]
          apply h .tree _ rfl
        · cases htree
    · apply h.zero_le_of_mem_shownPlans hfixed
  · apply h.zero_le_of_mem_shownPlans hscrolling

end Columns

namespace Layout

/-! ### Items in order -/

/-- Items lie between two positions, each of them behind the one in front of it. -/
structure InOrder {β : Type} (low high : β → α) (start stop : α) (items : List β) : Prop where
  start_le_stop : start ≤ stop
  start_le : ∀ b ∈ items, start ≤ low b
  low_le_high : ∀ b ∈ items, low b ≤ high b
  le_stop : ∀ b ∈ items, high b ≤ stop
  pairwise : items.Pairwise fun a b => high a ≤ low b

namespace InOrder

variable {β : Type} {low high : β → α} {start middle stop : α} {b : β} {items items' : List β}

theorem nil (hle : start ≤ stop) :
  InOrder low high start stop ([] : List β)
  := by
  constructor
  case start_le_stop => apply hle
  case pairwise => apply List.Pairwise.nil
  all_goals
    intro b hb
    cases hb

variable [OrderedPixel α]

/-- Items in order behind other ones are all in order. -/
theorem append (h : InOrder low high start middle items)
    (h' : InOrder low high middle stop items') :
  InOrder low high start stop (items ++ items')
  := by
  constructor
  case start_le_stop => apply OrderedPixel.le_trans h.start_le_stop h'.start_le_stop
  case start_le =>
    intro b hb
    obtain hb | hb := List.mem_append.mp hb
    · apply h.start_le b hb
    · apply OrderedPixel.le_trans h.start_le_stop (h'.start_le b hb)
  case low_le_high =>
    intro b hb
    obtain hb | hb := List.mem_append.mp hb
    · apply h.low_le_high b hb
    · apply h'.low_le_high b hb
  case le_stop =>
    intro b hb
    obtain hb | hb := List.mem_append.mp hb
    · apply OrderedPixel.le_trans (h.le_stop b hb) h'.start_le_stop
    · apply h'.le_stop b hb
  case pairwise =>
    apply List.pairwise_append.mpr ⟨h.pairwise, h'.pairwise, ?_⟩
    intro a ha b hb
    apply OrderedPixel.le_trans (h.le_stop a ha) (h'.start_le b hb)

/-- An item that leads no further back is in order. -/
theorem singleton (hle : low b ≤ high b) :
  InOrder low high (low b) (high b) [b]
  := by
  obtain ⟨hlow, hhigh⟩ := LawfulPixel.comparable_of_le hle
  constructor
  case start_le_stop => apply hle
  case pairwise => apply List.pairwise_singleton
  all_goals
    intro b' hb'
    obtain rfl := List.mem_singleton.mp hb'
    assumption

theorem cons (hle : low b ≤ high b) (h : InOrder low high (high b) stop items) :
  InOrder low high (low b) stop (b :: items)
  := (singleton hle).append h

/-- The items that begin at a position or before it stand in front of the others. -/
theorem pairwise_low (h : InOrder low high start stop items) :
  items.Pairwise fun a b => low a ≤ low b
  := by
  apply h.pairwise.imp_of_mem
  intro a b ha _ hab
  apply OrderedPixel.le_trans (h.low_le_high a ha) hab

end InOrder

variable [OrderedPixel α] {limit x : α}

/-! ### Columns -/

theorem inOrder_placeColumns (limit : α) {plans : List (ColumnPlan α)}
    (hwidths : ∀ p ∈ plans, Pixel.zero ≤ p.width) (index : Nat) (hx : Pixel.zero ≤ x) :
  ∃ stop, InOrder (·.left) (·.right) x stop (placeColumns limit index x plans)
  := by
  induction plans generalizing index x with
  | nil => exact ⟨x, .nil (LawfulPixel.comparable_of_le hx).2⟩
  | cons p rest ih =>
    have hwidth := hwidths p List.mem_cons_self
    rw [placeColumns]
    split
    · exact ⟨x, .nil (LawfulPixel.comparable_of_le hx).2⟩
    · obtain ⟨stop, hrest⟩ := ih (fun q hq => hwidths q (List.mem_cons_of_mem p hq)) (index + 1)
        (LawfulPixel.zero_le_add hx hwidth)
      refine ⟨stop, ?_⟩
      apply InOrder.cons (b := (⟨index, p.slot, p.id, x, p.width⟩ : PlacedColumn α))
      · apply OrderedPixel.le_add hx hwidth
      · apply hrest

/-- The columns on the screen are in order. -/
theorem inOrder_columns {c : Columns α} (h : c.HasLengths) (config : Config α) (v : Viewport α)
    (rowCount : Nat) :
  ∃ stop, InOrder (·.left) (·.right) Pixel.zero stop (compute c config v rowCount).columns
  := inOrder_placeColumns v.width (fun _ hp => h.zero_le_of_mem_columnPlans hp) 0
    LawfulPixel.zero_le_zero

/-! ### Rows -/

section Rows

variable {height : α}

/-- Rows in order below other ones are all in order. -/
theorem InOrder.append_rows {start : RowCursor α} {rows rows' : List (PlacedRow α)}
    (h : InOrder (·.top) (·.bottom) start.y (start.below rows).y rows)
    (h' : InOrder (·.top) (·.bottom) (start.below rows).y ((start.below rows).below rows').y rows') :
  InOrder (·.top) (·.bottom) start.y (start.below (rows ++ rows')).y (rows ++ rows')
  := by
  rw [RowCursor.below_append]
  apply h.append h'

/-- Rows of one height are in order, down to the place below them. -/
theorem inOrder_placeRows (band : Band) (hheight : Pixel.zero ≤ height) (count first : Nat)
    (start : RowCursor α) (hstart : Pixel.zero ≤ start.y) :
  InOrder (·.top) (·.bottom) start.y (start.below (placeRows band height count first start)).y
    (placeRows band height count first start)
  := by
  induction count generalizing first start with
  | zero => exact .nil (LawfulPixel.comparable_of_le hstart).2
  | succ count ih =>
    rw [placeRows, RowCursor.below_cons]
    apply InOrder.cons (b := (⟨start.index, first, band, start.y, height⟩ : PlacedRow α))
    · apply OrderedPixel.le_add hstart hheight
    · apply ih (first + 1) ⟨start.index + 1, start.y + height⟩
      apply LawfulPixel.zero_le_add hstart hheight

/-- Rows that scroll are in order. -/
theorem inOrder_placeRowsTo (limit : α) (band : Band) (hheight : Pixel.zero ≤ height)
    (count first : Nat) (start : RowCursor α) (hstart : Pixel.zero ≤ start.y) :
  ∃ stop,
    InOrder (·.top) (·.bottom) start.y stop (placeRowsTo limit band height count first start)
  := by
  induction count generalizing first start with
  | zero => exact ⟨start.y, .nil (LawfulPixel.comparable_of_le hstart).2⟩
  | succ count ih =>
    rw [placeRowsTo]
    split
    · exact ⟨start.y, .nil (LawfulPixel.comparable_of_le hstart).2⟩
    · obtain ⟨stop, hrest⟩ := ih (first + 1) ⟨start.index + 1, start.y + height⟩
        (LawfulPixel.zero_le_add hstart hheight)
      refine ⟨stop, ?_⟩
      apply InOrder.cons (b := (⟨start.index, first, band, start.y, height⟩ : PlacedRow α))
      · apply OrderedPixel.le_add hstart hheight
      · apply hrest

variable {config : Config α}

/-- The rows above those that scroll are in order, down to the place below them. -/
theorem inOrder_standingRows (hheader : Pixel.zero ≤ config.headerRowHeight)
    (hheight : Pixel.zero ≤ config.rowHeight) (rowCount : Nat) :
  InOrder (·.top) (·.bottom) Pixel.zero
    (RowCursor.below ⟨0, Pixel.zero⟩ (standingRows config rowCount)).y
    (standingRows config rowCount)
  := by
  have hfirst := inOrder_placeRows .header hheader config.headerRows 0
    ⟨0, Pixel.zero⟩ LawfulPixel.zero_le_zero
  have hsecond := inOrder_placeRows .filter hheight (if config.showFilterRow then 1 else 0) 0 _
    hfirst.start_le_stop
  have hthird := inOrder_placeRows .data hheight (min config.fixedRows rowCount) 0 _
    (OrderedPixel.le_trans hfirst.start_le_stop hsecond.start_le_stop)
  rw [standingRows, List.append_assoc]
  exact hfirst.append_rows (hsecond.append_rows hthird)

/-- The rows on the screen are in order. -/
theorem inOrder_rows (hheader : Pixel.zero ≤ config.headerRowHeight)
    (hheight : Pixel.zero ≤ config.rowHeight) (c : Columns α) (v : Viewport α) (rowCount : Nat) :
  ∃ stop, InOrder (·.top) (·.bottom) Pixel.zero stop (compute c config v rowCount).rows
  := by
  have hstanding := inOrder_standingRows hheader hheight rowCount
  obtain ⟨stop, hscrolling⟩ := inOrder_placeRowsTo v.height .data hheight
    (rowCount - (min config.fixedRows rowCount + v.scrollTop))
    (min config.fixedRows rowCount + v.scrollTop) _ hstanding.start_le_stop
  exact ⟨stop, hstanding.append hscrolling⟩

end Rows

end Layout

end DataGrid
