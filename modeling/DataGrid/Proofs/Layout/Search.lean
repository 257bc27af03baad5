import Mathlib.Data.List.TakeWhile
import DataGrid.Proofs.Frame.Edges
import DataGrid.Proofs.Layout.Offsets

/-!
# Finding what is at a position

A search that halves the list finds where items stop passing a test, if those that pass stand in
front (`Layout.partitionPoint_eq`).  On the screen each item ends before the next one begins, so the
column and the row at a position are the ones that a search finds that way
(`Layout.columnAt?_eq_some_iff`, `Layout.rowAt?_eq_some_iff`).
-/

namespace DataGrid.Layout

/-! ### Halving -/

section Halving

variable {β : Type} {test : β → Bool} {n : Nat}

theorem partitionIn_eq {items : Array β}
    (hitems : ∀ {i : Nat} {b : β}, items[i]? = some b → (test b = true ↔ i < n)) {base size : Nat}
    (hbase : base ≤ n) (hn : n ≤ base + size) (hsize : base + size ≤ items.size) :
  partitionIn items test base size = n
  := by
  have hpasses {i : Nat} (hi : i < items.size) :
      ((items[i]?.map test).getD false) = true ↔ i < n := by
    rw [Array.getElem?_eq_getElem hi]
    apply hitems (Array.getElem?_eq_getElem hi)
  induction base, size using partitionIn.induct items test with
  | case1 base size hlt half passes ih =>
    have hhalf : base + half < items.size := by omega
    have hle : half ≤ size - half := by omega
    rw [partitionIn, dif_pos hlt]
    change partitionIn items test (if passes = true then base + half else base) (size - half) = n
    by_cases hpass : passes = true
    · have hmiddle := (hpasses hhalf).mp hpass
      rw [dif_pos hpass] at ih
      rw [if_pos hpass]
      apply ih <;> omega
    · have hmiddle : ¬ base + half < n := fun h => hpass ((hpasses hhalf).mpr h)
      rw [dif_neg hpass] at ih
      rw [if_neg hpass]
      apply ih <;> omega
  | case2 base size hle =>
    rw [partitionIn, dif_neg hle]
    by_cases hpass : ((items[base]?.map test).getD false) = true
    · have hlt : base < items.size := by
        by_contra hnot
        rw [Array.getElem?_eq_none (Nat.not_lt.mp hnot)] at hpass
        cases hpass
      have hmiddle := (hpasses hlt).mp hpass
      rw [if_pos hpass]
      omega
    · rw [if_neg hpass]
      obtain rfl | hlt := Nat.eq_or_lt_of_le hbase
      · rfl
      · cases hpass ((hpasses (by omega)).mpr hlt)

/-- If items that pass a test stand in front of those that fail, the search counts the items before
the first one that fails. -/
theorem partitionPoint_eq {items : List β}
    (hitems : items.Pairwise fun a b => test b = true → test a = true) :
  partitionPoint items test = (items.takeWhile test).length
  := by
  apply partitionIn_eq _ (Nat.zero_le _)
  · rw [Nat.zero_add]
    apply (List.takeWhile_prefix test).length_le
  · rw [Nat.zero_add, List.size_toArray]
  · intro i b hb
    rw [List.getElem?_toArray] at hb
    induction items generalizing i with
    | nil => cases hb
    | cons a rest ih =>
      obtain ⟨hfirst, hrest⟩ := List.pairwise_cons.mp hitems
      cases htest : test a with
      | true =>
        rw [List.takeWhile_cons_of_pos htest, List.length_cons]
        cases i with
        | zero =>
          obtain rfl := Option.some.inj hb
          simp [htest]
        | succ i => rw [ih hrest hb, Nat.succ_lt_succ_iff]
      | false =>
        have hnot : test b ≠ true := by
          intro hpass
          cases i with
          | zero =>
            obtain rfl := Option.some.inj hb
            cases htest.symm.trans hpass
          | succ i => cases htest.symm.trans (hfirst b (List.mem_of_getElem? hb) hpass)
        simp [htest, hnot]

end Halving

/-! ### Positions -/

section Positions

variable {α β : Type} [Pixel α] [OrderedPixel α] {edge : β → α} {items : List β} {x : α}

/-- The last item that begins at a position or before it is the last one of those in front. -/
theorem lastAtOrBefore?_eq (h : items.Pairwise fun a b => edge a ≤ edge b) :
  lastAtOrBefore? items edge x = (items.takeWhile fun i => edge i ≤ x).getLast?
  := by
  have hpasses : items.Pairwise fun a b =>
      decide (edge b ≤ x) = true → decide (edge a ≤ x) = true := by
    apply h.imp
    intro a b hle hb
    exact decide_eq_true (OrderedPixel.le_trans hle (of_decide_eq_true hb))
  obtain ⟨behind, hitems⟩ := List.takeWhile_prefix (fun i => decide (edge i ≤ x)) (l := items)
  rw [lastAtOrBefore?, partitionPoint_eq hpasses]
  split
  case h_1 hnone => rw [List.length_eq_zero_iff.mp hnone, List.getLast?_nil]
  case h_2 count hcount =>
    have hlt : count < (items.takeWhile fun i => decide (edge i ≤ x)).length := by
      rw [hcount]
      apply Nat.lt_succ_self
    rw [List.getLast?_eq_getElem?, hcount, Nat.succ_sub_one]
    conv => lhs; rw [← hitems, List.getElem?_append_left hlt]

/-- Where items are in order, the one at a position is the one whose edges it lies between. -/
theorem filter_lastAtOrBefore?_eq_some_iff {low high : β → α} {start stop : α}
    (h : InOrder low high start stop items) {b : β} :
  (lastAtOrBefore? items low x).filter (fun b => decide (x < high b)) = some b
    ↔ b ∈ items ∧ low b ≤ x ∧ x < high b
  := by
  have hlow := h.pairwise_low
  rw [lastAtOrBefore?_eq hlow, Option.filter_eq_some_iff, decide_eq_true_iff]
  constructor
  · rintro ⟨hlast, hx⟩
    have hmem := List.mem_of_getLast? hlast
    have hbefore := List.mem_takeWhile_imp hmem
    exact ⟨(List.takeWhile_prefix _).subset hmem, of_decide_eq_true hbefore, hx⟩
  · rintro ⟨hb, hbefore, hx⟩
    obtain ⟨front, behind, rfl⟩ := List.append_of_mem hb
    obtain ⟨-, hrest, hfront⟩ := List.pairwise_append.mp hlow
    obtain ⟨-, hbehind, -⟩ := List.pairwise_append.mp h.pairwise
    have hpass : ∀ a ∈ front ++ [b], decide (low a ≤ x) = true := by
      intro a ha
      apply decide_eq_true
      obtain ha | ha := List.mem_append.mp ha
      · apply OrderedPixel.le_trans (hfront a ha b List.mem_cons_self) hbefore
      · obtain rfl := List.mem_singleton.mp ha
        apply hbefore
    have hfail : behind.takeWhile (fun a => decide (low a ≤ x)) = [] := by
      cases behind with
      | nil => rfl
      | cons a rest =>
        apply List.takeWhile_cons_of_neg
        rw [decide_eq_true_iff]
        intro hlate
        have hlater := (List.pairwise_cons.mp hbehind).1 a List.mem_cons_self
        apply OrderedPixel.not_lt_of_le (OrderedPixel.le_trans hlater hlate) hx
    rw [List.append_cons, List.takeWhile_append_of_pos hpass, hfail, List.append_nil,
      List.getLast?_concat]
    exact ⟨rfl, hx⟩

end Positions

/-! ### Columns and rows -/

section Placed

variable {α : Type} [Pixel α] [OrderedPixel α] {c : Columns α} {config : Config α} {v : Viewport α}
  {rowCount : Nat}

/-- The column at a position is the one that holds it. -/
theorem columnAt?_eq_some_iff (h : c.HasLengths) {x : α} {column : PlacedColumn α} :
  (compute c config v rowCount).columnAt? x = some column
    ↔ column ∈ (compute c config v rowCount).columns ∧ column.left ≤ x ∧ x < column.right
  := by
  obtain ⟨_, hcolumns⟩ := inOrder_columns h config v rowCount
  apply filter_lastAtOrBefore?_eq_some_iff hcolumns

/-- The row at a position is the one that holds it. -/
theorem rowAt?_eq_some_iff (hheader : Pixel.zero ≤ config.headerRowHeight)
    (hheight : Pixel.zero ≤ config.rowHeight) {y : α} {row : PlacedRow α} :
  (compute c config v rowCount).rowAt? y = some row
    ↔ row ∈ (compute c config v rowCount).rows ∧ row.top ≤ y ∧ y < row.bottom
  := by
  obtain ⟨_, hrows⟩ := inOrder_rows hheader hheight c v rowCount
  apply filter_lastAtOrBefore?_eq_some_iff hrows

end Placed

/-! ### The last column and the last row -/

section Ends

variable {c : Columns Rat} {config : Config Rat} {v : Viewport Rat} {rowCount : Nat}

theorem follow_columns (h : c.HasWidths) (config : Config Rat) (v : Viewport Rat)
    (rowCount : Nat) :
  Axis.Follow Pixel.zero
    ((compute c config v rowCount).columns.map fun column => (column.left, column.right))
  := follow_placeColumns v.width (columnPlans c config v) 0 Pixel.zero fun _ hp =>
    h.hasLengths.zero_le_of_mem_columnPlans hp

/-- No column reaches beyond the right edge. -/
theorem right_le_rightEdge (h : c.HasWidths) {column : PlacedColumn Rat}
    (hcolumn : column ∈ (compute c config v rowCount).columns) :
  column.right ≤ (compute c config v rowCount).rightEdge
  := by
  have hend := (follow_columns h config v rowCount).le_endOf (List.mem_map_of_mem hcolumn)
  rw [endOf_columns] at hend
  exact hend

theorem follow_rows (hheader : 0 ≤ config.headerRowHeight) (hheight : 0 ≤ config.rowHeight)
    (c : Columns Rat) (v : Viewport Rat) (rowCount : Nat) :
  Axis.Follow Pixel.zero
    ((compute c config v rowCount).rows.map fun row => (row.top, row.bottom))
  := by
  obtain ⟨n, -, hrows⟩ := exists_rows_eq c config v rowCount
  rw [hrows]
  apply (isFollowedBy_topRows hheader hheight).append
  apply (isFollowedBy_placeRows .data hheight (min config.fixedRows rowCount) 0
    (topEdge config)).append
  apply isFollowedBy_placeRows .data hheight

/-- No row reaches beyond the bottom edge. -/
theorem bottom_le_bottomEdge (hheader : 0 ≤ config.headerRowHeight)
    (hheight : 0 ≤ config.rowHeight) {row : PlacedRow Rat}
    (hrow : row ∈ (compute c config v rowCount).rows) :
  row.bottom ≤ (compute c config v rowCount).bottomEdge
  := by
  have hend := (follow_rows hheader hheight c v rowCount).le_endOf (List.mem_map_of_mem hrow)
  rw [bottomEdge_eq, ← endOf_rows]
  exact hend

end Ends

end DataGrid.Layout
