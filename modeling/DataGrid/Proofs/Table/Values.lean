import DataGrid.Table

/-!
# What a table holds after a value is stored

Storing a value changes one position and no other, also in a row that is too short for it
(`Table.value_setValue`), and merging cells changes what one cell covers (`Table.span_setSpan`).
Storing the properties of a row changes those of that row alone
(`Table.rowProperties?_setRowProperties`), and neither a value nor a merged cell.
-/

namespace DataGrid.Table

theorem size_padTo (n : Nat) (row : Array CellValue) :
  (padTo n row).size = max n row.size
  := by
  rw [padTo, Array.size_append, Array.size_replicate]
  omega

/-- A row that was filled up reads as before, for what is missing reads as empty. -/
theorem getD_padTo (n x : Nat) (row : Array CellValue) :
  (padTo n row)[x]?.getD .empty = row[x]?.getD .empty
  := by
  rw [padTo, Array.getElem?_append]
  split
  · rfl
  · next h =>
    rw [Array.getElem?_eq_none (Nat.le_of_not_lt h), Array.getElem?_replicate]
    split <;> rfl

/-- A value stored in a row stands in its column, and the others keep theirs. -/
theorem getD_setIfInBounds_padTo (x x' : Nat) (row : Array CellValue) (value : CellValue) :
  ((padTo (x + 1) row).setIfInBounds x value)[x']?.getD .empty
    = if x = x' then value else row[x']?.getD .empty
  := by
  have hx : x < (padTo (x + 1) row).size := by
    rw [size_padTo]
    omega
  rw [Array.getElem?_setIfInBounds]
  by_cases heq : x = x'
  · rw [if_pos heq, if_pos heq, if_pos (heq ▸ hx)]
    rfl
  · rw [if_neg heq, if_neg heq]
    apply getD_padTo

/-- In a row of the table, the position a value is stored at reads that value, and every other
position of the table reads as before. -/
theorem value_setValue {t : Table} {y : Nat} (hy : y < t.rows.size) (x x' y' : Nat)
    (value : CellValue) :
  (t.setValue x y value).value x' y' = if x = x' ∧ y = y' then value else t.value x' y'
  := by
  rw [Table.value, setValue, Array.getElem?_modify]
  by_cases hrow : y = y'
  · subst hrow
    simp only [if_true, and_true, Table.value, Array.getElem?_eq_getElem hy, Option.map_some,
      Option.bind_some]
    apply getD_setIfInBounds_padTo
  · simp only [hrow, if_false, and_false]
    rfl

/-- Without what begins at one cell, all that begins elsewhere is still found. -/
theorem find?_filter_merges (merges : List Merge) (x y x' y' : Nat) :
  (merges.filter fun m => !(m.x = x && m.y = y)).find? (fun m => m.x = x' && m.y = y')
    = if x = x' ∧ y = y' then none else merges.find? fun m => m.x = x' && m.y = y'
  := by
  rw [List.find?_filter]
  split
  · next heq =>
    apply List.find?_eq_none.mpr
    grind
  · next hne =>
    congr 1
    funext m
    grind

/-- Merging cells changes what the cell at the top left covers, and what no other cell does. -/
theorem span_setSpan (t : Table) (x y : Nat) (span : Span) (x' y' : Nat) :
  (t.setSpan x y span).span x' y'
    = if x = x' ∧ y = y' then (if span.isMerge then span else .single) else t.span x' y'
  := by
  have hothers := find?_filter_merges t.merges x y x' y'
  rw [Table.span, setSpan]
  by_cases hmerge : span.isMerge = true
  · rw [if_pos hmerge, List.find?_cons]
    dsimp only
    by_cases heq : x = x' ∧ y = y'
    · simp [heq, hmerge]
    · have hfirst : (decide (x = x') && decide (y = y')) = false := by
        rw [← Bool.decide_and, decide_eq_false heq]
      rw [hfirst, hothers, if_neg heq, if_neg heq]
      rfl
  · rw [if_neg hmerge, hothers, if_neg hmerge]
    split
    · rfl
    · rfl

/-- What is left without the properties of one row holds those of every other row. -/
theorem find?_filter_properties (properties : List (Nat × Properties)) {y y' : Nat}
    (hne : y ≠ y') :
  (properties.filter (·.1 ≠ y)).find? (·.1 = y') = properties.find? (·.1 = y')
  := by
  rw [List.find?_filter]
  congr 1
  funext e
  grind

/-- A row of the table has the properties that were stored for it, and every other row keeps
its own. -/
theorem rowProperties?_setRowProperties (t : Table) (y : Nat) (p : Properties) (y' : Nat) :
  (t.setRowProperties y p).rowProperties? y'
    = if y < t.rows.size ∧ y = y' then some p else t.rowProperties? y'
  := by
  rw [setRowProperties]
  by_cases hy : y < t.rows.size
  · rw [if_pos hy, rowProperties?, List.find?_cons]
    by_cases heq : y = y'
    · subst heq
      simp [hy]
    · rw [if_neg fun h => heq h.2, decide_eq_false heq]
      dsimp only
      rw [find?_filter_properties _ heq]
      rfl
  · rw [if_neg hy, if_neg fun h => hy h.1]

@[simp]
theorem rows_setRowProperties (t : Table) (y : Nat) (p : Properties) :
  (t.setRowProperties y p).rows = t.rows
  := by
  rw [setRowProperties]
  split <;> rfl

@[simp]
theorem merges_setRowProperties (t : Table) (y : Nat) (p : Properties) :
  (t.setRowProperties y p).merges = t.merges
  := by
  rw [setRowProperties]
  split <;> rfl

/-- In a table that has no merged cells, every cell covers itself alone. -/
theorem span_of_hasSpans_eq_false {t : Table} (h : DataSource.hasSpans t = false) (x y : Nat) :
  DataSource.span t x y = .single
  := by
  have hmerges : t.merges = [] := by
    cases hm : t.merges with
    | nil => rfl
    | cons m ms =>
      have hsome : DataSource.hasSpans t = true := congrArg (fun ms => !ms.isEmpty) hm
      rw [hsome] at h
      cases h
  change ((t.merges.find? fun m => m.x = x && m.y = y).map (·.span)).getD .single = .single
  rw [hmerges]
  rfl

end DataGrid.Table
