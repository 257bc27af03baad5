import Mathlib
import DataGrid.Proofs.Selection.Toggling

/-!
# Selected rows and columns as sets

A selection keeps its ranges as they were made: they may overlap, repeat one another or run
backwards.  What counts is which rows and which columns are selected, two sets of indexes
(`Selection.Marks`) in which a range is an interval and taking an index out is removing an element.
Whatever is done to a selection, its questions are answered as by these two sets
(`Selection.mirrors_applyAll`).
-/

namespace DataGrid

namespace Selection

/-- A change of a selection. -/
inductive Change where
  | push (r : Range) (keep : Bool)
  | selectColumns (first last : Nat)
  | deselectColumn (column : Nat)
  | deselectRow (row : Nat)
  | clear

/-- The selection after a change. -/
def apply (s : Selection) : Change → Selection
  | .push r keep => s.push r keep
  | .selectColumns first last => s.selectColumns first last
  | .deselectColumn column => s.deselectColumn column
  | .deselectRow row => s.deselectRow row
  | .clear => empty

/-- The selection after some changes. -/
def applyAll (s : Selection) (changes : List Change) : Selection := changes.foldl apply s

/-! ### Marked rows and columns -/

/-- The rows and the columns that are selected as a whole. -/
@[ext]
structure Marks where
  rows : Set Nat
  columns : Set Nat

namespace Marks

/-- Nothing is selected. -/
def none : Marks := ⟨∅, ∅⟩

/-- Mark what a range selects: an interval of rows or of columns; a range of cells marks nothing. -/
def add (m : Marks) (r : Range) : Marks :=
  match r.kind with
  | .rows => { m with rows := m.rows ∪ Set.uIcc r.startRow r.endRow }
  | .columns => { m with columns := m.columns ∪ Set.uIcc r.startColumn r.endColumn }
  | .cells => m

/-- The marks after a change. -/
def apply (m : Marks) : Change → Marks
  | .push r keep => (if keep then m else none).add r
  | .selectColumns first last => { m with columns := Set.uIcc first last }
  | .deselectColumn column => { m with columns := m.columns \ {column} }
  | .deselectRow row => { m with rows := m.rows \ {row} }
  | .clear => none

/-- The marks after some changes. -/
def applyAll (m : Marks) (changes : List Change) : Marks := changes.foldl apply m

end Marks

/-- What the ranges of the selection select: the intervals of its ranges of rows, and those of its
ranges of columns. -/
def marks (s : Selection) : Marks where
  rows := { row | ∃ r ∈ s.ofKind .rows, row ∈ Set.uIcc r.startRow r.endRow }
  columns := { i | ∃ r ∈ s.ofKind .columns, i ∈ Set.uIcc r.startColumn r.endColumn }

theorem mem_rows_marks {s : Selection} {row : Nat} :
  row ∈ s.marks.rows ↔ s.isRowSelected row = true
  := by
  simp only [isRowSelected_iff, Range.holdsRow_iff]
  rfl

theorem mem_columns_marks {s : Selection} {i : Nat} :
  i ∈ s.marks.columns ↔ s.isColumnSelected i = true
  := by
  simp only [isColumnSelected_iff, Range.holdsColumn_iff]
  rfl

theorem marks_empty :
  empty.marks = .none
  := by
  apply Marks.ext
  · simp [marks, ofKind, empty, Marks.none]
  · simp [marks, ofKind, empty, Marks.none]

/-! ### One change -/

theorem mem_rows_add {m : Marks} {r : Range} {row : Nat} :
  row ∈ (m.add r).rows ↔ row ∈ m.rows ∨ r.covers (.row row) = true
  := by
  rw [Marks.add, Range.covers, Bool.and_eq_true, decide_eq_true_iff, Range.holdsRow_iff]
  cases r.kind with
  | rows =>
    rw [Set.mem_union, eq_self_iff_true, true_and]
    exact Iff.rfl
  | columns => simp
  | cells => simp

theorem mem_columns_add {m : Marks} {r : Range} {i : Nat} :
  i ∈ (m.add r).columns ↔ i ∈ m.columns ∨ r.covers (.column i) = true
  := by
  rw [Marks.add, Range.covers, Bool.and_eq_true, decide_eq_true_iff, Range.holdsColumn_iff]
  cases r.kind with
  | rows => simp
  | columns =>
    rw [Set.mem_union, eq_self_iff_true, true_and]
    exact Iff.rfl
  | cells => simp

theorem marks_push (s : Selection) (r : Range) (keep : Bool) :
  (s.push r keep).marks = (if keep then s.marks else .none).add r
  := by
  have hselects : ∀ x, (s.push r keep).selects x = true
      ↔ (keep = true ∧ s.selects x = true) ∨ r.covers x = true := by
    intro x
    cases keep with
    | true => rw [selects_push, Bool.or_eq_true, eq_self_iff_true, true_and]
    | false => simp [push, selects_eq]
  apply Marks.ext
  · ext row
    rw [mem_rows_add, mem_rows_marks]
    apply (hselects (.row row)).trans
    apply or_congr_left
    cases keep with
    | true => simp [mem_rows_marks, selects]
    | false => simp [Marks.none]
  · ext i
    rw [mem_columns_add, mem_columns_marks]
    apply (hselects (.column i)).trans
    apply or_congr_left
    cases keep with
    | true => simp [mem_columns_marks, selects]
    | false => simp [Marks.none]

/-- Columns that are selected in place of others leave the rows alone. -/
theorem marks_selectColumns (s : Selection) (first last : Nat) :
  (s.selectColumns first last).marks = { s.marks with columns := Set.uIcc first last }
  := by
  apply Marks.ext
  · have hrows : (s.selectColumns first last).ofKind .rows = s.ofKind .rows := by
      rw [ofKind, selectColumns, List.filter_append, List.filter_filter, ofKind]
      apply (List.append_nil _).trans
      apply List.filter_congr
      intro r _
      cases r.kind <;> rfl
    rw [marks, hrows]
    rfl
  · ext i
    rw [mem_columns_marks]
    apply isColumnSelected_selectColumns

theorem marks_deselectColumn (s : Selection) (i : Nat) :
  (s.deselectColumn i).marks = { s.marks with columns := s.marks.columns \ {i} }
  := by
  apply Marks.ext
  · ext row
    have hrow := s.selects_deselectColumn i (.row row)
    simp only [selects] at hrow
    simp [mem_rows_marks, hrow]
  · ext j
    have hcolumn := s.selects_deselectColumn i (.column j)
    simp only [selects] at hcolumn
    simp [mem_columns_marks, hcolumn]

theorem marks_deselectRow (s : Selection) (row : Nat) :
  (s.deselectRow row).marks = { s.marks with rows := s.marks.rows \ {row} }
  := by
  apply Marks.ext
  · ext k
    have hrow := s.selects_deselectRow row (.row k)
    simp only [selects] at hrow
    simp [mem_rows_marks, hrow]
  · ext i
    have hcolumn := s.selects_deselectRow row (.column i)
    simp only [selects] at hcolumn
    simp [mem_columns_marks, hcolumn]

theorem marks_apply (s : Selection) (change : Change) :
  (s.apply change).marks = s.marks.apply change
  := by
  cases change with
  | push r keep => apply marks_push
  | selectColumns first last => apply marks_selectColumns
  | deselectColumn column => apply marks_deselectColumn
  | deselectRow row => apply marks_deselectRow
  | clear => apply marks_empty

/-- The sets follow the selection through all changes. -/
theorem marks_applyAll (s : Selection) (changes : List Change) :
  (s.applyAll changes).marks = s.marks.applyAll changes
  := by
  induction changes generalizing s with
  | nil => rfl
  | cons change rest ih =>
    rw [applyAll, List.foldl_cons, ← applyAll, ih, marks_apply]
    rfl

/-! ### What is left alone -/

theorem filter_withoutColumn (r : Range) (i : Nat) :
  (r.withoutColumn i).filter (·.kind ≠ .columns) = [r].filter (·.kind ≠ .columns)
  := by
  rw [Range.withoutColumn]
  split
  case isTrue hholds =>
    have hkind : r.kind = .columns := of_decide_eq_true (Bool.and_eq_true_iff.mp hholds).1
    rw [List.filter_append]
    split <;> split <;> simp [Range.columns, hkind]
  case isFalse => rfl

theorem filter_withoutRow (r : Range) (row : Nat) :
  (r.withoutRow row).filter (·.kind ≠ .rows) = [r].filter (·.kind ≠ .rows)
  := by
  rw [Range.withoutRow]
  split
  case isTrue hholds =>
    have hkind : r.kind = .rows := of_decide_eq_true (Bool.and_eq_true_iff.mp hholds).1
    rw [List.filter_append]
    split <;> split <;> simp [Range.rows, hkind]
  case isFalse => rfl

/-- What every range leaves of some kinds is left of all ranges. -/
theorem filter_flatMap_of_forall {p : Range → Bool} {f : Range → List Range}
    (h : ∀ r, (f r).filter p = [r].filter p) (ranges : List Range) :
  (ranges.flatMap f).filter p = ranges.filter p
  := by
  induction ranges with
  | nil => rfl
  | cons r rest ih =>
    rw [List.flatMap_cons, List.filter_append, h, ih, ← List.filter_append]
    rfl

/-! ### Bounds on the indexes -/

variable {rows columns : Nat}

/-- The change selects only rows and columns within the bounds. -/
def Change.IsInside (rows columns : Nat) : Change → Prop
  | .push r _ => r.IsInside rows columns
  | .selectColumns first last => first < columns ∧ last < columns
  | _ => True

theorem Fits.apply {s : Selection} {change : Change} (h : s.Fits rows columns True)
    (hchange : change.IsInside rows columns) :
  (s.apply change).Fits rows columns True
  := by
  cases change with
  | push r keep => apply h.push ⟨hchange, fun _ => trivial⟩
  | selectColumns first last => apply h.selectColumns hchange.1 hchange.2
  | deselectColumn column => apply h.deselectColumn
  | deselectRow row => apply h.deselectRow
  | clear => apply Fits.empty

/-- Changes within the bounds keep a selection there. -/
theorem IsInside.applyAll {s : Selection} {changes : List Change} (h : s.IsInside rows columns)
    (hchanges : ∀ change ∈ changes, change.IsInside rows columns) :
  (s.applyAll changes).IsInside rows columns
  := by
  apply Fits.isInside
  apply List.foldlRecOn changes Selection.apply (motive := Fits rows columns True)
  · exact fun r hr => ⟨h r hr, fun _ => trivial⟩
  · intro t ht change hchange
    apply ht.apply (hchanges change hchange)

/-! ### Lists of what is selected -/

/-- The list has the elements of the set in ascending order, and it has no gap exactly if the set is
an interval. -/
structure Lists (xs : List Nat) (marked : Set Nat) : Prop where
  ascending : xs.Pairwise (· < ·)
  mem_iff : ∀ i, i ∈ xs ↔ i ∈ marked
  isContiguous_iff : isContiguous xs = true ↔ ∃ first last, marked = Set.Icc first last

theorem lists_sorted {xs : List Nat} {marked : Set Nat} (h : ∀ i, i ∈ xs ↔ i ∈ marked) :
  Lists (sorted xs) marked
  := by
  have hmem : ∀ i, i ∈ sorted xs ↔ i ∈ marked := fun i => mem_sorted.trans (h i)
  have hascending := pairwise_lt_sorted xs
  refine ⟨hascending, hmem, ?_⟩
  constructor
  · intro hcontiguous
    cases hsorted : sorted xs with
    | nil =>
      refine ⟨1, 0, ?_⟩
      ext i
      rw [← hmem, hsorted, Set.mem_Icc, List.mem_nil_iff, false_iff]
      omega
    | cons first rest =>
      obtain ⟨last, hlast⟩ : ∃ last, (sorted xs).getLast? = some last := by
        rw [hsorted, List.getLast?_cons]
        exact ⟨_, rfl⟩
      refine ⟨first, last, ?_⟩
      ext i
      rw [← hmem, Set.mem_Icc]
      apply mem_iff_of_isContiguous hcontiguous _ hlast
      rw [hsorted, List.head?_cons]
  · rintro ⟨first, last, rfl⟩
    apply isContiguous_of_isGapFree hascending
    intro i hi j hj k hik hkj
    rw [hmem, Set.mem_Icc] at hi hj ⊢
    omega

/-- The questions that can be asked of the selection are answered as by the two sets, and taking a
row or a column out of it changes no range of another kind. -/
structure Mirrors (s : Selection) (m : Marks) : Prop where
  isRowSelected_iff : ∀ row, s.isRowSelected row = true ↔ row ∈ m.rows
  isColumnSelected_iff : ∀ i, s.isColumnSelected i = true ↔ i ∈ m.columns
  lists_rows : Lists s.selectedRows m.rows
  lists_columns : Lists s.selectedColumns m.columns
  others_deselectRow : ∀ row,
    (s.deselectRow row).ranges.filter (·.kind ≠ .rows) = s.ranges.filter (·.kind ≠ .rows)
  others_deselectColumn : ∀ i,
    (s.deselectColumn i).ranges.filter (·.kind ≠ .columns) = s.ranges.filter (·.kind ≠ .columns)

theorem mirrors_marks (s : Selection) :
  s.Mirrors s.marks
  := by
  constructor
  case isRowSelected_iff =>
    intro row
    apply mem_rows_marks.symm
  case isColumnSelected_iff =>
    intro i
    apply mem_columns_marks.symm
  case lists_rows =>
    apply lists_sorted
    intro row
    rw [List.mem_flatMap]
    rw [mem_rows_marks, isRowSelected_iff]
    simp only [Range.rowIndexes, Range.mem_indexes, Range.holdsRow_iff]
    rfl
  case lists_columns =>
    apply lists_sorted
    intro i
    rw [List.mem_flatMap]
    rw [mem_columns_marks, isColumnSelected_iff]
    simp only [Range.mem_columnIndexes]
    rfl
  case others_deselectRow =>
    intro row
    apply filter_flatMap_of_forall fun r => filter_withoutRow r row
  case others_deselectColumn =>
    intro i
    apply filter_flatMap_of_forall fun r => filter_withoutColumn r i

/-- After any changes the selection is mirrored by the two sets that have gone through the same
changes.  Its ranges keep to any bounds that the earlier ranges and the changes keep to, such as
the greatest index of a word. -/
theorem mirrors_applyAll (s : Selection) (changes : List Change) :
  (s.applyAll changes).Mirrors (s.marks.applyAll changes)
    ∧ ∀ rows columns, s.IsInside rows columns →
      (∀ change ∈ changes, change.IsInside rows columns) →
      (s.applyAll changes).IsInside rows columns
  := by
  constructor
  · rw [← marks_applyAll]
    apply mirrors_marks
  · intro rows columns
    apply IsInside.applyAll

example : ((empty.push (.rows 5 3) true).deselectRow 4).selectedRows = [3, 5] := by cbv

end Selection

end DataGrid
