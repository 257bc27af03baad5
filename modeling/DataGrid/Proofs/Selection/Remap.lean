import Mathlib.Data.List.Forall2
import Mathlib.Data.List.Nodup
import DataGrid.Proofs.Selection

/-!
# Selections whose columns move

When every column gets a new index, a selection is carried along (`Selection.IsCarried`): the same
columns and rows are selected, and a range of cells keeps its cells if its columns still stand side
by side, and is dropped otherwise.  `remapColumns` carries a selection along whenever no two columns
get the same index.
-/

namespace DataGrid

namespace Range

/-- One of the first `n` columns is in the range and gets the index `j`. -/
def Reaches (n : Nat) (p : Nat → Nat) (r : Range) (j : Nat) : Prop :=
  ∃ i, i < n ∧ r.holdsColumn i ∧ p i = j

instance (n : Nat) (p : Nat → Nat) (r : Range) (j : Nat) : Decidable (r.Reaches n p j) := by
  unfold Reaches
  infer_instance

/-- From `first` up to any index that the range reaches, it reaches them all. -/
def FillsFrom (n : Nat) (p : Nat → Nat) (r : Range) (first : Nat) : Prop :=
  ∀ j < n, r.holdsColumn j → ∀ k ≤ p j, first ≤ k → r.Reaches n p k

instance (n : Nat) (p : Nat → Nat) (r : Range) (first : Nat) :
    Decidable (r.FillsFrom n p first) := by
  unfold FillsFrom
  infer_instance

/-- Some of the first `n` columns are in the range, and the new indexes of those leave no gap. -/
def StandsTogether (n : Nat) (p : Nat → Nat) (r : Range) : Prop :=
  (∃ i, i < n ∧ r.holdsColumn i) ∧ ∀ i < n, r.holdsColumn i → r.FillsFrom n p (p i)

instance (n : Nat) (p : Nat → Nat) (r : Range) : Decidable (r.StandsTogether n p) := by
  unfold StandsTogether
  infer_instance

/-- The range `r'` holds the same rows as `r`, and the same columns at their new indexes. -/
structure IsCarried (n : Nat) (p : Nat → Nat) (r r' : Range) : Prop where
  holdsRow_eq : ∀ row : Nat, r'.holdsRow row = r.holdsRow row
  holdsColumn_iff : ∀ j : Nat, r'.holdsColumn j ↔ r.Reaches n p j

theorem holdsColumn_iff {r : Range} {i : Nat} :
  r.holdsColumn i ↔ r.firstColumn ≤ i ∧ i ≤ r.lastColumn
  := by
  rw [holdsColumn, Bool.and_eq_true, decide_eq_true_iff, decide_eq_true_iff]

theorem firstRow_le_lastRow (r : Range) :
  r.firstRow ≤ r.lastRow
  := Nat.le_trans (Nat.min_le_left _ _) (Nat.le_max_left _ _)

/-- A range of cells whose rows are those of another range. -/
theorem holdsRow_cells (r : Range) (first last row : Nat) :
  (cells r.firstRow first r.lastRow last).holdsRow row = r.holdsRow row
  := by
  have hfirst : (cells r.firstRow first r.lastRow last).firstRow = r.firstRow :=
    Nat.min_eq_left r.firstRow_le_lastRow
  have hlast : (cells r.firstRow first r.lastRow last).lastRow = r.lastRow :=
    Nat.max_eq_right r.firstRow_le_lastRow
  rw [holdsRow, holdsRow, hfirst, hlast]

/-- A range of cells from the first of its columns to the last one. -/
theorem holdsColumn_cells_iff {startRow endRow first last i : Nat} (h : first ≤ last) :
  (cells startRow first endRow last).holdsColumn i ↔ first ≤ i ∧ i ≤ last
  := by
  have hfirst : (cells startRow first endRow last).firstColumn = first := Nat.min_eq_left h
  have hlast : (cells startRow first endRow last).lastColumn = last := Nat.max_eq_right h
  rw [holdsColumn_iff, hfirst, hlast]

theorem firstColumn_columns {first last : Nat} (h : first ≤ last) :
  (columns first last).firstColumn = first
  := Nat.min_eq_left h

theorem lastColumn_columns {first last : Nat} (h : first ≤ last) :
  (columns first last).lastColumn = last
  := Nat.max_eq_right h

theorem mem_columnIndexes {r : Range} {i : Nat} :
  i ∈ r.columnIndexes ↔ r.holdsColumn i
  := mem_indexes.trans holdsColumn_iff.symm

end Range

namespace Selection

/-- The ranges of a kind, in the order in which they were made. -/
def ofKind (s : Selection) (kind : RangeKind) : List Range := s.ranges.filter (·.kind = kind)

theorem mem_ofKind {s : Selection} {kind : RangeKind} {r : Range} :
  r ∈ s.ofKind kind ↔ r ∈ s.ranges ∧ r.kind = kind
  := by
  rw [ofKind, List.mem_filter, decide_eq_true_iff]

theorem isColumnSelected_iff {s : Selection} {i : Nat} :
  s.isColumnSelected i ↔ ∃ r ∈ s.ofKind .columns, r.holdsColumn i
  := by
  simp only [isColumnSelected, List.any_eq_true, Bool.and_eq_true, decide_eq_true_iff, mem_ofKind,
    and_assoc]

theorem isRowSelected_iff {s : Selection} {row : Nat} :
  s.isRowSelected row ↔ ∃ r ∈ s.ofKind .rows, r.holdsRow row
  := by
  simp only [isRowSelected, List.any_eq_true, Bool.and_eq_true, decide_eq_true_iff, mem_ofKind,
    and_assoc]

theorem isCellSelected_iff {s : Selection} {row i : Nat} :
  s.isCellSelected row i ↔ ∃ r ∈ s.ofKind .cells, r.holdsRow row ∧ r.holdsColumn i
  := by
  simp only [isCellSelected, Range.contains, List.any_eq_true, Bool.and_eq_true,
    decide_eq_true_iff, mem_ofKind, and_assoc]

/-- The selection `s'` is `s` after each column `i` of the first `n` has got the index `p i`. -/
structure IsCarried (n : Nat) (p : Nat → Nat) (s s' : Selection) : Prop where
  isColumnSelected_eq : ∀ i < n, s'.isColumnSelected (p i) = s.isColumnSelected i
  rows_eq : s'.ofKind .rows = s.ofKind .rows
  isRowSelected_eq : ∀ row : Nat, s'.isRowSelected row = s.isRowSelected row
  /-- One by one, the ranges of cells that stay are those whose columns stand side by side. -/
  cells : List.Forall₂ (Range.IsCarried n p)
    ((s.ofKind .cells).filter (·.StandsTogether n p)) (s'.ofKind .cells)
  /-- No cell becomes selected. -/
  isCellSelected_of : ∀ row : Nat, ∀ i < n, s'.isCellSelected row (p i) → s.isCellSelected row i
  /-- The ranges of columns are ascending, and there is a column between any two of them. -/
  columns_apart : (s'.ofKind .columns).Pairwise fun r next => r.lastColumn + 1 < next.firstColumn

/-- The new indexes of the first `n` columns. -/
def positions (n : Nat) (p : Nat → Nat) : Array Nat := ((List.range n).map p).toArray

section Remap

variable {n : Nat} {p : Nat → Nat} {s : Selection} {r r' : Range}

theorem getElem?_positions {i j : Nat} :
  (positions n p)[i]? = some j ↔ i < n ∧ p i = j
  := by
  rw [positions, List.getElem?_toArray, List.getElem?_map, Option.map_eq_some_iff]
  simp only [List.getElem?_eq_some_iff, List.getElem_range, List.length_range]
  constructor
  · rintro ⟨_, ⟨hlt, rfl⟩, hj⟩
    apply And.intro hlt hj
  · rintro ⟨hlt, hj⟩
    apply Exists.intro i ⟨⟨hlt, rfl⟩, hj⟩

theorem mem_filterMap_positions {j : Nat} :
  j ∈ r.columnIndexes.filterMap ((positions n p)[·]?) ↔ r.Reaches n p j
  := by
  simp only [List.mem_filterMap, Range.mem_columnIndexes, getElem?_positions, Range.Reaches]
  apply exists_congr
  intro i
  apply and_left_comm

/-- The new indexes of the columns of a range, ascending. -/
theorem pairwise_lt_mergeSort_positions (hp : Function.Injective p) (r : Range) :
  ((r.columnIndexes.filterMap ((positions n p)[·]?)).mergeSort (· ≤ ·)).Pairwise (· < ·)
  := by
  have hindexes : r.columnIndexes.Nodup := List.nodup_range'
  have hnodup : (r.columnIndexes.filterMap ((positions n p)[·]?)).Nodup := by
    apply hindexes.filterMap
    intro i i' j hi hi'
    rw [Option.mem_def, getElem?_positions] at hi hi'
    apply hp (hi.2.trans hi'.2.symm)
  have hsorted := (List.mergeSort_perm _ (· ≤ ·)).nodup_iff.mpr hnodup
  apply ((pairwise_le_mergeSort _).and hsorted).imp
  rintro a b ⟨hle, hne⟩
  apply Nat.lt_of_le_of_ne hle hne

/-- The new indexes of the columns of a range leave no gap exactly if the columns stand side by
side. -/
theorem isContiguous_positions_iff (hp : Function.Injective p) (r : Range) :
  isContiguous ((r.columnIndexes.filterMap ((positions n p)[·]?)).mergeSort (· ≤ ·))
    ↔ ∀ i < n, r.holdsColumn i → r.FillsFrom n p (p i)
  := by
  rw [isContiguous_iff_isGapFree (pairwise_lt_mergeSort_positions hp r), IsGapFree]
  simp only [List.mem_mergeSort, mem_filterMap_positions]
  constructor
  · intro h i hi hri j hj hrj k hkj hik
    apply h (p i) ⟨i, hi, hri, rfl⟩ (p j) ⟨j, hj, hrj, rfl⟩ k hik hkj
  · rintro h _ ⟨i, hi, hri, rfl⟩ _ ⟨j, hj, hrj, rfl⟩ k hik hkj
    apply h i hi hri j hj hrj k hkj hik

theorem isCarried_of_remapCells (h : remapCells (positions n p) r = some r') :
  r'.kind = .cells ∧ r.IsCarried n p r'
  := by
  rw [remapCells] at h
  generalize hcolumns : (r.columnIndexes.filterMap ((positions n p)[·]?)).mergeSort (· ≤ ·)
    = columns at h
  split at h
  case h_2 => cases h
  case h_1 first last hfirst hlast =>
    split at h
    case isFalse => cases h
    case isTrue hcontiguous =>
      obtain rfl := Option.some.inj h
      have hmem : ∀ j, first ≤ j ∧ j ≤ last ↔ r.Reaches n p j := by
        intro j
        rw [← mem_iff_of_isContiguous hcontiguous hfirst hlast, ← hcolumns, List.mem_mergeSort,
          mem_filterMap_positions]
      have hle : first ≤ last :=
        ((mem_iff_of_isContiguous hcontiguous hfirst hlast).mp (List.mem_of_mem_head? hfirst)).2
      refine ⟨rfl, ?_, ?_⟩
      · intro row
        apply Range.holdsRow_cells
      · intro j
        rw [Range.holdsColumn_cells_iff hle, hmem]

/-- A range of cells whose columns stand side by side stays. -/
theorem isSome_remapCells_iff (hp : Function.Injective p) (r : Range) :
  (remapCells (positions n p) r).isSome ↔ r.StandsTogether n p
  := by
  rw [Range.StandsTogether, ← isContiguous_positions_iff hp, remapCells]
  have hmem : ∀ j, j ∈ (r.columnIndexes.filterMap ((positions n p)[·]?)).mergeSort (· ≤ ·)
      ↔ r.Reaches n p j := by
    intro j
    rw [List.mem_mergeSort, mem_filterMap_positions]
  generalize (r.columnIndexes.filterMap ((positions n p)[·]?)).mergeSort (· ≤ ·) = columns
    at hmem ⊢
  cases columns with
  | nil =>
    apply iff_of_false Bool.false_ne_true
    rintro ⟨⟨i, hi, hri⟩, -⟩
    have hnone := (hmem (p i)).mpr ⟨i, hi, hri, rfl⟩
    cases hnone
  | cons first rest =>
    have hsome : ∃ i, i < n ∧ r.holdsColumn i := by
      obtain ⟨i, hi, hri, -⟩ := (hmem first).mp List.mem_cons_self
      apply Exists.intro i ⟨hi, hri⟩
    rw [List.head?_cons, List.getLast?_cons]
    dsimp only
    split
    case isTrue hcontiguous => apply iff_of_true rfl ⟨hsome, hcontiguous⟩
    case isFalse hgap =>
      apply iff_of_false Bool.false_ne_true
      rintro ⟨-, hcontiguous⟩
      apply hgap hcontiguous

/-! ### The whole selection -/

/-- A range after a move, unless it is one of columns or is torn apart. -/
def keptRange (positions : Array Nat) (r : Range) : Option Range :=
  match r.kind with
  | .rows => some r
  | .columns => none
  | .cells => remapCells positions r

/-- The runs of the columns that are selected after a move. -/
def movedRuns (n : Nat) (p : Nat → Nat) (s : Selection) : List (Nat × Nat) :=
  runs (sorted ((s.ofKind .columns).flatMap fun r =>
    r.columnIndexes.filterMap ((positions n p)[·]?)))

theorem ranges_remapColumns :
  (s.remapColumns (positions n p)).ranges
    = s.ranges.filterMap (keptRange (positions n p))
      ++ (s.movedRuns n p).map fun run => .columns run.1 run.2
  := rfl

theorem kind_of_keptRange (h : keptRange (positions n p) r = some r') :
  r'.kind = r.kind
  := by
  rw [keptRange] at h
  split at h
  case h_1 => rw [Option.some.inj h]
  case h_2 => cases h
  case h_3 hkind => rw [hkind, (isCarried_of_remapCells h).1]

/-- Ranges that are kept stay of their kind. -/
theorem filter_filterMap_keptRange (kind : RangeKind) :
  (s.ranges.filterMap (keptRange (positions n p))).filter (·.kind = kind)
    = (s.ofKind kind).filterMap (keptRange (positions n p))
  := by
  rw [ofKind, List.filter_filterMap, List.filterMap_filter]
  congr 1
  funext r
  cases hr : keptRange (positions n p) r with
  | none => simp
  | some r' => simp [Option.filter, kind_of_keptRange hr]

theorem ofKind_remapColumns_columns :
  (s.remapColumns (positions n p)).ofKind .columns
    = (s.movedRuns n p).map fun run => .columns run.1 run.2
  := by
  have hkept : (s.ofKind .columns).filterMap (keptRange (positions n p)) = [] := by
    rw [List.filterMap_eq_nil_iff]
    intro r hr
    rw [keptRange, (mem_ofKind.mp hr).2]
  have hruns : ∀ r ∈ (s.movedRuns n p).map fun run => Range.columns run.1 run.2,
      decide (r.kind = .columns) = true := by
    intro r hr
    obtain ⟨run, -, rfl⟩ := List.mem_map.mp hr
    rfl
  rw [ofKind, ranges_remapColumns, List.filter_append, filter_filterMap_keptRange, hkept,
    List.nil_append, List.filter_eq_self.mpr hruns]

/-- Ranges of other kinds come from those that are kept. -/
theorem ofKind_remapColumns {kind : RangeKind} (h : kind ≠ .columns) :
  (s.remapColumns (positions n p)).ofKind kind
    = (s.ofKind kind).filterMap (keptRange (positions n p))
  := by
  have hruns : ∀ r ∈ (s.movedRuns n p).map fun run => Range.columns run.1 run.2,
      ¬ decide (r.kind = kind) = true := by
    intro r hr
    obtain ⟨run, -, rfl⟩ := List.mem_map.mp hr
    rw [decide_eq_true_iff]
    apply h.symm
  rw [ofKind, ranges_remapColumns, List.filter_append, filter_filterMap_keptRange,
    List.filter_eq_nil_iff.mpr hruns, List.append_nil]

theorem ofKind_remapColumns_rows :
  (s.remapColumns (positions n p)).ofKind .rows = s.ofKind .rows
  := by
  rw [ofKind_remapColumns (by decide)]
  conv_rhs => rw [← List.filterMap_some (l := s.ofKind .rows)]
  apply List.filterMap_congr
  intro r hr
  rw [keptRange, (mem_ofKind.mp hr).2]

theorem ofKind_remapColumns_cells :
  (s.remapColumns (positions n p)).ofKind .cells
    = (s.ofKind .cells).filterMap (remapCells (positions n p))
  := by
  rw [ofKind_remapColumns (by decide)]
  apply List.filterMap_congr
  intro r hr
  rw [keptRange, (mem_ofKind.mp hr).2]

/-- Entry by entry, what a partial map leaves of a list belongs to the entries that it keeps. -/
theorem forall₂_filter_filterMap {β γ : Type} {R : β → γ → Prop} {q : β → Bool}
    {f : β → Option γ} (hq : ∀ a, (f a).isSome = q a) (hR : ∀ a b, f a = some b → R a b) :
  ∀ items : List β, List.Forall₂ R (items.filter q) (items.filterMap f)
  | [] => List.Forall₂.nil
  | a :: rest => by
    have ih := forall₂_filter_filterMap hq hR rest
    have ha := hq a
    cases hf : f a with
    | none =>
      rw [hf] at ha
      rw [List.filterMap_cons_none hf, List.filter_cons, ← ha]
      apply ih
    | some b =>
      rw [hf] at ha
      rw [List.filterMap_cons_some hf, List.filter_cons_of_pos ha.symm]
      apply List.Forall₂.cons (hR a b hf) ih

theorem runsCover_movedRuns (n : Nat) (p : Nat → Nat) (s : Selection) :
  RunsCover (s.movedRuns n p) (sorted ((s.ofKind .columns).flatMap fun r =>
    r.columnIndexes.filterMap ((positions n p)[·]?)))
  := runsCover_runs (pairwise_lt_sorted _)

/-- After a move, the selected columns are those at the new indexes. -/
theorem isColumnSelected_remapColumns_iff {j : Nat} :
  (s.remapColumns (positions n p)).isColumnSelected j
    ↔ ∃ r ∈ s.ofKind .columns, r.Reaches n p j
  := by
  have cover := runsCover_movedRuns n p s
  have hmem := cover.mem_iff j
  rw [mem_sorted, List.mem_flatMap] at hmem
  simp only [mem_filterMap_positions] at hmem
  rw [← hmem, isColumnSelected_iff, ofKind_remapColumns_columns]
  simp only [List.mem_map, exists_exists_and_eq_and]
  apply exists_congr
  intro run
  apply and_congr_right
  intro hrun
  rw [Range.holdsColumn_iff, Range.firstColumn_columns (cover.ordered run hrun),
    Range.lastColumn_columns (cover.ordered run hrun)]

/-- If no two columns get the same index, a selection is carried along. -/
theorem isCarried_remapColumns (hp : Function.Injective p) (s : Selection) :
  s.IsCarried n p (s.remapColumns (positions n p))
  := by
  constructor
  case isColumnSelected_eq =>
    intro i hi
    rw [Bool.eq_iff_iff, isColumnSelected_remapColumns_iff, isColumnSelected_iff]
    apply exists_congr
    intro r
    apply and_congr_right
    intro _
    constructor
    · rintro ⟨i', -, hri', hpi'⟩
      rw [← hp hpi']
      apply hri'
    · intro hri
      apply Exists.intro i ⟨hi, hri, rfl⟩
  case rows_eq => apply ofKind_remapColumns_rows
  case isRowSelected_eq =>
    intro row
    rw [Bool.eq_iff_iff, isRowSelected_iff, isRowSelected_iff, ofKind_remapColumns_rows]
  case cells =>
    rw [ofKind_remapColumns_cells]
    apply forall₂_filter_filterMap
    · intro r
      rw [Bool.eq_iff_iff, isSome_remapCells_iff hp, decide_eq_true_iff]
    · intro r r' hr
      apply (isCarried_of_remapCells hr).2
  case isCellSelected_of =>
    intro row i hi hselected
    obtain ⟨r', hr', hrow, hcolumn⟩ := isCellSelected_iff.mp hselected
    rw [ofKind_remapColumns_cells] at hr'
    obtain ⟨r, hr, hremap⟩ := List.mem_filterMap.mp hr'
    have hcarried := (isCarried_of_remapCells hremap).2
    obtain ⟨i', -, hri', hpi'⟩ := (hcarried.holdsColumn_iff (p i)).mp hcolumn
    rw [hcarried.holdsRow_eq] at hrow
    rw [hp hpi'] at hri'
    apply isCellSelected_iff.mpr ⟨r, hr, hrow, hri'⟩
  case columns_apart =>
    have cover := runsCover_movedRuns n p s
    rw [ofKind_remapColumns_columns, List.pairwise_map]
    apply cover.apart.imp_of_mem
    intro run next hrun hnext hapart
    rw [Range.lastColumn_columns (cover.ordered run hrun),
      Range.firstColumn_columns (cover.ordered next hnext)]
    apply hapart

end Remap

end Selection

end DataGrid
