import DataGrid.Proofs.Selection.Remap

/-!
# Selections inside a table

A selection is inside a table when each of its ranges begins and ends at rows and shown columns that
there are (`Selection.IsInside`).  It stays there when ranges are added that are inside, when rows
or columns are taken out of it, and when columns move.
-/

namespace DataGrid

namespace Range

/-- The range begins and ends within so many rows and shown columns.  Only those count that its kind
is about. -/
structure IsInside (rows columns : Nat) (r : Range) : Prop where
  startRow_lt : r.kind ≠ .columns → r.startRow < rows
  endRow_lt : r.kind ≠ .columns → r.endRow < rows
  startColumn_lt : r.kind ≠ .rows → r.startColumn < columns
  endColumn_lt : r.kind ≠ .rows → r.endColumn < columns

/-- The range is inside, and it is one of rows only if these may be selected. -/
structure Fits (rows columns : Nat) (R : Prop) (r : Range) : Prop
    extends r.IsInside rows columns where
  rows_allowed : r.kind = .rows → R

variable {rows columns : Nat} {R R' : Prop} {r q : Range}

/-! ### The ends of a range -/

theorem holdsRow_startRow (r : Range) :
  r.holdsRow r.startRow
  := by
  rw [holdsRow, Bool.and_eq_true]
  exact ⟨decide_eq_true (Nat.min_le_left _ _), decide_eq_true (Nat.le_max_left _ _)⟩

theorem holdsRow_endRow (r : Range) :
  r.holdsRow r.endRow
  := by
  rw [holdsRow, Bool.and_eq_true]
  exact ⟨decide_eq_true (Nat.min_le_right _ _), decide_eq_true (Nat.le_max_right _ _)⟩

theorem holdsColumn_startColumn (r : Range) :
  r.holdsColumn r.startColumn
  := holdsColumn_iff.mpr ⟨Nat.min_le_left _ _, Nat.le_max_left _ _⟩

theorem holdsColumn_endColumn (r : Range) :
  r.holdsColumn r.endColumn
  := holdsColumn_iff.mpr ⟨Nat.min_le_right _ _, Nat.le_max_right _ _⟩

/-- A row of a range is one of the table. -/
theorem IsInside.row_lt (h : r.IsInside rows columns) (hkind : r.kind ≠ .columns) {row : Nat}
    (hrow : r.holdsRow row) :
  row < rows
  := by
  rw [holdsRow, Bool.and_eq_true, decide_eq_true_iff] at hrow
  apply Nat.lt_of_le_of_lt (of_decide_eq_true hrow.2)
  apply Nat.max_lt.mpr ⟨h.startRow_lt hkind, h.endRow_lt hkind⟩

/-- A column of a range is one of the table. -/
theorem IsInside.column_lt (h : r.IsInside rows columns) (hkind : r.kind ≠ .rows) {i : Nat}
    (hi : r.holdsColumn i) :
  i < columns
  := by
  apply Nat.lt_of_le_of_lt (holdsColumn_iff.mp hi).2
  apply Nat.max_lt.mpr ⟨h.startColumn_lt hkind, h.endColumn_lt hkind⟩

/-! ### Ranges between given ends -/

theorem fits_cells {startRow startColumn endRow endColumn : Nat} (hstartRow : startRow < rows)
    (hstartColumn : startColumn < columns) (hendRow : endRow < rows)
    (hendColumn : endColumn < columns) :
  (cells startRow startColumn endRow endColumn).Fits rows columns R
  := by
  refine ⟨⟨fun _ => hstartRow, fun _ => hendRow, fun _ => hstartColumn, fun _ => hendColumn⟩, ?_⟩
  intro hkind
  cases hkind

theorem fits_rows {first last : Nat} (hfirst : first < rows) (hlast : last < rows) (hR : R) :
  (Range.rows first last).Fits rows columns R
  := ⟨⟨fun _ => hfirst, fun _ => hlast, fun hkind => absurd rfl hkind,
    fun hkind => absurd rfl hkind⟩, fun _ => hR⟩

theorem fits_columns {first last : Nat} (hfirst : first < columns) (hlast : last < columns) :
  (Range.columns first last).Fits rows columns R
  := by
  refine ⟨⟨fun hkind => absurd rfl hkind, fun hkind => absurd rfl hkind, fun _ => hfirst,
    fun _ => hlast⟩, ?_⟩
  intro hkind
  cases hkind

/-! ### What becomes of a range -/

namespace Fits

theorem mono (h : r.Fits rows columns R) (hR : R → R') :
  r.Fits rows columns R'
  := ⟨h.toIsInside, fun hkind => hR (h.rows_allowed hkind)⟩

/-- What is left of a range of rows lies between its ends. -/
theorem withoutRow (h : r.Fits rows columns R) {row : Nat} (hq : q ∈ r.withoutRow row) :
  q.Fits rows columns R
  := by
  rw [Range.withoutRow] at hq
  split at hq
  case isTrue hheld =>
    obtain ⟨hkind, hrow⟩ := (Bool.and_eq_true _ _).mp hheld
    have hrows : r.kind = .rows := of_decide_eq_true hkind
    have hR := h.rows_allowed hrows
    have hcolumns : r.kind ≠ .columns := by simp [hrows]
    have hrow := h.row_lt hcolumns hrow
    have hlast : r.lastRow < rows :=
      Nat.max_lt.mpr ⟨h.startRow_lt hcolumns, h.endRow_lt hcolumns⟩
    obtain hq | hq := List.mem_append.mp hq
    · split at hq
      · obtain rfl := List.mem_singleton.mp hq
        apply fits_rows _ _ hR
        · omega
        · omega
      · cases hq
    · split at hq
      · obtain rfl := List.mem_singleton.mp hq
        apply fits_rows _ hlast hR
        omega
      · cases hq
  case isFalse =>
    obtain rfl := List.mem_singleton.mp hq
    apply h

/-- What is left of a range of columns lies between its ends. -/
theorem withoutColumn (h : r.Fits rows columns R) {i : Nat} (hq : q ∈ r.withoutColumn i) :
  q.Fits rows columns R
  := by
  rw [Range.withoutColumn] at hq
  split at hq
  case isTrue hheld =>
    obtain ⟨hkind, hi⟩ := (Bool.and_eq_true _ _).mp hheld
    have hcolumns : r.kind = .columns := of_decide_eq_true hkind
    have hrows : r.kind ≠ .rows := by simp [hcolumns]
    have hi := h.column_lt hrows hi
    have hlast : r.lastColumn < columns :=
      Nat.max_lt.mpr ⟨h.startColumn_lt hrows, h.endColumn_lt hrows⟩
    obtain hq | hq := List.mem_append.mp hq
    · split at hq
      · obtain rfl := List.mem_singleton.mp hq
        apply fits_columns
        · omega
        · omega
      · cases hq
    · split at hq
      · obtain rfl := List.mem_singleton.mp hq
        apply fits_columns _ hlast
        omega
      · cases hq
  case isFalse =>
    obtain rfl := List.mem_singleton.mp hq
    apply h

/-- A range of cells that is still one after a move is among the columns that have moved. -/
theorem remapCells {n : Nat} {p : Nat → Nat} (h : r.Fits rows columns R)
    (hkind : r.kind ≠ .columns) (hp : ∀ i < n, p i < columns)
    (hq : Selection.remapCells (Selection.positions n p) r = some q) :
  q.Fits rows columns R
  := by
  obtain ⟨hcells, hcarried⟩ := Selection.isCarried_of_remapCells hq
  have hrow {row : Nat} (hheld : q.holdsRow row) : row < rows := by
    rw [hcarried.holdsRow_eq] at hheld
    apply h.row_lt hkind hheld
  have hcolumn {j : Nat} (hheld : q.holdsColumn j) : j < columns := by
    obtain ⟨i, hi, -, rfl⟩ := (hcarried.holdsColumn_iff j).mp hheld
    apply hp i hi
  constructor
  case toIsInside =>
    exact ⟨fun _ => hrow q.holdsRow_startRow, fun _ => hrow q.holdsRow_endRow,
      fun _ => hcolumn q.holdsColumn_startColumn, fun _ => hcolumn q.holdsColumn_endColumn⟩
  case rows_allowed =>
    intro hrows
    rw [hcells] at hrows
    cases hrows

end Fits

end Range

namespace Selection

/-- Every range begins and ends within so many rows and shown columns. -/
def IsInside (rows columns : Nat) (s : Selection) : Prop :=
  ∀ r ∈ s.ranges, r.IsInside rows columns

/-- Every range is inside, and there are ranges of rows only if these may be selected. -/
def Fits (rows columns : Nat) (R : Prop) (s : Selection) : Prop :=
  ∀ r ∈ s.ranges, r.Fits rows columns R

/-- A list of ranges after the first one of a kind has been replaced. -/
theorem mem_replaceFirst {r q : Range} :
  ∀ {ranges after : List Range}, replaceFirst r ranges = some after → q ∈ after →
    q = r ∨ q ∈ ranges
  | [], _, h, _ => by
    cases h
  | first :: rest, _, h, hq => by
    rw [replaceFirst] at h
    split at h
    case isTrue =>
      obtain rfl := Option.some.inj h
      obtain rfl | hq := List.mem_cons.mp hq
      · apply Or.inl rfl
      · apply Or.inr (List.mem_cons_of_mem _ hq)
    case isFalse =>
      obtain ⟨after, hafter, rfl⟩ := Option.map_eq_some_iff.mp h
      obtain rfl | hq := List.mem_cons.mp hq
      · apply Or.inr List.mem_cons_self
      · obtain rfl | hq := mem_replaceFirst hafter hq
        · apply Or.inl rfl
        · apply Or.inr (List.mem_cons_of_mem _ hq)

/-- A range that reaches on is the new one, or it was there before. -/
theorem mem_extendLast {s : Selection} {r q : Range} (hq : q ∈ (s.extendLast r).ranges) :
  q = r ∨ q ∈ s.ranges
  := by
  rw [extendLast] at hq
  split at hq
  case h_1 after hafter =>
    obtain rfl | hq := mem_replaceFirst hafter (List.mem_reverse.mp hq)
    · apply Or.inl rfl
    · apply Or.inr (List.mem_reverse.mp hq)
  case h_2 =>
    obtain hq | hq := List.mem_append.mp hq
    · apply Or.inr hq
    · apply Or.inl (List.mem_singleton.mp hq)

namespace Fits

variable {rows columns : Nat} {R R' : Prop} {s : Selection} {r : Range}

theorem isInside (h : s.Fits rows columns R) :
  s.IsInside rows columns
  := fun r hr => (h r hr).toIsInside

theorem mono (h : s.Fits rows columns R) (hR : R → R') :
  s.Fits rows columns R'
  := fun r hr => (h r hr).mono hR

theorem empty :
  Selection.empty.Fits rows columns R
  := by
  intro r hr
  cases hr

/-- Rows may be selected where some are. -/
theorem rows_allowed (h : s.Fits rows columns R) (hr : s.last? .rows = some r) :
  R
  := by
  have hkind : r.kind = .rows := by simpa using List.find?_some hr
  apply (h r (List.mem_reverse.mp (List.mem_of_find?_eq_some hr))).rows_allowed hkind

theorem push (h : s.Fits rows columns R) (hr : r.Fits rows columns R) (keep : Bool) :
  (s.push r keep).Fits rows columns R
  := by
  intro q hq
  obtain hq | hq := List.mem_append.mp hq
  · split at hq
    · apply h q hq
    · cases hq
  · obtain rfl := List.mem_singleton.mp hq
    apply hr

theorem extendLast (h : s.Fits rows columns R) (hr : r.Fits rows columns R) :
  (s.extendLast r).Fits rows columns R
  := by
  intro q hq
  obtain rfl | hq := mem_extendLast hq
  · apply hr
  · apply h q hq

theorem selectColumns (h : s.Fits rows columns R) {first last : Nat} (hfirst : first < columns)
    (hlast : last < columns) :
  (s.selectColumns first last).Fits rows columns R
  := by
  intro q hq
  obtain hq | hq := List.mem_append.mp hq
  · apply h q (List.mem_filter.mp hq).1
  · obtain rfl := List.mem_singleton.mp hq
    apply Range.fits_columns hfirst hlast

theorem deselectRow (h : s.Fits rows columns R) (row : Nat) :
  (s.deselectRow row).Fits rows columns R
  := by
  intro q hq
  obtain ⟨r, hr, hq⟩ := List.mem_flatMap.mp hq
  apply (h r hr).withoutRow hq

theorem deselectColumn (h : s.Fits rows columns R) (i : Nat) :
  (s.deselectColumn i).Fits rows columns R
  := by
  intro q hq
  obtain ⟨r, hr, hq⟩ := List.mem_flatMap.mp hq
  apply (h r hr).withoutColumn hq

/-- A move that leads to columns of the table keeps the selection there. -/
theorem remapColumns {n : Nat} {p : Nat → Nat} (h : s.Fits rows columns R)
    (hp : ∀ i < n, p i < columns) :
  (s.remapColumns (positions n p)).Fits rows columns R
  := by
  intro q hq
  rw [ranges_remapColumns] at hq
  obtain hq | hq := List.mem_append.mp hq
  case inl =>
    obtain ⟨r, hr, hq⟩ := List.mem_filterMap.mp hq
    rw [keptRange] at hq
    split at hq
    case h_1 =>
      obtain rfl := Option.some.inj hq
      apply h r hr
    case h_2 => cases hq
    case h_3 hkind =>
      apply (h r hr).remapCells _ hp hq
      simp [hkind]
  case inr =>
    obtain ⟨run, hrun, rfl⟩ := List.mem_map.mp hq
    have cover := runsCover_movedRuns n p s
    -- both ends of a run are new indexes of columns
    have hend {j : Nat} (hfirst : run.1 ≤ j) (hlast : j ≤ run.2) : j < columns := by
      have hmem := (cover.mem_iff j).mp ⟨run, hrun, hfirst, hlast⟩
      obtain ⟨r, -, hj⟩ := List.mem_flatMap.mp (mem_sorted.mp hmem)
      obtain ⟨i, hi, -, rfl⟩ := mem_filterMap_positions.mp hj
      apply hp i hi
    have hordered := cover.ordered run hrun
    apply Range.fits_columns
    · apply hend (Nat.le_refl _) hordered
    · apply hend hordered (Nat.le_refl _)

end Fits

end Selection

end DataGrid
