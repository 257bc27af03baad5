import DataGrid.Proofs.Selection.Inside

/-!
# Taking single rows and columns in and out

What a selection selects is a matter of rows, columns and cells (`Selection.selects`).  A row or
column is toggled by taking it out of the ranges that hold it, or by adding a range that holds it
alone, and either changes nothing else (`Selection.toggles_toggled`).  Reaching for it afterwards
makes its range the latest one of its kind, so that it is selected, whether it was taken in or out
(`Selection.toggles_reached_iff`).
-/

namespace DataGrid

/-- Something that can be selected by itself. -/
inductive Spot where
  | row (row : Nat)
  | column (column : Nat)
  | cell (row column : Nat)
deriving DecidableEq

namespace Range

/-- Whether a range selects something. -/
def covers (r : Range) : Spot → Bool
  | .row row => r.kind = .rows && r.holdsRow row
  | .column i => r.kind = .columns && r.holdsColumn i
  | .cell row i => r.kind = .cells && r.contains row i

theorem holdsRow_iff {r : Range} {row : Nat} :
  r.holdsRow row = true ↔ r.firstRow ≤ row ∧ row ≤ r.lastRow
  := by
  rw [holdsRow, Bool.and_eq_true, decide_eq_true_iff, decide_eq_true_iff]

theorem holdsRow_rows_iff {first last row : Nat} :
  (rows first last).holdsRow row = true ↔ min first last ≤ row ∧ row ≤ max first last
  := holdsRow_iff

theorem holdsColumn_columns_iff {first last i : Nat} :
  (columns first last).holdsColumn i = true ↔ min first last ≤ i ∧ i ≤ max first last
  := holdsColumn_iff

/-- The range of one row selects that row. -/
theorem covers_rows_self (row : Nat) (x : Spot) :
  (rows row row).covers x = decide (x = .row row)
  := by
  apply Bool.eq_iff_iff.mpr
  cases x with
  | row k =>
    change (rows row row).holdsRow k = true ↔ _
    rw [holdsRow_rows_iff, decide_eq_true_iff, Spot.row.injEq]
    omega
  | column i => simp [covers, rows]
  | cell k i => simp [covers, rows]

/-- The range of one column selects that column. -/
theorem covers_columns_self (i : Nat) (x : Spot) :
  (columns i i).covers x = decide (x = .column i)
  := by
  apply Bool.eq_iff_iff.mpr
  cases x with
  | row k => simp [covers, columns]
  | column j =>
    change (columns i i).holdsColumn j = true ↔ _
    rw [holdsColumn_columns_iff, decide_eq_true_iff, Spot.column.injEq]
    omega
  | cell k j => simp [covers, columns]

/-- What is left of a range without a row selects what the range selects, without that row. -/
theorem any_covers_withoutRow (r : Range) (row : Nat) (x : Spot) :
  (r.withoutRow row).any (·.covers x) = (r.covers x && x ≠ .row row)
  := by
  rw [withoutRow]
  split
  case isTrue hholds =>
    obtain ⟨hkind, hholds⟩ := Bool.and_eq_true_iff.mp hholds
    have hkind : r.kind = .rows := of_decide_eq_true hkind
    obtain ⟨hfirst, hlast⟩ := holdsRow_iff.mp hholds
    cases x with
    | row k =>
      have hr : r.covers (.row k) = r.holdsRow k := by simp [covers, hkind]
      have hrows : ∀ a b, (rows a b).covers (.row k) = (rows a b).holdsRow k := fun _ _ => rfl
      apply Bool.eq_iff_iff.mpr
      rw [hr, Bool.and_eq_true, holdsRow_iff, decide_eq_true_iff, Ne, Spot.row.injEq,
        List.any_append, Bool.or_eq_true]
      split <;> split <;>
        simp only [List.any_cons, List.any_nil, Bool.or_false, hrows, holdsRow_rows_iff,
          Bool.false_eq_true, false_or, or_false, false_iff] <;> omega
    | column i => split <;> split <;> simp [covers, hkind, rows]
    | cell k i => split <;> split <;> simp [covers, hkind, rows]
  case isFalse hholds =>
    rw [List.any_cons, List.any_nil, Bool.or_false]
    by_cases hx : x = .row row
    · subst hx
      rw [covers, Bool.eq_false_iff.mpr hholds]
      rfl
    · rw [decide_eq_true hx, Bool.and_true]

/-- What is left of a range without a column selects what the range selects, without that
column. -/
theorem any_covers_withoutColumn (r : Range) (i : Nat) (x : Spot) :
  (r.withoutColumn i).any (·.covers x) = (r.covers x && x ≠ .column i)
  := by
  rw [withoutColumn]
  split
  case isTrue hholds =>
    obtain ⟨hkind, hholds⟩ := Bool.and_eq_true_iff.mp hholds
    have hkind : r.kind = .columns := of_decide_eq_true hkind
    obtain ⟨hfirst, hlast⟩ := holdsColumn_iff.mp hholds
    cases x with
    | row k => split <;> split <;> simp [covers, hkind, columns]
    | column j =>
      have hr : r.covers (.column j) = r.holdsColumn j := by simp [covers, hkind]
      have hcolumns : ∀ a b, (columns a b).covers (.column j) = (columns a b).holdsColumn j :=
        fun _ _ => rfl
      apply Bool.eq_iff_iff.mpr
      rw [hr, Bool.and_eq_true, holdsColumn_iff, decide_eq_true_iff, Ne, Spot.column.injEq,
        List.any_append, Bool.or_eq_true]
      split <;> split <;>
        simp only [List.any_cons, List.any_nil, Bool.or_false, hcolumns, holdsColumn_columns_iff,
          Bool.false_eq_true, false_or, or_false, false_iff] <;> omega
    | cell k j => split <;> split <;> simp [covers, hkind, columns]
  case isFalse hholds =>
    rw [List.any_cons, List.any_nil, Bool.or_false]
    by_cases hx : x = .column i
    · subst hx
      rw [covers, Bool.eq_false_iff.mpr hholds]
      rfl
    · rw [decide_eq_true hx, Bool.and_true]

end Range

namespace Selection

/-- Whether something is selected. -/
def selects (s : Selection) : Spot → Bool
  | .row row => s.isRowSelected row
  | .column i => s.isColumnSelected i
  | .cell row i => s.isCellSelected row i

theorem selects_eq (s : Selection) (x : Spot) :
  s.selects x = s.ranges.any (·.covers x)
  := by
  cases x <;> rfl

/-- One selection is the other with something taken in or out, and nothing else. -/
def Toggles (s : Selection) (x : Spot) (s' : Selection) : Prop :=
  ∀ y, s'.selects y = if y = x then !s.selects y else s.selects y

/-! ### The latest range -/

variable {s : Selection} {r : Range} {x : Spot}

theorem mem_of_last? {kind : RangeKind} (h : s.last? kind = some r) :
  r ∈ s.ranges
  := List.mem_reverse.mp (List.mem_of_find?_eq_some h)

/-- What is not selected is not in the latest range of any kind. -/
theorem covers_last? {kind : RangeKind} (h : s.last? kind = some r) (hx : s.selects x = false) :
  r.covers x = false
  := by
  rw [selects_eq, List.any_eq_false] at hx
  apply Bool.eq_false_iff.mpr (hx r (mem_of_last? h))

theorem selects_of_last? {kind : RangeKind} (h : s.last? kind = some r)
    (hx : r.covers x = true) :
  s.selects x = true
  := by
  rw [selects_eq, List.any_eq_true]
  exact ⟨r, mem_of_last? h, hx⟩

theorem last?_append (ranges : List Range) (r : Range) :
  (Selection.mk (ranges ++ [r])).last? r.kind = some r
  := by
  rw [last?, List.reverse_append, List.reverse_singleton, List.singleton_append,
    List.find?_cons_of_pos]
  apply decide_eq_true rfl

theorem last?_push (s : Selection) (r : Range) (keep : Bool) :
  (s.push r keep).last? r.kind = some r
  := last?_append _ r

theorem find?_replaceFirst {ranges reversed : List Range}
    (h : replaceFirst r ranges = some reversed) :
  reversed.find? (·.kind = r.kind) = some r
  := by
  induction ranges generalizing reversed with
  | nil => cases h
  | cons q rest ih =>
    rw [replaceFirst] at h
    split at h
    case isTrue hkind =>
      obtain rfl := Option.some.inj h
      apply List.find?_cons_of_pos
      apply decide_eq_true rfl
    case isFalse hkind =>
      obtain ⟨others, hothers, rfl⟩ := Option.map_eq_some_iff.mp h
      rw [List.find?_cons_of_neg (by simpa using hkind), ih hothers]

/-- A range that takes the place of the latest one of its kind is the latest one then. -/
theorem last?_extendLast (s : Selection) (r : Range) :
  (s.extendLast r).last? r.kind = some r
  := by
  rw [extendLast]
  split
  case h_1 reversed hreplaced =>
    rw [last?, List.reverse_reverse]
    apply find?_replaceFirst hreplaced
  case h_2 => apply last?_append

theorem last?_selectColumns (s : Selection) (first last : Nat) :
  (s.selectColumns first last).last? .columns = some (.columns first last)
  := last?_append _ (.columns first last)

/-- Columns that are selected in place of others are those from the one to the other. -/
theorem isColumnSelected_selectColumns (s : Selection) (first last i : Nat) :
  (s.selectColumns first last).isColumnSelected i = true
    ↔ min first last ≤ i ∧ i ≤ max first last
  := by
  have hfilter : (s.ranges.filter (·.kind ≠ .columns)).any
      (fun r => r.kind = .columns && r.holdsColumn i) = false := by
    rw [List.any_eq_false]
    intro r hr hcovers
    have hkind := of_decide_eq_true (List.mem_filter.mp hr).2
    apply hkind (of_decide_eq_true (Bool.and_eq_true_iff.mp hcovers).1)
  have hany : (s.selectColumns first last).isColumnSelected i
      = (Range.columns first last).holdsColumn i := by
    rw [selectColumns, isColumnSelected, List.any_append, hfilter]
    simp [Range.columns]
  rw [hany]
  apply Range.holdsColumn_columns_iff

/-! ### Taking in and out -/

theorem selects_push (s : Selection) (r : Range) (x : Spot) :
  (s.push r true).selects x = (s.selects x || r.covers x)
  := by
  rw [selects_eq, selects_eq, push, if_pos rfl, List.any_append, List.any_cons, List.any_nil,
    Bool.or_false]

theorem selects_deselectRow (s : Selection) (row : Nat) (x : Spot) :
  (s.deselectRow row).selects x = (s.selects x && x ≠ .row row)
  := by
  rw [selects_eq, selects_eq, deselectRow, List.any_flatMap]
  simp only [Range.any_covers_withoutRow]
  induction s.ranges with
  | nil => rfl
  | cons r rest ih => rw [List.any_cons, List.any_cons, ih, Bool.and_or_distrib_right]

theorem selects_deselectColumn (s : Selection) (i : Nat) (x : Spot) :
  (s.deselectColumn i).selects x = (s.selects x && x ≠ .column i)
  := by
  rw [selects_eq, selects_eq, deselectColumn, List.any_flatMap]
  simp only [Range.any_covers_withoutColumn]
  induction s.ranges with
  | nil => rfl
  | cons r rest ih => rw [List.any_cons, List.any_cons, ih, Bool.and_or_distrib_right]

/-- Something that is not selected is toggled by adding a range of it alone. -/
theorem toggles_push (hr : ∀ y, r.covers y = decide (y = x)) (hx : s.selects x = false) :
  s.Toggles x (s.push r true)
  := by
  intro y
  rw [selects_push, hr]
  by_cases hy : y = x
  · subst hy
    rw [if_pos rfl, hx, decide_eq_true rfl]
    rfl
  · rw [if_neg hy, decide_eq_false hy, Bool.or_false]

/-- Something that is selected is toggled by taking it out of all ranges. -/
theorem toggles_of_without {s' : Selection}
    (hwithout : ∀ y, s'.selects y = (s.selects y && y ≠ x)) (hx : s.selects x = true) :
  s.Toggles x s'
  := by
  intro y
  rw [hwithout]
  by_cases hy : y = x
  · subst hy
    rw [if_pos rfl, hx]
    simp
  · rw [if_neg hy, decide_eq_true hy, Bool.and_true]

/-! ### Reaching for what was toggled -/

section Reaching

variable {next : Range} {without : Selection} {reach : Selection → Selection}

/-- Take something out that is selected, which leaves `without`, or take it in with the range
`next`. -/
def toggled (s : Selection) (x : Spot) (next : Range) (without : Selection) : Selection :=
  if s.selects x then without else s.push next true

/-- Reach for a range, unless it is the latest one of its kind. -/
def reached (next : Range) (reach : Selection → Selection) (s : Selection) : Selection :=
  if s.last? next.kind = some next then s else reach s

/-- Reaching for the same range once more changes nothing. -/
theorem reached_reached (hreach : ∀ s, (reach s).last? next.kind = some next) (s : Selection) :
  reached next reach (reached next reach s) = reached next reach s
  := by
  apply if_pos
  rw [reached]
  split
  case isTrue h => apply h
  case isFalse => apply hreach

theorem toggles_toggled (hnext : ∀ y, next.covers y = decide (y = x))
    (hwithout : ∀ y, without.selects y = (s.selects y && y ≠ x)) :
  s.Toggles x (s.toggled x next without)
  := by
  rw [toggled]
  split
  case isTrue hx => apply toggles_of_without hwithout hx
  case isFalse hx => apply toggles_push hnext (Bool.eq_false_iff.mpr hx)

/-- Reaching for what has been toggled undoes nothing exactly if it has been taken in.  What has
been taken out is selected again. -/
theorem toggles_reached_iff (hnext : ∀ y, next.covers y = decide (y = x))
    (hwithout : ∀ y, without.selects y = (s.selects y && y ≠ x))
    (hreach : ∀ s, (reach s).last? next.kind = some next) :
  s.Toggles x (reached next reach (s.toggled x next without)) ↔ s.selects x = false
  := by
  have hself : next.covers x = true := (hnext x).trans (decide_eq_true rfl)
  cases hx : s.selects x with
  | false =>
    have htaken : s.toggled x next without = s.push next true := by
      rw [toggled, hx]
      rfl
    rw [htaken, reached, if_pos (s.last?_push next true)]
    simp only [iff_true]
    apply toggles_push hnext hx
  | true =>
    have hout : s.toggled x next without = without := by
      rw [toggled, hx]
      rfl
    have hgone : without.selects x = false := by
      rw [hwithout, decide_eq_false (fun h => h rfl), Bool.and_false]
    have hlast : without.last? next.kind ≠ some next := by
      intro h
      rw [covers_last? h hgone] at hself
      cases hself
    rw [hout, reached, if_neg hlast]
    simp only [Bool.true_eq_false, iff_false]
    intro htoggles
    have hback := htoggles x
    rw [if_pos rfl, hx, selects_of_last? (hreach without) hself] at hback
    cases hback

/-- Toggling something, with or without reaching for it afterwards. -/
theorem toggles_ite_reached_iff (hnext : ∀ y, next.covers y = decide (y = x))
    (hwithout : ∀ y, without.selects y = (s.selects y && y ≠ x))
    (hreach : ∀ s, (reach s).last? next.kind = some next) (P : Prop) [Decidable P] :
  s.Toggles x (if P then s.toggled x next without
      else reached next reach (s.toggled x next without))
    ↔ s.selects x = false ∨ P
  := by
  split
  case isTrue hP => simp only [hP, or_true, toggles_toggled hnext hwithout]
  case isFalse hP => simp only [hP, or_false, toggles_reached_iff hnext hwithout hreach]

end Reaching

end Selection

end DataGrid
