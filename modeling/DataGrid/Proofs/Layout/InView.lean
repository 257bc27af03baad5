import Mathlib
import DataGrid.Proofs.Layout.Limits

/-!
# Where an item is in view

An item that scrolls is in view where it is the first one that is not scrolled out, or where it ends
within the screen.  It stays in view when the grid is scrolled on, until it is scrolled out
(`Axis.InView.mono`), and it is in view at the scroll limit if it is not scrolled out there
(`Axis.IsLimit.inView`).  So of the places where it is in view the nearest one is found by scrolling
towards it: back until it is the first one, or on until it is in view.
-/

namespace DataGrid

/-! ### Along an axis -/

namespace Axis

/-- With so many items scrolled out, item `i` is the first one that is not, or it ends within the
screen. -/
def InView (edge : Nat → Rat) (fixed : Nat) (base size : Rat) (i hidden : Nat) : Prop :=
  i = fixed + hidden ∨ fixed + hidden ≤ i ∧ base + offset edge fixed hidden (i + 1) ≤ size

/-- Of the places up to a limit that are good, `place` is the only one that is as near to another
one. -/
structure IsNearest (good : Nat → Prop) (limit start place : Nat) : Prop where
  le_limit : place ≤ limit
  good_place : good place
  dist_lt : ∀ other ≤ limit, good other → other ≠ place →
    Nat.dist start place < Nat.dist start other

variable {edge : Nat → Rat} {fixed count limit i : Nat} {base size : Rat}

/-- An item that is in view comes no nearer to the end of the screen when more of those in front of
it are scrolled out. -/
theorem InView.mono (hedge : Monotone edge) {hidden hidden' : Nat}
    (h : InView edge fixed base size i hidden) (hle : hidden ≤ hidden')
    (hi : fixed + hidden' ≤ i) :
  InView edge fixed base size i hidden'
  := by
  obtain hfirst | ⟨-, hends⟩ := h
  · left
    omega
  · right
    have hanti := offset_anti hedge hle (Nat.le_succ_of_le hi)
    exact ⟨hi, by linarith⟩

/-- With as many items scrolled out as can be, every item that is left is in view. -/
theorem IsLimit.inView (h : IsLimit edge fixed count (size - (base + edge fixed)) limit)
    (hedge : Monotone edge) (hfirst : fixed + limit ≤ i) (hi : i < count) :
  InView edge fixed base size i limit
  := by
  obtain hone | hfits := h.fits
  · left
    omega
  · right
    refine ⟨hfirst, ?_⟩
    have hends := hedge hi
    rw [offset_of_le (Nat.le_succ_of_le hfirst)]
    linarith

/-- What is in view on a screen is in view along the axis. -/
theorem Ends.inView_iff {hidden : Nat} {ends : Nat → Rat → Prop}
    (h : Ends edge fixed hidden count base size ends) (hstep : edge i < edge (i + 1))
    (hfixed : fixed ≤ i) (hi : i < count) :
  (i = fixed + hidden ∨ ∃ x ≤ size, ends i x) ↔ InView edge fixed base size i hidden
  := by
  constructor
  · rintro (hfirst | ⟨x, hx, hends⟩)
    · exact .inl hfirst
    · obtain ⟨hfirst, -, rfl⟩ := h.eq_of_ends i x hfixed hends
      exact .inr ⟨hfirst, hx⟩
  · rintro (hfirst | ⟨hfirst, hends⟩)
    · exact .inl hfirst
    · right
      have hbegins : base + offset edge fixed hidden i < size := by
        rw [offset_of_le (Nat.le_succ_of_le hfirst)] at hends
        rw [offset_of_le hfirst]
        linarith
      obtain ⟨x, hx⟩ := h.of_lt i hfirst hi hbegins
      obtain ⟨-, -, rfl⟩ := h.eq_of_ends i x hfixed hx
      exact ⟨_, hends, hx⟩

/-- For an item that is scrolled out the nearest place is where it is the first one that is not. -/
theorem isNearest_of_scrolledOut {start : Nat} (hfixed : fixed ≤ i) (hi : i < fixed + start)
    (hstart : start ≤ limit) :
  IsNearest (InView edge fixed base size i) limit start (i - fixed)
  := by
  constructor
  case le_limit => omega
  case good_place =>
    left
    omega
  case dist_lt =>
    intro other _ hgood hne
    have hother : fixed + other ≤ i := by
      obtain hfirst | ⟨hfirst, -⟩ := hgood
      · omega
      · exact hfirst
    simp only [Nat.dist]
    omega

/-- For an item that is not scrolled out the nearest place is the first one from there on. -/
theorem isNearest_of_first (hedge : Monotone edge) {start place : Nat} (hi : fixed + start ≤ i)
    (hplace : place ≤ limit) (hstart : start ≤ place)
    (hgood : InView edge fixed base size i place)
    (hfirst : ∀ j, start ≤ j → j < place → ¬ InView edge fixed base size i j) :
  IsNearest (InView edge fixed base size i) limit start place
  := by
  constructor
  case le_limit => exact hplace
  case good_place => exact hgood
  case dist_lt =>
    intro other _ hother hne
    have hbehind : start = place ∨ place < other := by
      by_contra hnot
      -- the other place is in front of the first one, and so is the start, where all is as well
      obtain hbefore | hbetween := Nat.lt_or_ge other start
      · apply hfirst start (Nat.le_refl _) (by omega)
        exact hother.mono hedge (Nat.le_of_lt hbefore) hi
      · exact hfirst other hbetween (by omega) hother
    simp only [Nat.dist]
    omega

theorem IsNearest.congr {good good' : Nat → Prop} {start place : Nat}
    (h : IsNearest good limit start place) (hgood : ∀ j, good' j ↔ good j) :
  IsNearest good' limit start place
  := by
  have heq : good' = good := funext fun j => propext (hgood j)
  rw [heq]
  exact h

end Axis

/-! ### On the screen -/

namespace Layout

variable {c : Columns Rat} {config : Config Rat} {v : Viewport Rat} {rowCount i : Nat}

/-- With so many columns scrolled out, a shown column is the first one of those that scroll or ends
within the viewport. -/
def ColumnInView (c : Columns Rat) (config : Config Rat) (v : Viewport Rat)
    (rowCount i left : Nat) : Prop :=
  i = min config.fixedColumns c.shownCount + left
    ∨ ∃ x ≤ v.width, (compute c config { v with scrollLeft := left } rowCount).EndsColumn i x

/-- With so many rows scrolled out, a data row is the first one of those that scroll or ends within
the viewport. -/
def RowInView (c : Columns Rat) (config : Config Rat) (v : Viewport Rat) (rowCount i top : Nat) :
    Prop :=
  i = min config.fixedRows rowCount + top
    ∨ ∃ y ≤ v.height, (compute c config { v with scrollTop := top } rowCount).EndsRow i y

theorem columnInView_iff (h : c.ShowsWidths) (config : Config Rat) (v : Viewport Rat)
    (rowCount left : Nat) (hfixed : min config.fixedColumns c.shownCount ≤ i)
    (hi : i < c.shownCount) :
  ColumnInView c config v rowCount i left
    ↔ Axis.InView c.widthBefore (min config.fixedColumns c.shownCount) (leadingWidth c config)
        v.width i left
  := (ends_columns (fun id hid => le_of_lt (h id hid)) config { v with scrollLeft := left }
    rowCount).inView_iff (h.widthBefore_lt (Nat.lt_succ_self i) hi) hfixed hi

theorem rowInView_iff (h : 0 < config.rowHeight) (c : Columns Rat) (v : Viewport Rat)
    (top : Nat) (hfixed : min config.fixedRows rowCount ≤ i) (hi : i < rowCount) :
  RowInView c config v rowCount i top
    ↔ Axis.InView (fun i => i * config.rowHeight) (min config.fixedRows rowCount)
        config.headerHeight v.height i top
  := by
  apply (ends_rows (le_of_lt h) c { v with scrollTop := top } rowCount).inView_iff _ hfixed hi
  apply mul_lt_mul_of_pos_right _ h
  exact Nat.cast_lt.mpr (Nat.lt_succ_self i)

/-- A column ends at one position on the screen, the right edge of the column in its slot. -/
theorem any_bySlot?_iff {x : Rat} :
  ((compute c config v rowCount).bySlot? (.shown i)).any (fun column => column.right ≤ x) = true
    ↔ ∃ y ≤ x, (compute c config v rowCount).EndsColumn i y
  := by
  rw [Option.any_eq_true]
  constructor
  · rintro ⟨column, hcolumn, hright⟩
    have hslot := List.find?_some hcolumn
    exact ⟨column.right, of_decide_eq_true hright, column, List.mem_of_find?_eq_some hcolumn,
      of_decide_eq_true hslot, rfl⟩
  · rintro ⟨_, hright, column, hcolumn, hslot, rfl⟩
    have hfound := bySlot?_of_mem hcolumn
    rw [hslot] at hfound
    exact ⟨column, hfound, decide_eq_true hright⟩

/-- A data row ends at one position on the screen. -/
theorem any_byRow?_iff {y : Rat} :
  ((compute c config v rowCount).byRow? i .data).any (fun row => row.bottom ≤ y) = true
    ↔ ∃ z ≤ y, (compute c config v rowCount).EndsRow i z
  := by
  rw [Option.any_eq_true]
  constructor
  · rintro ⟨row, hrow, hbottom⟩
    have hplace := List.find?_some hrow
    simp only [Bool.and_eq_true, decide_eq_true_eq] at hplace
    exact ⟨row.bottom, of_decide_eq_true hbottom, row, List.mem_of_find?_eq_some hrow, hplace.1,
      hplace.2, rfl⟩
  · rintro ⟨_, hbottom, row, hrow, hband, rfl, rfl⟩
    have hfound := byRow?_of_mem hrow
    rw [hband] at hfound
    exact ⟨row, hfound, decide_eq_true hbottom⟩

end Layout

end DataGrid
