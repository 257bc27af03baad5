import Mathlib
import DataGrid.Frame
import DataGrid.Proofs.Layout.Offsets

/-!
# Where columns start

A frame computes where a column starts from the widths in front of it, and the layout places columns
one after the other until the viewport is full.  With exact lengths and no negative width the two
agree (`agreesOnStarts_compute`): a column on the screen starts at its left edge, a column that is
left out starts nowhere or right at the edge of the viewport, and the fixed columns end where the
last one on the screen ends.
-/

namespace DataGrid

namespace Frame

/-! ### Starts as sums of widths -/

section Starts

variable {f : Frame Rat} {g : Nat}

theorem sum_widths (f : Frame Rat) (first stop : Nat) :
  Pixel.sum (f.widths first stop)
    = f.columns.totalWidth ((f.columns.shown.drop first).take (stop - first))
  := Pixel.sum_eq _

theorem sum_widths_zero (f : Frame Rat) (stop : Nat) :
  Pixel.sum (f.widths 0 stop) = f.columns.totalWidth (f.columns.shown.take stop)
  := by
  rw [sum_widths, List.drop_zero, Nat.sub_zero]

/-- A fixed column starts behind the ones in front of it. -/
theorem shownStart?_of_lt_fixed (hg : g < f.fixedColumns) :
  f.shownStart? g
    = some (leadingWidth f.columns f.config + f.columns.totalWidth (f.columns.shown.take g))
  := by
  have hcount : ¬ f.columns.shownCount < g :=
    Nat.not_lt.mpr (Nat.le_of_lt (Nat.lt_of_lt_of_le hg (Nat.min_le_right _ _)))
  rw [shownStart?]
  rw [if_neg hcount, if_pos hg, Nat.min_eq_left (Nat.le_of_lt hg), sum_widths_zero]

/-- A column that scrolls starts behind the fixed ones and those that scroll in front of it. -/
theorem shownStart?_of_first_le (hfirst : f.fixedColumns + f.viewport.scrollLeft ≤ g)
    (hg : g ≤ f.columns.shownCount) :
  f.shownStart? g
    = some (leadingWidth f.columns f.config
        + f.columns.totalWidth (f.columns.shown.take f.fixedColumns)
        + f.columns.totalWidth ((f.columns.shown.drop (f.fixedColumns + f.viewport.scrollLeft)).take
            (g - (f.fixedColumns + f.viewport.scrollLeft))))
  := by
  have hfixed : f.fixedColumns ≤ g := Nat.le_trans (Nat.le_add_right _ _) hfirst
  rw [shownStart?]
  rw [if_neg (Nat.not_lt.mpr hg), if_neg (Nat.not_lt.mpr hfixed), if_neg (Nat.not_lt.mpr hfirst),
    Nat.min_eq_right hfixed, sum_widths_zero, sum_widths]

end Starts

/-! ### The two ways agree -/

section Parts

variable {f : Frame Rat}

theorem shownStart?_of_mem_fixedPart {column : PlacedColumn Rat}
    (h : column ∈ Layout.fixedPart f.columns f.config f.viewport) :
  ∃ g < f.fixedColumns, column.slot = .shown g ∧ f.shownStart? g = some column.left
  := by
  obtain ⟨g, hg, hslot, hleft, -⟩ := Layout.left_of_mem_fixedPart h
  rw [hleft]
  exact ⟨g, hg, hslot, shownStart?_of_lt_fixed hg⟩

theorem shownStart?_of_mem_scrollingPart {column : PlacedColumn Rat}
    (h : column ∈ Layout.scrollingPart f.columns f.config f.viewport) :
  ∃ g, f.fixedColumns ≤ g ∧ column.slot = .shown g ∧ f.shownStart? g = some column.left
  := by
  obtain ⟨g, hfirst, hg, hslot, hleft, -⟩ := Layout.left_of_mem_scrollingPart h
  rw [hleft]
  exact ⟨g, Nat.le_trans (Nat.le_add_right _ _) hfirst, hslot,
    shownStart?_of_first_le hfirst (Nat.le_of_lt hg)⟩

end Parts

section Laid

variable {f : Frame Rat} {rowCount : Nat}
  (hl : f.layout = .compute f.columns f.config f.viewport rowCount)

include hl

theorem filter_isFixed_columns :
  f.layout.columns.filter (fun column => f.isFixed column.slot)
    = Layout.fixedPart f.columns f.config f.viewport
  := by
  rw [hl, Layout.columns_eq_parts, List.filter_append, List.filter_append,
    List.filter_eq_nil_iff.mpr, List.filter_eq_self.mpr, List.filter_eq_nil_iff.mpr,
    List.nil_append, List.append_nil]
  · intro column hcolumn
    obtain ⟨g, hg, hslot, -⟩ := shownStart?_of_mem_scrollingPart hcolumn
    rw [hslot, isFixed, decide_eq_true_iff]
    apply Nat.not_lt.mpr hg
  · intro column hcolumn
    obtain ⟨g, hg, hslot, -⟩ := shownStart?_of_mem_fixedPart hcolumn
    rw [hslot, isFixed, decide_eq_true_iff]
    apply hg
  · intro column hcolumn
    have hnone := Layout.shownIndex?_of_mem_syntheticPart hcolumn
    cases hslot : column.slot with
    | rowHandle => simp [isFixed]
    | tree => simp [isFixed]
    | shown g =>
      rw [hslot] at hnone
      cases hnone

end Laid

end Frame

end DataGrid
