import Mathlib.Data.Rat.Floor
import DataGrid.Proofs.Feature.Undoing
import DataGrid.Proofs.Frame.Nearest

/-!
# Resizing one column

The width that a column gets depends on the place of the pointer and on what was remembered when its
edge was pressed, and not on the widths in between (`Model.ResizedTo.setColumnWidth`).  At the end
listeners are told if the width is another one when it is rounded to whole pixels
(`ColumnResizing.roundedDiffers_iff`).
-/

namespace DataGrid

variable {α σ : Type}

/-! ### Rounded widths -/

/-- Lengths that are rounded to whole pixels are a pixel apart unless they are the same. -/
class RoundsToWhole (α : Type) [Pixel α] : Prop where
  ofNat_one_le_abs_iff : ∀ a b : α, Pixel.ofNat 1 ≤ Pixel.abs (Pixel.round a - Pixel.round b)
    ↔ Pixel.round a < Pixel.round b ∨ Pixel.round b < Pixel.round a

namespace Pixel

theorem exists_int_eq_round (a : Rat) :
  ∃ n : Int, Pixel.round a = (n : Rat)
  := by
  change ∃ n : Int, (if a < 0 then -(((-a + 1 / 2).floor : Int) : Rat)
    else ((a + 1 / 2).floor : Int)) = (n : Rat)
  split
  · exact ⟨-(-a + 1 / 2).floor, (Int.cast_neg _).symm⟩
  · exact ⟨(a + 1 / 2).floor, rfl⟩

end Pixel

instance : RoundsToWhole Rat where
  ofNat_one_le_abs_iff a b := by
    obtain ⟨m, hm⟩ := Pixel.exists_int_eq_round a
    obtain ⟨n, hn⟩ := Pixel.exists_int_eq_round b
    rw [hm, hn, Pixel.abs_eq]
    change ((1 : Nat) : Rat) ≤ |(m : Rat) - n| ↔ (m : Rat) < n ∨ (n : Rat) < m
    rw [Nat.cast_one, ← Int.cast_sub, ← Int.cast_abs, ← Int.cast_one, Int.cast_le, Int.cast_lt,
      Int.cast_lt, le_abs]
    omega

/-- Two widths differ if one of them is less than the other after rounding. -/
theorem ColumnResizing.roundedDiffers_iff [Pixel α] [RoundsToWhole α] (a b : α) :
  roundedDiffers a b = true
    ↔ Pixel.round a < Pixel.round b ∨ Pixel.round b < Pixel.round a
  := decide_eq_true_iff.trans (RoundsToWhole.ofNat_one_le_abs_iff a b)

/-! ### One width -/

namespace Model

variable {m m' m'' : Model α σ} {id : ColumnId} {w : α}

/-- One column has another width.  All other columns and the properties of this one, the order, the
settings, the table, the selection and what is drawn are the same. -/
structure ResizedTo (id : ColumnId) (w : α) (m m' : Model α σ) : Prop where
  column?_eq : ∀ id', m'.columns.column? id'
    = if id' = id then (m.columns.column? id').map fun c => { c with width := w }
      else m.columns.column? id'
  shown_eq : m'.columns.shown = m.columns.shown
  config_eq : m'.config = m.config
  data_eq : m'.data = m.data
  selection_eq : m'.selection = m.selection
  overlays_eq : m'.overlays = m.overlays

namespace ResizedTo

/-- At first the column has the width that it has. -/
theorem refl {c : Column α} (hc : m.columns.column? id = some c) :
  m.ResizedTo id c.width m
  := by
  refine ⟨?_, rfl, rfl, rfl, rfl, rfl⟩
  intro id'
  split
  case isTrue heq =>
    subst heq
    rw [hc]
    rfl
  case isFalse => rfl

/-- What is told once and then forgotten does not matter. -/
theorem of_still_eq (h : m.ResizedTo id w m') (hstill : m''.still = m'.still) :
  m.ResizedTo id w m''
  := by
  have hcolumns : m''.columns.column? = m'.columns.column? :=
    congrArg (fun m => m.columns.column?) hstill
  constructor
  case column?_eq =>
    intro id'
    rw [hcolumns, h.column?_eq]
  case shown_eq => exact (congrArg (fun m => m.columns.shown) hstill).trans h.shown_eq
  case config_eq => exact (congrArg (fun m => m.config) hstill).trans h.config_eq
  case data_eq => exact (congrArg (fun m => m.data) hstill).trans h.data_eq
  case selection_eq => exact (congrArg (fun m => m.selection) hstill).trans h.selection_eq
  case overlays_eq => exact (congrArg (fun m => m.overlays) hstill).trans h.overlays_eq

theorem column?_self (h : m.ResizedTo id w m') {c : Column α} (hc : m.columns.column? id = some c) :
  m'.columns.column? id = some { c with width := w }
  := by
  rw [h.column?_eq, if_pos rfl, hc]
  rfl

variable [Pixel α] [DataSource σ]

/-- The width that a column is given does not depend on the one it has. -/
theorem setColumnWidth (h : m.ResizedTo id w m') {c : Column α}
    (hc : m.columns.column? id = some c) (w' : α) :
  m.ResizedTo id (c.bound w') (m'.setColumnWidth id w')
  := by
  have hresized := h.column?_self hc
  have hset : m'.setColumnWidth id w'
      = ({ m' with columns := m'.columns.setWidth id w' } : Model α σ).relayout := by
    rw [Model.setColumnWidth, hresized]
  rw [hset]
  constructor
  case column?_eq =>
    intro id'
    change (m'.columns.setWidth id w').column? id' = _
    rw [Columns.column?_setWidth]
    by_cases heq : id' = id
    · subst heq
      rw [if_pos rfl, if_pos rfl, hresized, hc]
      rfl
    · rw [if_neg (Ne.symm heq), if_neg heq, h.column?_eq, if_neg heq]
  case shown_eq => exact (Columns.shown_modify _ _ _).trans h.shown_eq
  case config_eq => exact h.config_eq
  case data_eq => exact h.data_eq
  case selection_eq => exact h.selection_eq
  case overlays_eq => exact h.overlays_eq

end ResizedTo

end Model

end DataGrid
