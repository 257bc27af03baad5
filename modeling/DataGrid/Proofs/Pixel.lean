import Mathlib.Algebra.Order.Ring.Rat
import DataGrid.Pixel

/-!
# Laws of lengths

A type of lengths is asked for no laws.  The few that what is proved of a layout rests on hold in
single precision as well as over the rationals, for no rounding breaks them.
-/

namespace DataGrid

namespace Pixel

/-- A length that can be compared with others: it is a number. -/
def Comparable {α : Type} [Pixel α] (a : α) : Prop := a ≤ a

end Pixel

/-- Laws of lengths that no rounding breaks.  Only what is no number cannot be compared, and sums of
lengths that are not negative are not negative. -/
class LawfulPixel (α : Type) [Pixel α] : Prop where
  comparable_of_lt : ∀ {a b : α}, a < b → Pixel.Comparable a ∧ Pixel.Comparable b
  comparable_of_le : ∀ {a b : α}, a ≤ b → Pixel.Comparable a ∧ Pixel.Comparable b
  lt_or_le : ∀ {a b : α}, Pixel.Comparable a → Pixel.Comparable b → a < b ∨ b ≤ a
  zero_le_zero : (Pixel.zero : α) ≤ Pixel.zero
  zero_le_add : ∀ {a b : α}, Pixel.zero ≤ a → Pixel.zero ≤ b → Pixel.zero ≤ a + b

instance : LawfulPixel Rat where
  comparable_of_lt _ := ⟨le_refl _, le_refl _⟩
  comparable_of_le _ := ⟨le_refl _, le_refl _⟩
  lt_or_le _ _ := lt_or_ge _ _
  zero_le_zero := le_refl _
  zero_le_add ha hb := Rat.add_nonneg ha hb

/-- Lengths are in order, and adding one that is not negative leads no further back. -/
class OrderedPixel (α : Type) [Pixel α] : Prop extends LawfulPixel α where
  le_trans : ∀ {a b c : α}, a ≤ b → b ≤ c → a ≤ c
  not_lt_of_le : ∀ {a b : α}, a ≤ b → ¬ b < a
  le_add : ∀ {a b : α}, Pixel.zero ≤ a → Pixel.zero ≤ b → a ≤ a + b

instance : OrderedPixel Rat where
  le_trans hab hbc := hab.trans hbc
  not_lt_of_le h := not_lt_of_ge h
  le_add _ hb := le_add_of_nonneg_right hb

end DataGrid
