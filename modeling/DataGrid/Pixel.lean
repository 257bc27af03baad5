/-!
# Pixel lengths

A grid measures widths, heights and positions in pixels.  `Pixel α` gives a type of lengths its
arithmetic, its order and the few roundings a layout needs, and it asks for no laws: the grid is
laid out in single precision (`Float32`), and the same definitions read over the rationals say
what the layout is when no step is rounded.
-/

namespace DataGrid

/-- A type of pixel lengths. -/
class Pixel (α : Type) extends Add α, Sub α, Mul α, Div α, LT α, LE α where
  decLt : DecidableLT α
  decLe : DecidableLE α
  /-- The length of `n` pixels. -/
  ofNat : Nat → α
  /-- What can be added to any length without a change, the sign of zero included. -/
  neutral : α
  abs : α → α
  /-- The nearest whole length; a half goes away from zero. -/
  round : α → α
  /-- The whole pixels in a length, none if it is negative. -/
  floorNat : α → Nat

namespace Pixel

variable {α : Type} [Pixel α]

instance decidableLT : DecidableLT α := decLt

instance decidableLE : DecidableLE α := decLe

/-- No length. -/
def zero : α := ofNat 0

/-- A length, or none if it is not greater than none. -/
def nonneg (a : α) : α := if zero < a then a else zero

/-- The greater of two lengths; a length that cannot be compared gives way to the other. -/
def greater (a b : α) : α := if a < b ∨ ¬ a ≤ a then b else a

/-- The lesser of two lengths; a length that cannot be compared gives way to the other. -/
def lesser (a b : α) : α := if b < a ∨ ¬ a ≤ a then b else a

/-- The point of `[low, high]` nearest to `a`. -/
def clamp (a low high : α) : α := if a < low then low else if high < a then high else a

/-- The total of a list of lengths, added up from the left. -/
def sum (lengths : List α) : α := lengths.foldl (· + ·) neutral

@[simp]
theorem sum_nil :
  sum ([] : List α) = neutral
  := rfl

theorem clamp_eq_self {a low high : α} (hl : ¬ a < low) (hh : ¬ high < a) :
  clamp a low high = a
  := by
  rw [clamp, if_neg hl, if_neg hh]

end Pixel

/-- Lengths in single precision. -/
instance : Pixel Float32 where
  decLt := inferInstance
  decLe := inferInstance
  ofNat := Float32.ofNat
  neutral := -0.0
  abs := Float32.abs
  round := Float32.round
  floorNat x := x.floor.toUInt64.toNat

/-- Exact lengths. -/
instance : Pixel Rat where
  decLt := inferInstance
  decLe := inferInstance
  ofNat n := (n : Rat)
  neutral := 0
  abs := Rat.abs
  round x := if x < 0 then -(((-x + 1 / 2).floor : Int) : Rat) else ((x + 1 / 2).floor : Int)
  floorNat x := x.floor.toNat

end DataGrid
