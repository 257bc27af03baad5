import DataGrid.Decimal.Binary

/-!
# The shortest decimal that reads back

`shortest` gives the decimal with the fewest digits among those that round to a given
floating-point number, and of several such decimals the one nearest to its exact value, the greater
one of two that are equally near.  It tries the decimal grids from coarse to fine and looks, on
each, at the two neighbours of the exact value.
-/

namespace DataGrid.Decimal

/-- The decimal `digits · 10 ^ exponent`. -/
structure Digits where
  digits : Nat
  exponent : Int
deriving DecidableEq

namespace Digits

/-- Drop trailing zeros of the digits. -/
def normalizeWith : (fuel : Nat) → Digits → Digits
  | 0, d => d
  | fuel + 1, d =>
    if d.digits ≠ 0 ∧ d.digits % 10 = 0 then normalizeWith fuel ⟨d.digits / 10, d.exponent + 1⟩
    else d

/-- The same decimal without trailing zeros. -/
def normalize (d : Digits) : Digits := normalizeWith d.digits.log2 d

end Digits

/-- The numbers that round to a floating-point number, as numerators over one denominator: the
lower end, the number itself and the upper end. -/
structure Interval where
  low : Nat
  value : Nat
  high : Nat
  den : Nat
  closed : Bool

namespace Interval

/-- The interval half-way to both neighbours.  It holds its ends if the mantissa is even. -/
def ofBinary (b : Binary) : Interval :=
  let units := 4 * b.mantissa
  let scale := Binary.ratio 1 (b.exponent - 2)
  { low := (if b.narrowBelow then units - 1 else units - 2) * scale.1
    value := units * scale.1
    high := (units + 2) * scale.1
    den := scale.2
    closed := b.mantissa % 2 = 0 }

/-- The interval with its numbers measured in units of `10 ^ scale`. -/
def inUnits (i : Interval) (scale : Int) : Interval :=
  let up := if 0 ≤ scale then 1 else Nat.pow 10 (-scale).toNat
  let down := if 0 ≤ scale then Nat.pow 10 scale.toNat else 1
  { low := i.low * up, value := i.value * up, high := i.high * up, den := i.den * down
    closed := i.closed }

/-- Whether a whole number lies in the interval. -/
def holds (i : Interval) (n : Nat) : Bool :=
  if i.closed then i.low ≤ n * i.den && n * i.den ≤ i.high
  else i.low < n * i.den && n * i.den < i.high

/-- The whole number of the interval nearest to the value, if there is one next to it. -/
def nearest? (i : Interval) : Option Nat :=
  let below := i.value / i.den
  match i.holds below, i.holds (below + 1) with
  | true, true => some (roundHalfUp i.value i.den)
  | true, false => some below
  | false, true => some (below + 1)
  | false, false => none

/-- The first grid, from `10 ^ scale` down, with a point in the interval. -/
def search (i : Interval) : (fuel : Nat) → (scale : Int) → Digits
  | 0, scale => ⟨(i.inUnits scale).value / (i.inUnits scale).den, scale⟩
  | fuel + 1, scale =>
    match (i.inUnits scale).nearest? with
    | some n => ⟨n, scale⟩
    | none => search i fuel (scale - 1)

end Interval

/-- Seventeen digits tell any two doubles apart. -/
def enoughDigits : Nat := 17

/-- The fewest digits that read back as the number, and of these the nearest to it. -/
def shortest (b : Binary) : Digits :=
  if b.mantissa = 0 then ⟨0, 0⟩
  else
    let i := Interval.ofBinary b
    (i.search enoughDigits (Binary.leadingPower i.value i.den)).normalize

end DataGrid.Decimal
