/-!
# The exact value of a floating-point number

A finite number of either precision is `mantissa · 2 ^ exponent` with a sign.  `Parts.ofFloat` and
`Parts.ofFloat32` read these out of the bits, so that all decimal forms can be worked out in whole
numbers.
-/

namespace DataGrid.Decimal

/-- The value `mantissa · 2 ^ exponent` of a number that floating point can hold.  `narrowBelow`
says that the next smaller number of the format is half as far away as the next greater one. -/
structure Binary where
  mantissa : Nat
  exponent : Int
  narrowBelow : Bool

/-- The absolute value of a floating-point number. -/
inductive Magnitude where
  | nan
  | infinite
  | finite (value : Binary)

/-- A floating-point number taken apart. -/
structure Parts where
  negative : Bool
  magnitude : Magnitude

namespace Parts

/-- Take apart the bits of a format with the given widths of fraction and exponent field. -/
def ofBits (fractionBits exponentBits bits : Nat) : Parts :=
  let implicit := Nat.pow 2 fractionBits
  let fields := Nat.pow 2 exponentBits
  let fraction := bits % implicit
  let field := bits / implicit % fields
  let offset : Int := Nat.pow 2 (exponentBits - 1) - 1 + fractionBits
  { negative := bits / (implicit * fields) % 2 = 1
    magnitude :=
      if field = fields - 1 then
        if fraction = 0 then .infinite else .nan
      else if field = 0 then
        .finite ⟨fraction, 1 - offset, false⟩
      else
        .finite ⟨fraction + implicit, field - offset, fraction = 0 && 1 < field⟩ }

/-- The parts of a double. -/
def ofFloat (x : Float) : Parts := ofBits 52 11 x.toBits.toNat

/-- The parts of a single. -/
def ofFloat32 (x : Float32) : Parts := ofBits 23 8 x.toBits.toNat

end Parts

namespace Binary

/-- Numerator and denominator of `units · 2 ^ exponent`. -/
def ratio (units : Nat) (exponent : Int) : Nat × Nat :=
  if 0 ≤ exponent then (units * Nat.pow 2 exponent.toNat, 1)
  else (units, Nat.pow 2 (-exponent).toNat)

/-- Numerator and denominator of a ratio measured in units of `10 ^ scale`. -/
def inUnits (num den : Nat) (scale : Int) : Nat × Nat :=
  if 0 ≤ scale then (num, den * Nat.pow 10 scale.toNat)
  else (num * Nat.pow 10 (-scale).toNat, den)

/-- The least `j ≥ start` with `den ≤ num · 10 ^ j`, looking no further than `fuel` steps. -/
def leastShift (num den : Nat) : (fuel : Nat) → (start : Nat) → Nat
  | 0, j => j
  | fuel + 1, j => if den ≤ num * Nat.pow 10 j then j else leastShift num den fuel (j + 1)

/-- The power of ten of the first digit of a positive ratio. -/
def leadingPower (num den : Nat) : Int :=
  if den ≤ num then (Nat.toDigits 10 (num / den)).length - 1
  else -(leastShift num den (den.log2 + 1) 1 : Int)

end Binary

/-- The whole number nearest to `num / den`; a half goes to the even neighbour. -/
def roundHalfEven (num den : Nat) : Nat :=
  let quotient := num / den
  let rest := num % den
  if 2 * rest < den then quotient
  else if den < 2 * rest then quotient + 1
  else if quotient % 2 = 0 then quotient else quotient + 1

/-- The whole number nearest to `num / den`; a half goes to the greater neighbour. -/
def roundHalfUp (num den : Nat) : Nat := (2 * num + den) / (2 * den)

end DataGrid.Decimal
