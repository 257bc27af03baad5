import DataGrid.Json
import DataGrid.Json.Token

/-!
# The value of a JSON number

A number without a point and a power is whole as long as it fits in 64 bits, with or without a
sign; minus zero does not.  Any other number is a double.  It is taken from the leading digits
that fit in 64 bits and a power of ten, each rounded to a double, by multiplication or division,
so that it may differ in its last bit from the nearest double.  A number too large for a double
has no value.
-/

namespace DataGrid.Json

namespace NumberText

/-- The greatest whole number without a sign. -/
def maxUnsigned : Nat := UInt64.size - 1

/-- The size of the least whole number with a sign. -/
def maxNegative : Nat := UInt64.size / 2

/-- Powers of ten that a double can hold. -/
def maxPower : Nat := 308

/-- Take digits in as long as the number fits in 64 bits; gives the number and the digits left. -/
def absorb : (value : Nat) → List Char → Nat × List Char
  | value, [] => (value, [])
  | value, c :: rest =>
    let next := 10 * value + (c.toNat - '0'.toNat)
    if next ≤ maxUnsigned then absorb next rest else (value, c :: rest)

/-- The leading digits that fit in 64 bits and the power of ten of the last of them. -/
def significant (n : NumberText) : Nat × Int :=
  let (value, wholeLeft) := absorb 0 n.whole
  let (value, placesLeft) := absorb value n.places
  (value, wholeLeft.length - (n.places.length - placesLeft.length : Int))

/-- The power of ten at the end of the number. -/
def powerOf (n : NumberText) : Int :=
  let size : Nat := n.power.foldl (fun p c => 10 * p + (c.toNat - '0'.toNat)) 0
  if n.powerNegative then -(size : Int) else size

/-- Ten to a power that a double can hold. -/
def tenTo (power : Nat) : Float := Float.ofScientific 1 false power

/-- Divide by ten to a power, in steps that a double can hold. -/
def shiftDown (fuel : Nat) (x : Float) (power : Nat) : Float :=
  match fuel with
  | 0 => x
  | fuel + 1 =>
    if power ≤ maxPower then x / tenTo power
    else if x == 0 then x
    else shiftDown fuel (x / tenTo maxPower) (power - maxPower)

/-- A nonzero double is zero after this many steps down. -/
def stepsToZero : Nat := 4

/-- Move the point of a double; `none` if the result is too large. -/
def shift? (x : Float) (power : Int) : Option Float :=
  if power < 0 then some (shiftDown stepsToZero x power.natAbs)
  else if power ≤ maxPower then
    let y := x * tenTo power.toNat
    if y.isInf then none else some y
  else if x == 0 then some x
  else none

/-- The double that a number stands for. -/
def float? (n : NumberText) : Option Float :=
  let (value, power) := n.significant
  (shift? (Float.ofNat value) (power + n.powerOf)).map fun x => if n.negative then -x else x

/-- The whole number that is written without a point and a power. -/
def size (n : NumberText) : Nat :=
  n.whole.foldl (fun v c => 10 * v + (c.toNat - '0'.toNat)) 0

/-- The value of a number. -/
def value? (n : NumberText) : Option Number :=
  let size := n.size
  if !n.real && !n.negative && size ≤ maxUnsigned then some (.whole size)
  else if !n.real && n.negative && 0 < size && size ≤ maxNegative then some (.whole (-size))
  else n.float?.map .real

end NumberText

end DataGrid.Json
