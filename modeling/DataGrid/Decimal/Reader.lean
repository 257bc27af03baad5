/-!
# Reading decimals

`Numeral.read?` reads a number as people write it: a sign, digits with a point among, before or
after them, and a power of ten; or the name of an infinite or undefined number.  Its nearest
floating-point number in either precision is taken from the digits at once, with one rounding.
-/

namespace DataGrid.Decimal

/-- The absolute value that a numeral stands for: `digits · 10 ^ exponent`, or a named value. -/
inductive Numeral.Value where
  | decimal (digits : Nat) (exponent : Int)
  | infinity
  | nan

/-- A numeral. -/
structure Numeral where
  negative : Bool
  value : Numeral.Value

/-- The value of a decimal digit. -/
def digitValue (c : Char) : Nat := c.toNat - '0'.toNat

/-- The number written by a list of digits. -/
def ofDigits (cs : List Char) : Nat := cs.foldl (fun n c => 10 * n + digitValue c) 0

namespace Numeral

/-- Split a leading sign off; true for a minus. -/
def sign : List Char → Bool × List Char
  | '-' :: rest => (true, rest)
  | '+' :: rest => (false, rest)
  | cs => (false, cs)

/-- The power of ten at the end of a numeral: nothing, or `e` and a signed whole number. -/
def power? : List Char → Option Int
  | [] => some 0
  | c :: rest =>
    let (negative, digits) := sign rest
    if (c = 'e' || c = 'E') && !digits.isEmpty && digits.all Char.isDigit then
      some (if negative then -(ofDigits digits : Int) else ofDigits digits)
    else none

/-- Digits, and a point with further digits; at least one digit in all. -/
def decimal? (cs : List Char) : Option Value :=
  let whole := cs.takeWhile Char.isDigit
  let rest := cs.dropWhile Char.isDigit
  let (places, rest) :=
    match rest with
    | '.' :: rest => (rest.takeWhile Char.isDigit, rest.dropWhile Char.isDigit)
    | _ => ([], rest)
  if whole.isEmpty && places.isEmpty then none
  else (power? rest).map fun p => .decimal (ofDigits (whole ++ places)) (p - places.length)

/-- The values that are written by a name, in any case. -/
def named? (cs : List Char) : Option Value :=
  match String.ofList (cs.map Char.toLower) with
  | "inf" | "infinity" => some .infinity
  | "nan" => some .nan
  | _ => none

/-- Read a numeral that makes up the whole text. -/
def read? (text : List Char) : Option Numeral :=
  let (negative, cs) := sign text
  ((named? cs).or (decimal? cs)).map fun v => ⟨negative, v⟩

/-- Every decimal whose first digit stands higher than this is too large for either precision, and
every decimal whose first digit stands as far below the point is too small. -/
def range : Int := 400

/-- A decimal as its digits and how often they are to be multiplied or divided by ten, brought
into the range that matters. -/
def scaled (digits : Nat) (exponent : Int) : Nat × Bool × Nat :=
  let power := exponent + (Nat.toDigits 10 digits).length
  if digits = 0 || power < -range then (0, false, 0)
  else if range < power then (1, false, range.toNat)
  else (digits, exponent < 0, exponent.natAbs)

/-- The nearest double. -/
def toFloat (n : Numeral) : Float :=
  let magnitude :=
    match n.value with
    | .decimal digits exponent =>
      let (digits, down, places) := scaled digits exponent
      Float.ofScientific digits down places
    | .infinity => 1 / 0
    | .nan => 0 / 0
  if n.negative then -magnitude else magnitude

/-- The nearest single. -/
def toFloat32 (n : Numeral) : Float32 :=
  let magnitude :=
    match n.value with
    | .decimal digits exponent =>
      let (digits, down, places) := scaled digits exponent
      Float32.ofScientific digits down places
    | .infinity => 1 / 0
    | .nan => 0 / 0
  if n.negative then -magnitude else magnitude

end Numeral

end DataGrid.Decimal
