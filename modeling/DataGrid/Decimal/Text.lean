import DataGrid.Decimal.Shortest

/-!
# Decimal texts of floating-point numbers

Four forms: `plain`, the shortest decimal that reads back, never with an exponent; `fixed`, with a
given number of places; `scientific`, with a given number of places and a power of ten; and
`json`, the shortest decimal as a JSON number.  A `fixed` or `scientific` form is rounded from the
exact value, a half going to the even neighbour.
-/

namespace DataGrid.Decimal

/-- `n` zeros. -/
def zeros (n : Nat) : List Char := List.replicate n '0'

/-- The decimal digits of a whole number. -/
def digitsOf (n : Nat) : List Char := Nat.toDigits 10 n

/-- The digits of `n / 10 ^ places`, with a point before the last `places` of them. -/
def pointed (n places : Nat) : List Char :=
  let digits := digitsOf n
  let padded := zeros (places + 1 - digits.length) ++ digits
  let whole := padded.take (padded.length - places)
  if places = 0 then whole else whole ++ '.' :: padded.drop (padded.length - places)

/-- A decimal without an exponent; no point if it is whole. -/
def Digits.positional (d : Digits) : List Char :=
  if 0 ≤ d.exponent then
    if d.digits = 0 then ['0'] else digitsOf d.digits ++ zeros d.exponent.toNat
  else pointed d.digits (-d.exponent).toNat

/-- One digit, a point and the others if there are any, and the power of ten. -/
def Digits.withPower (mark : Char) (d : Digits) : List Char :=
  let digits := digitsOf d.digits
  let power : Int := d.exponent + digits.length - 1
  let mantissa :=
    match digits with
    | first :: rest@(_ :: _) => first :: '.' :: rest
    | short => short
  mantissa ++ mark :: (toString power).toList

/-- A JSON number for a decimal: positional, with at least one place, if its first digit stands
between `10 ^ -high` and `10 ^ high`, and otherwise with a power of ten. -/
def Digits.json (low high : Int) (d : Digits) : List Char :=
  let power : Int := d.exponent + (digitsOf d.digits).length
  if d.digits = 0 then ['0', '.', '0']
  else if 0 ≤ d.exponent && power ≤ high then d.positional ++ ['.', '0']
  else if low < power && power ≤ high then d.positional
  else d.withPower 'e'

/-- A signed text for a floating-point number, given the form of its finite absolute values. -/
def Parts.text (finite : Binary → List Char) (p : Parts) : String :=
  match p.magnitude with
  | .nan => "NaN"
  | .infinite => if p.negative then "-inf" else "inf"
  | .finite b => String.ofList (if p.negative then '-' :: finite b else finite b)

/-- The shortest decimal that reads back, without an exponent. -/
def plain (p : Parts) : String := p.text fun b => (shortest b).positional

/-- The decimal with `places` places nearest to the exact value. -/
def Binary.fixed (places : Nat) (b : Binary) : List Char :=
  let r := Binary.ratio b.mantissa b.exponent
  pointed (roundHalfEven (r.1 * Nat.pow 10 places) r.2) places

/-- The decimal with `places` places nearest to the exact value. -/
def fixed (places : Nat) (p : Parts) : String := p.text (Binary.fixed places)

/-- The decimal with `places + 1` digits nearest to the exact value. -/
def Binary.rounded (places : Nat) (b : Binary) : Digits :=
  if b.mantissa = 0 then ⟨0, 0⟩
  else
    let r := Binary.ratio b.mantissa b.exponent
    let scale := Binary.leadingPower r.1 r.2 - places
    let u := Binary.inUnits r.1 r.2 scale
    let n := roundHalfEven u.1 u.2
    if n = Nat.pow 10 (places + 1) then ⟨Nat.pow 10 places, scale + 1⟩ else ⟨n, scale⟩

/-- One digit, `places` more after the point, and the power of ten after an `E`. -/
def Binary.scientific (places : Nat) (b : Binary) : List Char :=
  if b.mantissa = 0 then pointed 0 places ++ ['E', '0']
  else (b.rounded places).withPower 'E'

/-- One digit, `places` more after the point, and the power of ten after an `E`. -/
def scientific (places : Nat) (p : Parts) : String := p.text (Binary.scientific places)

/-- The text of a double as a JSON number; JSON has no number for an infinite or undefined one. -/
def jsonFloat (x : Float) : String :=
  match (Parts.ofFloat x).magnitude with
  | .finite _ => (Parts.ofFloat x).text fun b => (shortest b).json (-5) 16
  | _ => "null"

/-- The text of a single as a JSON number; JSON has no number for an infinite or undefined one. -/
def jsonFloat32 (x : Float32) : String :=
  match (Parts.ofFloat32 x).magnitude with
  | .finite _ => (Parts.ofFloat32 x).text fun b => (shortest b).json (-6) 13
  | _ => "null"

end DataGrid.Decimal
