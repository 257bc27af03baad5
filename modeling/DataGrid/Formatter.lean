import DataGrid.Cell.Value
import DataGrid.Json

/-!
# Formatters

A formatter makes the display text of a value from the properties of its cell.  The property
`format` names it, and `decimals` sets the number of places of a number or percentage.
-/

namespace DataGrid

namespace Grouped

/-- Digits with a comma before every third one from the right; `rest` of them are left. -/
def commas : List Char → List Char
  | [] => []
  | c :: rest =>
    if rest.length % 3 = 0 && !rest.isEmpty then c :: ',' :: commas rest else c :: commas rest

/-- A decimal with commas between the groups of its whole part. -/
def group (text : List Char) : List Char :=
  commas (text.takeWhile (· ≠ '.')) ++ text.dropWhile (· ≠ '.')

/-- Whether a text writes zero, as far as its digits go. -/
def isZero (text : List Char) : Bool := text.all fun c => c = '0' || c = '.' || c = ','

/-- A grouped decimal with a minus in front if it is negative and not zero. -/
def signed (negative : Bool) (text : List Char) : List Char :=
  if negative && !isZero text then '-' :: group text else group text

end Grouped

/-- Make a display text from a value and the properties of its cell. -/
abbrev Formatter := CellValue → Properties → String

namespace Formatter

/-- Numbers go through `f`, all other values are shown plainly. -/
def ofNumber (f : Float → Properties → String) : Formatter := fun value props =>
  match value with
  | .number x => f x props
  | other => other.display

/-- No more places than this are shown. -/
def maxPlaces : Nat := 10

/-- The number of places that the properties ask for. -/
def places (props : Properties) (default : Nat) : Nat :=
  min (((props.get? "decimals").bind Json.nat?).getD default) maxPlaces

/-- A decimal without the zeros at its end, and without a point at its end. -/
def trimZeros (text : List Char) : List Char :=
  ((text.reverse.dropWhile (· = '0')).dropWhile (· = '.')).reverse

/-- Whole numbers below this are shown in full. -/
def largest : Float := 1e11

/-- Numbers nearer to zero than this are shown with a power of ten. -/
def smallest : Float := 1e-4

/-- A number as short as it can be: in full if it is whole, with a power of ten if it is very
large or very small, and else with up to ten places. -/
def generalNumber (x : Float) : String :=
  let parts := Decimal.Parts.ofFloat x
  if x == x.floor && x.abs < largest then
    if x == 0 then "0" else Decimal.plain parts
  else if largest ≤ x.abs || (x.abs < smallest && x != 0) then Decimal.scientific 5 parts
  else String.ofList (trimZeros (Decimal.fixed 10 parts).toList)

/-- A number with groups of three digits and the given number of places. -/
def groupedNumber (x : Float) (places : Nat) : String :=
  String.ofList
    (Grouped.signed (x < 0) (Decimal.fixed places (Decimal.Parts.ofFloat x.abs)).toList)

def text : Formatter := fun value _ => value.display

def general : Formatter := ofNumber fun x _ => generalNumber x

def number : Formatter := ofNumber fun x props => groupedNumber x (places props 2)

def integer : Formatter := ofNumber fun x _ => groupedNumber x.round 0

def percent : Formatter := ofNumber fun x props =>
  Decimal.fixed (places props 0) (Decimal.Parts.ofFloat (x * 100)) ++ "%"

end Formatter

/-- The formatters that go by a name. -/
structure Formatters where
  named : List (String × Formatter)

namespace Formatters

/-- The formatters every grid has. -/
def standard : Formatters :=
  ⟨[("default", .general), ("text", .text), ("number", .number), ("integer", .integer),
    ("percent", .percent)]⟩

/-- Give a formatter a name; it takes the place of an earlier one of that name. -/
def register (fs : Formatters) (name : String) (f : Formatter) : Formatters :=
  ⟨(name, f) :: fs.named⟩

/-- The formatter that the properties name, and the general one if there is none of that name. -/
def pick (fs : Formatters) (props : Properties) : Formatter :=
  let name := ((props.get? "format").bind Json.text?).getD "default"
  ((fs.named.find? (·.1 = name)).map (·.2)).getD .general

/-- The display text of a value. -/
def format (fs : Formatters) (value : CellValue) (props : Properties) : String :=
  fs.pick props value props

end Formatters

end DataGrid
