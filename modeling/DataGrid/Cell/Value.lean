import DataGrid.Decimal.Reader
import DataGrid.Decimal.Text
import DataGrid.Text.Blank

/-!
# Cell values

A cell holds nothing, a truth value, a number or a text.  `CellValue.parse` makes a value of a
field of a loaded document, and `CellValue.display` is the plain text of a value.
-/

namespace DataGrid

/-- The value of a cell. -/
inductive CellValue where
  | empty
  | bool (b : Bool)
  | number (x : Float)
  | text (s : String)

instance : Inhabited CellValue := ⟨.empty⟩

namespace CellValue

/-- The truth value that a word names. -/
def word? : String → Option Bool
  | "true" | "TRUE" | "True" => some true
  | "false" | "FALSE" | "False" => some false
  | _ => none

/-- The finite number that a text writes. -/
def finite? (text : List Char) : Option Float :=
  (Decimal.Numeral.read? text).bind fun n =>
    if n.toFloat.isFinite then some n.toFloat else none

/-- The value of a field: nothing if it is blank, else a finite number or a truth value if its
trimmed text is one, and else the field as it stands. -/
def parse (raw : String) : CellValue :=
  let trimmed := Text.trim raw.toList
  if trimmed.isEmpty then .empty
  else
    match finite? trimmed with
    | some x => .number x
    | none =>
      match word? (String.ofList trimmed) with
      | some b => .bool b
      | none => .text raw

/-- The plain text of a value. -/
def display : CellValue → String
  | .empty => ""
  | .bool b => if b then "true" else "false"
  | .number x => Decimal.plain (Decimal.Parts.ofFloat x)
  | .text s => s

/-- The number of a numeric value. -/
def number? : CellValue → Option Float
  | .number x => some x
  | _ => none

def isEmpty : CellValue → Bool
  | .empty => true
  | _ => false

end CellValue

end DataGrid
