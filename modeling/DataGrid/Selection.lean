/-!
# Selections

A selection is a list of ranges of cells, rows or columns, in the order in which they were made.
Rows are counted in the data and columns among the shown ones.  A range keeps the cell it was
begun at and the cell it reaches, in either order; a range of rows reaches from the first column
to beyond the last one, and a range of columns from the first row to beyond the last one.
-/

namespace DataGrid

/-- The kinds of ranges. -/
inductive RangeKind where
  | cells
  | rows
  | columns
deriving DecidableEq

/-- One selected range. -/
structure Range where
  kind : RangeKind
  startRow : Nat
  startColumn : Nat
  endRow : Nat
  endColumn : Nat
deriving DecidableEq

namespace Range

/-- An index beyond every row and column. -/
def beyond : Nat := UInt64.size - 1

/-- The cells from one corner to the opposite one. -/
def cells (startRow startColumn endRow endColumn : Nat) : Range :=
  ⟨.cells, startRow, startColumn, endRow, endColumn⟩

/-- Whole rows. -/
def rows (first last : Nat) : Range := ⟨.rows, first, 0, last, beyond⟩

/-- Whole columns. -/
def columns (first last : Nat) : Range := ⟨.columns, 0, first, beyond, last⟩

def firstRow (r : Range) : Nat := min r.startRow r.endRow

def lastRow (r : Range) : Nat := max r.startRow r.endRow

def firstColumn (r : Range) : Nat := min r.startColumn r.endColumn

def lastColumn (r : Range) : Nat := max r.startColumn r.endColumn

/-- Whether a row lies between the ends of the range. -/
def holdsRow (r : Range) (row : Nat) : Bool := r.firstRow ≤ row && row ≤ r.lastRow

/-- Whether a column lies between the ends of the range. -/
def holdsColumn (r : Range) (column : Nat) : Bool :=
  r.firstColumn ≤ column && column ≤ r.lastColumn

/-- Whether a cell lies between the corners of the range. -/
def contains (r : Range) (row column : Nat) : Bool := r.holdsRow row && r.holdsColumn column

/-- The indexes from `first` to `last`, both included. -/
def indexes (first last : Nat) : List Nat := List.range' first (last + 1 - first)

/-- The columns of the range. -/
def columnIndexes (r : Range) : List Nat := indexes r.firstColumn r.lastColumn

/-- The rows of the range. -/
def rowIndexes (r : Range) : List Nat := indexes r.firstRow r.lastRow

theorem mem_indexes {first last i : Nat} :
  i ∈ indexes first last ↔ first ≤ i ∧ i ≤ last
  := by
  simp only [indexes, List.mem_range'_1]
  omega

/-- What is left of a range of rows without one of them. -/
def withoutRow (r : Range) (row : Nat) : List Range :=
  if r.kind = .rows && r.holdsRow row then
    (if r.firstRow < row then [rows r.firstRow (row - 1)] else [])
      ++ (if row < r.lastRow then [rows (row + 1) r.lastRow] else [])
  else [r]

/-- What is left of a range of columns without one of them. -/
def withoutColumn (r : Range) (column : Nat) : List Range :=
  if r.kind = .columns && r.holdsColumn column then
    (if r.firstColumn < column then [columns r.firstColumn (column - 1)] else [])
      ++ (if column < r.lastColumn then [columns (column + 1) r.lastColumn] else [])
  else [r]

end Range

/-- The ranges that are selected, in the order in which they were made. -/
structure Selection where
  ranges : List Range
deriving DecidableEq

namespace Selection

/-- Nothing is selected. -/
def empty : Selection := ⟨[]⟩

def isEmpty (s : Selection) : Bool := s.ranges.isEmpty

/-- Add a range; without `keep` it takes the place of all others. -/
def push (s : Selection) (r : Range) (keep : Bool) : Selection :=
  ⟨(if keep then s.ranges else []) ++ [r]⟩

/-- Replace the first range of the kind of `r` in a list, or add `r` after the list. -/
def replaceFirst (r : Range) : List Range → Option (List Range)
  | [] => none
  | q :: rest => if q.kind = r.kind then some (r :: rest) else (replaceFirst r rest).map (q :: ·)

/-- Replace the latest range of the same kind, or add the range if there is none. -/
def extendLast (s : Selection) (r : Range) : Selection :=
  match replaceFirst r s.ranges.reverse with
  | some reversed => ⟨reversed.reverse⟩
  | none => ⟨s.ranges ++ [r]⟩

/-- The latest range of a kind. -/
def last? (s : Selection) (kind : RangeKind) : Option Range :=
  s.ranges.reverse.find? (·.kind = kind)

/-- Select columns in place of the columns that were selected. -/
def selectColumns (s : Selection) (first last : Nat) : Selection :=
  ⟨s.ranges.filter (·.kind ≠ .columns) ++ [Range.columns first last]⟩

/-- Take one column out of the ranges of columns. -/
def deselectColumn (s : Selection) (column : Nat) : Selection :=
  ⟨s.ranges.flatMap (·.withoutColumn column)⟩

/-- Take one row out of the ranges of rows. -/
def deselectRow (s : Selection) (row : Nat) : Selection :=
  ⟨s.ranges.flatMap (·.withoutRow row)⟩

def isColumnSelected (s : Selection) (column : Nat) : Bool :=
  s.ranges.any fun r => r.kind = .columns && r.holdsColumn column

def isRowSelected (s : Selection) (row : Nat) : Bool :=
  s.ranges.any fun r => r.kind = .rows && r.holdsRow row

def isCellSelected (s : Selection) (row column : Nat) : Bool :=
  s.ranges.any fun r => r.kind = .cells && r.contains row column

/-- Drop every number that equals the one before it. -/
def dedup : List Nat → List Nat
  | a :: b :: rest => if a = b then dedup (b :: rest) else a :: dedup (b :: rest)
  | short => short

/-- The numbers of a list in ascending order, each once. -/
def sorted (xs : List Nat) : List Nat := dedup (xs.mergeSort (· ≤ ·))

/-- The selected columns, ascending. -/
def selectedColumns (s : Selection) : List Nat :=
  sorted ((s.ranges.filter (·.kind = .columns)).flatMap Range.columnIndexes)

/-- The selected rows, ascending. -/
def selectedRows (s : Selection) : List Nat :=
  sorted ((s.ranges.filter (·.kind = .rows)).flatMap Range.rowIndexes)

/-- Whether each number of a list is one more than the number before it. -/
def isContiguous : List Nat → Bool
  | a :: b :: rest => b = a + 1 && isContiguous (b :: rest)
  | _ => true

/-- The runs of an ascending list: the first and last number of each stretch without a gap. -/
def runs : List Nat → List (Nat × Nat)
  | [] => []
  | a :: rest =>
    match runs rest with
    | (first, last) :: more =>
      if first = a + 1 then (a, last) :: more else (a, a) :: (first, last) :: more
    | [] => [(a, a)]

/-- A range of cells after its columns have moved to new positions; it is dropped if its columns
are no longer side by side. -/
def remapCells (positions : Array Nat) (r : Range) : Option Range :=
  let columns := (r.columnIndexes.filterMap (positions[·]?)).mergeSort (· ≤ ·)
  match columns.head?, columns.getLast? with
  | some first, some last =>
    if isContiguous columns then some (.cells r.firstRow first r.lastRow last) else none
  | _, _ => none

/-- Follow a move of the shown columns, where `positions[i]` is the new index of column `i`.
Ranges of columns are built anew from the runs of the columns that they held. -/
def remapColumns (s : Selection) (positions : Array Nat) : Selection :=
  let kept := s.ranges.filterMap fun r =>
    match r.kind with
    | .rows => some r
    | .columns => none
    | .cells => remapCells positions r
  let columns :=
    sorted ((s.ranges.filter (·.kind = .columns)).flatMap fun r =>
      r.columnIndexes.filterMap (positions[·]?))
  ⟨kept ++ (runs columns).map fun run => .columns run.1 run.2⟩

end Selection

end DataGrid
