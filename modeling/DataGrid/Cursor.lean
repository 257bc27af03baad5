import DataGrid.Scene

/-!
# Cell cursors

A `Cursor` looks at one cell at a time.  It works out the properties, the text and the rectangle of
the cell when they are first asked for and keeps them until it is bound anew or told to forget
them; writing through the cursor forgets what the write may change.  A cursor that was forked with
properties of its own keeps these, whatever happens to the cell.
-/

namespace DataGrid

/-- A cursor on a cell, with what has been worked out about it. -/
structure Cursor (α : Type) where
  binding? : Option (Binding α)
  /-- Properties that stand for those of the cell alone. -/
  own? : Option Properties
  properties? : Option Properties
  text? : Option String
  bounds? : Option (Rect α)

namespace Cursor

variable {α σ : Type}

/-- A cursor on no cell. -/
def unbound : Cursor α := ⟨none, none, none, none, none⟩

/-- A cursor on a cell of which nothing has been worked out. -/
def ofBinding (b : Binding α) (own? : Option Properties) : Cursor α :=
  ⟨some b, own?, none, none, none⟩

def isBound (c : Cursor α) : Bool := c.binding?.isSome

/-- Forget what has been worked out. -/
def invalidate (c : Cursor α) : Cursor α :=
  { c with properties? := none, text? := none, bounds? := none }

/-- Bind a cursor to the cell of the screen in a column and a row.  What was worked out is
forgotten, and so are the properties of its own, for they were those of another cell. -/
def rebind [DataSource σ] (c : Cursor α) (s : Scene α σ) (column : PlacedColumn α)
    (row : PlacedRow α) : Cursor α :=
  { c.invalidate with binding? := some (.ofPlaced s column row), own? := none }

/-- Bind a cursor to the cell at a place on the grid, and tell whether it is on the screen.  If it
is not, the cursor stays as it was. -/
def goToGrid [DataSource σ] (c : Cursor α) (s : Scene α σ) (x : Slot) (y : Nat) :
    Bool × Cursor α :=
  match s.layout.bySlot? x, s.layout.rows[y]? with
  | some column, some row => (true, c.rebind s column row)
  | _, _ => (false, c)

/-- Bind a cursor to the cell at a place in the table, and tell whether it is on the screen.  If it
is not, the cursor stays as it was. -/
def goToData [DataSource σ] (c : Cursor α) (s : Scene α σ) (x : ColumnId) (y : Nat) (band : Band) :
    Bool × Cursor α :=
  match s.layout.byId? x, s.layout.byRow? y band with
  | some column, some row => (true, c.rebind s column row)
  | _, _ => (false, c)

/-- The cursor on the cell at a place on the grid, if it is on the screen. -/
def toGrid? [DataSource σ] (s : Scene α σ) (x : Slot) (y : Nat) : Option (Cursor α) :=
  (Binding.ofGrid? s x y).map fun b => ofBinding b none

/-- The cursor on the cell at a place in the table, if it is on the screen. -/
def toData? [DataSource σ] (s : Scene α σ) (x : ColumnId) (y : Nat) (band : Band) :
    Option (Cursor α) :=
  (Binding.ofData? s x y band).map fun b => ofBinding b none

/-- Another cursor on the same cell.  With `copyOwn` it keeps the properties that the cell alone
has now. -/
def fork [DataSource σ] (c : Cursor α) (s : Scene α σ) (copyOwn : Bool) : Cursor α :=
  let own := c.own?.or (c.binding?.bind fun b => b.storedProperties? s)
  { unbound with
    binding? := c.binding?
    own? := if copyOwn then some (own.getD .empty) else none }

/-- The properties of the cell. -/
def properties [DataSource σ] (c : Cursor α) (b : Binding α) (s : Scene α σ) :
    Properties × Cursor α :=
  match c.properties? with
  | some p => (p, c)
  | none =>
    let p := b.properties s c.own?
    (p, { c with properties? := some p })

/-- The value of the cell. -/
def value [DataSource σ] (c : Cursor α) (b : Binding α) (s : Scene α σ) : CellValue × Cursor α :=
  if b.valueIsProperty then
    let (p, c) := c.properties b s
    (b.value s p, c)
  else (b.value s .empty, c)

/-- The display text of the cell. -/
def text [DataSource σ] (c : Cursor α) (b : Binding α) (s : Scene α σ) : String × Cursor α :=
  match c.text? with
  | some t => (t, c)
  | none =>
    let (p, c) := c.properties b s
    let t := b.text s p
    (t, { c with text? := some t })

/-- The rectangle of the cell. -/
def bounds [Pixel α] [DataSource σ] (c : Cursor α) (b : Binding α) (s : Scene α σ) :
    Rect α × Cursor α :=
  match c.bounds? with
  | some r => (r, c)
  | none =>
    let r := b.bounds s
    (r, { c with bounds? := some r })

/-- Write a value where the value of the cell comes from; only data cells have values to write. -/
def setValue? [DataSource σ] (c : Cursor α) (data : σ) (value : CellValue) :
    Option (Cursor α × σ) :=
  c.binding?.bind fun b =>
    match b.valueCell.band, b.valueCell.x with
    | .data, .data x =>
      some ({ c with text? := none }, DataSource.setValue data x b.valueCell.y value)
    | _, _ => none

/-- The properties of a row with one more property of the cell in the column of a name. -/
def withCellProperty (row : Properties) (column name : String) (value : Json) : Properties :=
  let cell := ((row.get? column).bind Json.properties?).getD .empty
  row.set column (.ofProperties (cell.set name value))

/-- Give the cell alone a property; only cells of data rows can have their own. -/
def setProperty? [DataSource σ] (c : Cursor α) (data : σ) (columns : Columns α) (name : String)
    (value : Json) : Option (Cursor α × σ) :=
  c.binding?.bind fun b =>
    if b.isDataRow then
      (columns.column? b.column.id).map fun column =>
        let row := (DataSource.rowProperties? data b.row.row).getD .empty
        ({ c with
            own? := c.own?.map fun own => own.set name value
            properties? := none
            text? := none },
          DataSource.setRowProperties data b.row.row
            (withCellProperty row column.name name value))
    else none

end Cursor

end DataGrid
