import DataGrid.Column
import DataGrid.Columns.Order
import DataGrid.Config
import DataGrid.Error
import DataGrid.Notice
import DataGrid.Text.Blank

/-!
# The columns of a grid

`Columns` holds every column of a grid, the two synthetic ones among them, and the list of the
data columns that are shown, in order.  The list names columns by their identity, so a column is
the same whichever way it is reached.  Changes of the list wait as notices until they are taken.
-/

namespace DataGrid

/-- The columns of a grid and the order in which they are shown. -/
structure Columns (α : Type) where
  /-- The data columns, in table order. -/
  data : Array (Column α)
  handle : Column α
  tree : Column α
  shown : List ColumnId
  /-- Changes of the order that nobody has been told of. -/
  notices : List (Notice α)

namespace Columns

/-- Which list the indexes of a request count in. -/
inductive Source where
  /-- The shown columns. -/
  | shown
  /-- All data columns. -/
  | all
deriving DecidableEq

/-- Where columns are shown. -/
inductive Placement where
  /-- Before the shown column at an index, or at the end if there is none. -/
  | before (index : Nat)
  | atEnd
  /-- Nowhere: they are taken away. -/
  | removeOnly
deriving DecidableEq

variable {α : Type}

section Build

variable [Pixel α]

/-- The row handle of a new grid. -/
def handleColumn (config : Config α) : Column α :=
  { Column.ofName .rowHandle "" config.rowHandleWidth config.minimumColumnWidth with
    locked := true }

/-- The tree column of a new grid. -/
def treeColumn (config : Config α) : Column α :=
  Column.ofName .tree "Tree" config.treeWidth config.minimumColumnWidth

/-- The synthetic columns alone. -/
def empty (config : Config α) : Columns α where
  data := #[]
  handle := handleColumn config
  tree := treeColumn config
  shown := []
  notices := []

/-- Keep the first of the entries that follow one another with the same index. -/
def firstOfIndex : List ColumnSchema → List ColumnSchema
  | s :: t :: rest =>
    if s.index = t.index then firstOfIndex (s :: rest) else s :: firstOfIndex (t :: rest)
  | short => short
termination_by schema => schema.length

/-- A schema in the order of its indexes, with one entry for an index. -/
def sortedSchema (schema : List ColumnSchema) : List ColumnSchema :=
  firstOfIndex (schema.mergeSort fun s t => s.index ≤ t.index)

/-- The data column for an entry of a schema. -/
def dataColumn (config : Config α) (index : Nat) (s : ColumnSchema) : Column α :=
  let column : Column α :=
    { Column.ofName (.data index) s.name config.columnWidth config.minimumColumnWidth with
      header := s.header
      typeName := s.typeName
      maximum := config.maximumColumnWidth }
  column.resize config.columnWidth

omit [Pixel α] in
/-- Note a change of the shown list, if there is one. -/
def noteShown (c : Columns α) (before : List ColumnId) : Columns α :=
  if before = c.shown then c
  else { c with notices := c.notices ++ [.shownColumnsChanged before c.shown] }

omit [Pixel α] in
/-- Show these columns. -/
def setShown (c : Columns α) (next : List ColumnId) : Columns α :=
  { c with shown := next }.noteShown c.shown

/-- Build all columns anew from a schema and show all data columns.  The synthetic columns keep
their widths, as far as the limits allow, and their properties. -/
def reset (c : Columns α) (schema : List ColumnSchema) (config : Config α) : Columns α :=
  let data := ((sortedSchema schema).zipIdx.map fun (s, i) => dataColumn config i s).toArray
  { data := data
    handle :=
      { (handleColumn config).resize c.handle.width with properties := c.handle.properties }
    tree := { (treeColumn config).resize c.tree.width with properties := c.tree.properties }
    shown := (List.range data.size).map .data
    notices := c.notices : Columns α }.noteShown c.shown

/-- The columns of a schema, all of them shown. -/
def ofSchema (schema : List ColumnSchema) (config : Config α) : Columns α :=
  { (empty config).reset schema config with notices := [] }

end Build

/-- The column of an identity. -/
def column? (c : Columns α) : ColumnId → Option (Column α)
  | .rowHandle => some c.handle
  | .tree => some c.tree
  | .data i => c.data[i]?

/-- Change the column of an identity, if there is one. -/
def modify (c : Columns α) (id : ColumnId) (f : Column α → Column α) : Columns α :=
  match id with
  | .rowHandle => { c with handle := f c.handle }
  | .tree => { c with tree := f c.tree }
  | .data i => { c with data := c.data.modify i f }

/-- The column in a slot; the synthetic slots always hold theirs. -/
def at? (c : Columns α) : Slot → Option (Column α)
  | .rowHandle => some c.handle
  | .tree => some c.tree
  | .shown i => c.shown[i]?.bind c.column?

/-- A whole number without a sign, or with a plus, that fits in 64 bits. -/
def index? (text : List Char) : Option Nat :=
  let digits := match text with
    | '+' :: rest => rest
    | _ => text
  if digits.isEmpty || !digits.all Char.isDigit then none
  else
    let n := digits.foldl (fun n c => 10 * n + (c.toNat - '0'.toNat)) 0
    if n < UInt64.size then some n else none

/-- The column in the slot that a text names: `-2` the row handle, `-1` the tree column, and
otherwise an index among the shown columns. -/
def byText? (c : Columns α) (text : String) : Option (Column α) :=
  let trimmed := Text.trim text.toList
  if trimmed = ['-', '2'] then c.at? .rowHandle
  else if trimmed = ['-', '1'] then c.at? .tree
  else (index? trimmed).bind fun i => c.at? (.shown i)

/-- Where a column is shown first. -/
def shownIndex? (c : Columns α) (id : ColumnId) : Option Nat := c.shown.idxOf? id

/-- The number of shown columns. -/
def shownCount (c : Columns α) : Nat := c.shown.length

/-- The shown columns, in order. -/
def shownColumns (c : Columns α) : List (Column α) := c.shown.filterMap c.column?

/-- The width of the column in a slot. -/
def width? (c : Columns α) (slot : Slot) : Option α := (c.at? slot).map (·.width)

/-- The data columns that are not shown, in table order. -/
def hidden (c : Columns α) : List (Column α) := c.data.toList.filter fun d => !c.shown.contains d.id

/-- The columns that a request names; an index that names none is dropped. -/
def pick (c : Columns α) (source : Source) (indexes : List Nat) : List ColumnId :=
  indexes.filterMap fun i =>
    match source with
    | .shown => c.shown[i]?
    | .all => c.data[i]?.map (·.id)

/-- A list of columns and the index before which others are to be put into it. -/
structure Opening where
  shown : List ColumnId
  index : Nat

namespace Opening

/-- The opening in the shown list for a placement. -/
def ofPlacement (shown : List ColumnId) : Placement → Opening
  | .before i => ⟨shown, i⟩
  | .atEnd | .removeOnly => ⟨shown, shown.length⟩

/-- Take the item at an index out.  The opening stays before the item that it was before. -/
def eraseAt (o : Opening) (i : Nat) : Opening :=
  ⟨o.shown.eraseIdx i, if i < o.index then o.index - 1 else o.index⟩

/-- Take every copy of a column out, one after the other. -/
def without (o : Opening) (id : ColumnId) : Opening :=
  match _h : o.shown.idxOf? id with
  | none => o
  | some i => (o.eraseAt i).without id
termination_by o.shown.length
decreasing_by
  obtain ⟨hi, -⟩ := List.idxOf?_eq_some_iff.mp _h
  rw [eraseAt, List.length_eraseIdx_of_lt hi]
  omega

/-- Put columns into the opening; one behind the end of the list is at the end. -/
def fill (o : Opening) (picked : List ColumnId) : List ColumnId :=
  insertAt (min o.index o.shown.length) picked o.shown

end Opening

/-- The shown list when `picked` is placed in it.  Unless duplicates are allowed, what is picked
is taken out first. -/
def arrange (shown picked : List ColumnId) (placement : Placement) (duplicates : Bool) :
    List ColumnId :=
  let start := Opening.ofPlacement shown placement
  let opening := if duplicates then start else picked.foldl Opening.without start
  match placement with
  | .before _ => opening.fill picked
  | .atEnd => opening.shown ++ picked
  | .removeOnly => opening.shown

/-- Show columns at a place. -/
def showColumns (c : Columns α) (source : Source) (indexes : List Nat) (placement : Placement)
    (duplicates : Bool) : Columns α :=
  c.setShown (arrange c.shown (c.pick source indexes) placement duplicates)

/-- Take columns out of the shown list. -/
def hideColumns (c : Columns α) (source : Source) (indexes : List Nat) : Columns α :=
  c.showColumns source indexes .removeOnly false

/-- Show the same columns in another order; `none` if the order is the same. -/
def reorder? (c : Columns α) (next : List ColumnId) : Option (Columns α) :=
  if next = c.shown then none
  else some { c with
    shown := next
    notices := c.notices ++ [.columnsReordered c.shown next] }

/-- Move a run of shown columns before the one at `target`; `none` if nothing changes. -/
def move? (c : Columns α) (start count target : Nat) : Option (Columns α) :=
  (moveRun? c.shown start count target).bind c.reorder?

/-- Exchange the items at two indexes. -/
def swapItems {β : Type} (xs : List β) (a b : Nat) : List β :=
  match xs[a]?, xs[b]? with
  | some x, some y => (xs.set a y).set b x
  | _, _ => xs

/-- Exchange two shown columns; `none` if there is nothing to exchange. -/
def swap? (c : Columns α) (a b : Nat) : Option (Columns α) :=
  if a = b ∨ c.shown.length ≤ a ∨ c.shown.length ≤ b then none
  else
    let next := swapItems c.shown a b
    some { c with
      shown := next
      notices := c.notices ++ [.columnsReordered c.shown next] }

/-- Change the properties of a column that has to exist. -/
def modifyProperties (c : Columns α) (id : ColumnId) (f : Column α → Column α) :
    Except GridError (Columns α) :=
  match c.column? id with
  | some _ => .ok (c.modify id f)
  | none => .error (.columnNotFound id)

/-- Replace the properties of a column. -/
def setProperties (c : Columns α) (id : ColumnId) (p : Properties) :
    Except GridError (Columns α) :=
  c.modifyProperties id fun d => { d with properties := p }

/-- Lay properties over those of a column. -/
def addProperties (c : Columns α) (id : ColumnId) (p : Properties) :
    Except GridError (Columns α) :=
  c.modifyProperties id fun d => d.addProperties p

/-- Give a column a width, as far as its limits allow. -/
def setWidth [Pixel α] (c : Columns α) (id : ColumnId) (w : α) : Columns α :=
  c.modify id fun d => d.resize w

/-- The places in the table of the shown columns, in order. -/
def order (c : Columns α) : List Nat := c.shown.filterMap ColumnId.dataIndex?

/-- The columns at these places; places where there is none and repeated ones are dropped. -/
def ordered (c : Columns α) (order : List Nat) : List ColumnId :=
  order.foldl (fun next i =>
    if i < c.data.size ∧ ¬ next.contains (.data i) then next ++ [.data i] else next) []

/-- Show the columns at these places. -/
def setOrder (c : Columns α) (order : List Nat) : Columns α := c.setShown (c.ordered order)

/-- The notices that wait, and the columns without them. -/
def takeNotices (c : Columns α) : List (Notice α) × Columns α :=
  (c.notices, { c with notices := [] })

end Columns

end DataGrid
