/-!
# Column identities and slots

A grid has the data columns of its table and two synthetic ones, the row handle and the tree
column, which always exist and stand before every data column.  A `ColumnId` says which column
it is; a `Slot` says where on the grid it stands: in one of the synthetic places, or at an index
of the list of shown columns.
-/

namespace DataGrid

/-- The identity of a column: a synthetic one, or a data column by its place in the table. -/
inductive ColumnId where
  | rowHandle
  | tree
  | data (index : Nat)
deriving DecidableEq

/-- A place for a column on the grid. -/
inductive Slot where
  | rowHandle
  | tree
  | shown (index : Nat)
deriving DecidableEq

namespace ColumnId

/-- The place in the table of a data column. -/
def dataIndex? : ColumnId → Option Nat
  | .data i => some i
  | _ => none

def isSynthetic : ColumnId → Bool
  | .data _ => false
  | _ => true

/-- The name of a column in messages. -/
def describe : ColumnId → String
  | .rowHandle => "row-handle"
  | .tree => "tree"
  | .data i => "#" ++ toString i

/-- The row handle stands first, then the tree column, then the data columns in table order. -/
def le : ColumnId → ColumnId → Bool
  | .rowHandle, _ => true
  | _, .rowHandle => false
  | .tree, _ => true
  | _, .tree => false
  | .data i, .data j => i ≤ j

@[simp]
theorem dataIndex?_eq_some {c : ColumnId} {i : Nat} :
  c.dataIndex? = some i ↔ c = .data i
  := by
  cases c <;> simp [dataIndex?]

end ColumnId

namespace Slot

/-- The index in the list of shown columns. -/
def shownIndex? : Slot → Option Nat
  | .shown i => some i
  | _ => none

/-- The synthetic places stand before the shown columns. -/
def le : Slot → Slot → Bool
  | .rowHandle, _ => true
  | _, .rowHandle => false
  | .tree, _ => true
  | _, .tree => false
  | .shown i, .shown j => i ≤ j

@[simp]
theorem shownIndex?_eq_some {s : Slot} {i : Nat} :
  s.shownIndex? = some i ↔ s = .shown i
  := by
  cases s <;> simp [shownIndex?]

end Slot

end DataGrid
