import DataGrid.Cell
import DataGrid.Geometry

/-!
# Notices

A grid tells its listeners what has changed with a `Notice`.  A `Notifier` keeps the listeners in
the order in which they subscribed and, for each, the notices it has heard.
-/

namespace DataGrid

/-- A change of a grid, with what was there before and after it. -/
inductive Notice (α : Type) where
  | columnResized (column : ColumnId) (before after : α)
  | columnsReordered (before after : List ColumnId)
  | fixedColumnsChanged (before after : Nat)
  | fixedRowsChanged (before after : Nat)
  | shownColumnsChanged (before after : List ColumnId)
  | selectionChanged
  | contextMenuRequested (point : Point α) (gridCell : GridCell) (dataCell : DataCell)

/-- The name of a notice. -/
def Notice.name {α : Type} : Notice α → String
  | .columnResized .. => "column-resized"
  | .columnsReordered .. => "columns-reordered"
  | .fixedColumnsChanged .. => "fixed-column-count-changed"
  | .fixedRowsChanged .. => "fixed-row-count-changed"
  | .shownColumnsChanged .. => "active-columns-changed"
  | .selectionChanged => "selection-changed"
  | .contextMenuRequested .. => "context-menu-requested"

/-- What one listener was told. -/
structure Delivery (α : Type) where
  listener : Nat
  notice : Notice α

/-- The listeners of a grid and what they have been told. -/
structure Notifier (α : Type) where
  /-- The numbers of the listeners, in the order in which they subscribed. -/
  listeners : List Nat
  /-- The number of the next listener. -/
  next : Nat
  /-- What has been told, in order. -/
  deliveries : List (Delivery α)

namespace Notifier

variable {α : Type}

/-- Nobody listens. -/
def empty : Notifier α := ⟨[], 0, []⟩

/-- Add a listener; gives its number. -/
def subscribe (n : Notifier α) : Nat × Notifier α :=
  (n.next, { n with listeners := n.listeners ++ [n.next], next := n.next + 1 })

/-- Whether a listener of this number is subscribed. -/
def isSubscribed (n : Notifier α) (listener : Nat) : Bool := n.listeners.contains listener

/-- Take a listener away. -/
def unsubscribe (n : Notifier α) (listener : Nat) : Notifier α :=
  { n with listeners := n.listeners.filter (· ≠ listener) }

/-- Tell every listener of each notice, one notice after the other. -/
def tell (n : Notifier α) (notices : List (Notice α)) : Notifier α :=
  { n with
    deliveries := n.deliveries ++ notices.flatMap fun e => n.listeners.map fun l => ⟨l, e⟩ }

/-- Forget what has been told. -/
def clear (n : Notifier α) : Notifier α := { n with deliveries := [] }

end Notifier

end DataGrid
