import DataGrid.Feature.Step

/-!
# Selecting columns

A press on a header selects the column, adds it to the selection or takes it out, or reaches from
the column that was pressed before.  The press goes on, so that it can begin a move of the column;
a drag reaches to the column under the pointer only where columns cannot be moved.
-/

namespace DataGrid

/-- How columns are being selected. -/
structure ColumnSelection where
  /-- The column that a range reaches from. -/
  anchor : Option Nat
  extending : Bool

namespace ColumnSelection

variable {α σ : Type}

/-- Nothing is dragged. -/
def idle : ColumnSelection := ⟨none, false⟩

/-- The column whose header is pressed. -/
def pressed? (e : PointerEvent α) : Option Nat :=
  if e.button = .primary then (e.cell?.filter (·.cell.isHeaderCell)).bind (·.cell.shownIndex?)
  else none

/-- The selection and the anchor after a press on a column. -/
def press (s : Selection) (anchor : Option Nat) (modifiers : Modifiers) (column : Nat) :
    Selection × Option Nat :=
  match modifiers.shift, anchor with
  | true, some a => (s.selectColumns a column, anchor)
  | _, _ =>
    if modifiers.toggle then
      if s.isColumnSelected column then (s.deselectColumn column, some column)
      else (s.push (.columns column column) true, some column)
    else if s.isColumnSelected column then (s, some column)
    else (s.push (.columns column column) false, some column)

/-- Answer an input. -/
def handle (s : ColumnSelection) (input : Input α) (t : GridTurn α σ) :
    Step ColumnSelection (Model α σ) :=
  match input with
  | .pointer .down e =>
    match pressed? e with
    | none => .pass s t
    | some column =>
      let (selection, anchor) := press t.model.selection s.anchor e.modifiers column
      .pass ⟨anchor, !t.model.config.columnsReorderable⟩
        (t.modify fun m => m.selectIfNew selection)
  | .pointer .drag e =>
    if !s.extending then .pass s t
    else
      match s.anchor, e.shownIndex? with
      | some a, some column =>
        if t.model.selection.last? .columns = some (.columns a column) then .stop s t
        else .stop s (t.modify fun m => m.select (m.selection.selectColumns a column))
      | _, _ => .stop s t
  | .pointer .up _ => .pass { s with extending := false } t
  | _ => .pass s t

end ColumnSelection

end DataGrid
