import DataGrid.Feature.Step

/-!
# Selecting rows

A press on a row handle selects the row, adds it to the selection or takes it out, or reaches from
the row that was pressed before; a drag reaches to the row under the pointer.
-/

namespace DataGrid

/-- How rows are being selected. -/
structure RowSelection where
  /-- The row that a range reaches from. -/
  anchor : Option Nat
  dragging : Bool

namespace RowSelection

variable {α σ : Type}

/-- Nothing is dragged. -/
def idle : RowSelection := ⟨none, false⟩

/-- The row whose handle is pressed. -/
def pressed? (m : Model α σ) (e : PointerEvent α) : Option Nat :=
  if e.button = .primary && m.config.rowSelection then
    (e.cell?.filter (·.cell.isHandleCell)).map (·.cell.row.row)
  else none

/-- The selection and the anchor after a press on a row. -/
def press (s : Selection) (anchor : Option Nat) (modifiers : Modifiers) (row : Nat) :
    Selection × Option Nat :=
  match modifiers.shift, anchor, s.last? .rows with
  | true, some a, some _ => (s.extendLast (.rows a row), anchor)
  | _, _, _ =>
    if modifiers.toggle && s.isRowSelected row then (s.deselectRow row, some row)
    else (s.push (.rows row row) modifiers.toggle, some row)

/-- Answer an input. -/
def handle (s : RowSelection) (input : Input α) (t : GridTurn α σ) :
    Step RowSelection (Model α σ) :=
  match input with
  | .pointer .down e =>
    match pressed? t.model e with
    | none => .pass s t
    | some row =>
      let (selection, anchor) := press t.model.selection s.anchor e.modifiers row
      .stop ⟨anchor, true⟩ (t.modify fun m => m.select selection)
  | .pointer .drag e =>
    if !s.dragging then .pass s t
    else
      match s.anchor, e.cell?.filter (·.cell.isDataRow) with
      | some a, some c =>
        let next := Range.rows a c.cell.row.row
        if t.model.selection.last? .rows = some next then .stop s t
        else .stop s (t.modify fun m => m.select (m.selection.extendLast next))
      | _, _ => .stop s t
  | .pointer .up _ => if s.dragging then .stop { s with dragging := false } t else .pass s t
  | _ => .pass s t

end RowSelection

end DataGrid
