import DataGrid.Feature.Step

/-!
# Asking for a context menu

A press of the secondary button on a cell asks for a context menu, and so does an event of that
name.  If a press is followed by such an event, the menu is asked for once.
-/

namespace DataGrid

/-- How a context menu is asked for. -/
structure ContextMenu where
  /-- Whether the last press has asked for one. -/
  fromPress : Bool

namespace ContextMenu

variable {α σ : Type}

/-- Nothing has been asked for. -/
def idle : ContextMenu := ⟨false⟩

/-- The notice that asks for the context menu of the cell under the pointer. -/
def request? (e : PointerEvent α) : Option (Notice α) :=
  e.cell?.map fun c => .contextMenuRequested e.point c.cell.gridCell c.cell.dataCell

/-- Answer an input. -/
def handle (s : ContextMenu) (input : Input α) (t : GridTurn α σ) :
    Step ContextMenu (Model α σ) :=
  match input with
  | .pointer .down e =>
    match if e.button = .secondary then request? e else none with
    | some n => .stop ⟨true⟩ (t.modify fun m => m.emit n)
    | none => .pass ⟨false⟩ t
  | .pointer .contextMenu e =>
    if s.fromPress then .stop ⟨false⟩ t
    else
      match request? e with
      | some n => .stop ⟨false⟩ (t.modify fun m => m.emit n)
      | none => .pass ⟨false⟩ t
  | _ => .pass s t

end ContextMenu

end DataGrid
